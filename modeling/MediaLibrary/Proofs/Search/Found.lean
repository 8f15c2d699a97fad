import Mathlib.Data.List.Basic
import MediaLibrary.Proofs.Database.Run
import MediaLibrary.Proofs.Page.Window
import MediaLibrary.Proofs.Selection.Matching
import MediaLibrary.Search.Basic

/-!
# Search — what a search finds

In a reachable database every row stands for a medium, and what a search finds is what
it means: the media that match its query and filters.

* `Store.matching` — the media that match, by id;
* `Store.Sound.read_rows` — the selected rows stand for them;
* `Database.search_rows`, `Database.search_on` — a search answers with the page of all that match;
* `search_finds_matching` — they are selected, and counted and shown as far as the store is asked
  in statements that it takes.
-/

namespace MediaLibrary

open Database (ready)
open Selection

namespace Store

variable {s : Store}

/-- The media that match a query and filters, by id. -/
def matching (s : Store) (q : Query) (f : Filters) : List Media :=
  (s.media.filterMap fun row => row.decode.toOption).filter fun m => m.Matches s q f

/-- The kind and the rating of every row are written in full. -/
theorem Sound.exists_words (h : s.Sound) {row : MediaRow} (hRow : row ∈ s.media) :
    ∃ (kind : MediaKind) (rating : Rating), row.kind = kind.name ∧ row.rating = rating.name := by
  obtain ⟨⟨kind, hKind⟩, rating, hRating⟩ := h.outline.words row.core (List.mem_map_of_mem hRow)
  exact ⟨kind, rating, hKind, hRating⟩

theorem Sound.decode_media (h : s.Sound) {row : MediaRow} (hRow : row ∈ s.media) :
    row.decode = .ok row.read := by
  obtain ⟨kind, rating, hKind, hRating⟩ := h.exists_words hRow
  exact MediaRow.decode_of_words hKind hRating

variable {q : Query} {f : Filters} {sel : Selection Condition}

/-- A row is selected if its medium matches. -/
theorem Sound.mem_rows (h : s.Sound) (hq : q.IsReadable) (hSel : compile q f = .ok sel)
    {row : MediaRow} (hRow : row ∈ s.media) : row ∈ sel.rows s ↔ row.read.Matches s q f := by
  obtain ⟨kind, rating, hKind, hRating⟩ := h.exists_words hRow
  rw [← holdsFor_iff_matches hSel hq hKind hRating]
  exact List.mem_filter.trans (and_iff_right hRow)

/-- The selected rows, read, are the media that match. -/
theorem Sound.read_rows (h : s.Sound) (hq : q.IsReadable) (hSel : compile q f = .ok sel) :
    (sel.rows s).map MediaRow.read = s.matching q f := by
  have hRead : (s.media.filterMap fun row => row.decode.toOption) = s.media.map MediaRow.read := by
    rw [List.filterMap_eq_map_iff_forall_eq_some]
    intro row hRow
    rw [h.decode_media hRow]
    rfl
  rw [matching, hRead, List.filter_map, rows]
  congr 1
  apply List.filter_congr
  intro row hRow
  obtain ⟨kind, rating, hKind, hRating⟩ := h.exists_words hRow
  rw [Bool.eq_iff_iff, Function.comp_apply, decide_eq_true_iff]
  exact holdsFor_iff_matches hSel hq hKind hRating

/-- Media that match are listed by their ids. -/
theorem Sound.matching_ids (h : s.Sound) (hq : q.IsReadable) (hSel : compile q f = .ok sel) :
    (s.matching q f).Pairwise (·.id < ·.id) := by
  rw [← h.read_rows hq hSel]
  exact List.pairwise_map.mpr (h.media_ids.filter _)

end Store

-- ---------------------------------------------------------------------------
-- Requests
-- ---------------------------------------------------------------------------

theorem Window.make_ok {limit : Int} {after before offset : Option Int} {anchor : Anchor}
    (hLimit : 1 ≤ limit) (hAnchor : Anchor.make after before offset = .ok anchor)
    (maxPageSize : Int) :
    Window.make limit after before offset maxPageSize =
      .ok ⟨min limit (max maxPageSize 1), anchor⟩ := by
  have hPositive : ¬limit ≤ 0 := by omega
  rw [Window.make, hAnchor, if_neg hPositive]
  rfl

/-- A window that was asked for begins where it was asked for, and holds what was asked for, cut to
the greatest page size. -/
theorem Window.eq_of_make {limit : Int} {after before offset : Option Int} {maxPageSize : Int}
    {w : Window} (h : Window.make limit after before offset maxPageSize = .ok w) :
    1 ≤ limit ∧ w.limit = min limit (max maxPageSize 1) ∧
      Anchor.make after before offset = .ok w.anchor := by
  unfold Window.make at h
  split at h
  · cases h
  · cases hAnchor : Anchor.make after before offset with
    | error fault =>
      rw [hAnchor] at h
      cases h
    | ok anchor =>
      rw [hAnchor] at h
      cases h
      exact ⟨by omega, rfl, rfl⟩

theorem Window.limit_eq_of_make {limit : Int} {after before offset : Option Int}
    {maxPageSize : Int} {w : Window}
    (h : Window.make limit after before offset maxPageSize = .ok w) :
    1 ≤ limit ∧ w.limit = min limit (max maxPageSize 1) := by
  obtain ⟨hLimit, hRoom, -⟩ := Window.eq_of_make h
  exact ⟨hLimit, hRoom⟩

/-- A window that was asked for has room. -/
theorem Window.limit_of_make {limit : Int} {after before offset : Option Int} {maxPageSize : Int}
    {w : Window} (h : Window.make limit after before offset maxPageSize = .ok w) : 1 ≤ w.limit := by
  have hLimit := Window.limit_eq_of_make h
  omega

theorem SearchRequest.plan_ok {r : SearchRequest} {maxPageSize : Int} {q : Query} {w : Window}
    {sel : Selection Selection.Condition} (hQuery : Query.parse r.query = .ok q)
    (hWindow : Window.make r.limit r.afterId r.beforeId r.offset maxPageSize = .ok w)
    (hSel : Selection.compile q r.filters = .ok sel) : r.plan maxPageSize = .ok (sel, w) := by
  rw [plan, hQuery, hWindow]
  show (do return (← Selection.compile q r.filters, w)) = _
  rw [hSel]
  rfl

namespace Database

variable {s : Store} {r : SearchRequest} {maxPageSize : Int} {q : Query} {w : Window}
  {sel : Selection Condition}

/-- Where tables exist and the lock works, a search makes its plan and fetches its page, and changes
nothing. What is said while the first statement is read would be said of it anyway. -/
theorem search_ready (r : SearchRequest) (maxPageSize : Int) (s : Store) :
    (search r maxPageSize).on (ready s) =
      ((r.plan maxPageSize).bind fun plan => Page.fetch plan.1 plan.2 s, ready s) := by
  cases hPlan : r.plan maxPageSize with
  | error e => simp [search, Work.on_bind, hPlan, Except.bind]
  | ok plan =>
    cases hRead : (Page.counting plan.1).read with
    | error e =>
      have hFetch : Page.fetch plan.1 plan.2 s = .error e := by
        rw [Page.fetch, Page.countMatches, Statement.prepare_of_read_error hRead]
        rfl
      simp [search, Work.on_bind, hPlan, hRead, hFetch, Except.bind]
    | ok levels =>
      cases hFetch : Page.fetch plan.1 plan.2 s <;>
        simp [search, Work.on_bind, hPlan, hRead, hFetch, Except.bind]

/-- A search whose query and window are in order answers with the page of the selected rows, if
these stand for media and the store takes its statements. -/
theorem search_rows (hQuery : Query.parse r.query = .ok q)
    (hWindow : Window.make r.limit r.afterId r.beforeId r.offset maxPageSize = .ok w)
    (hSel : compile q r.filters = .ok sel)
    (hRows : ∀ row ∈ sel.rows s, row.decode = .ok row.read) :
    (search r maxPageSize).on (ready s) =
      ((Page.prepared sel w (w.slice (·.id) (sel.rows s))).map fun _ =>
        Page.ofMatches w ((sel.rows s).map MediaRow.read), ready s) := by
  rw [search_ready, SearchRequest.plan_ok hQuery hWindow hSel,
    ← Page.fetch_eq (aligned_of_compile hSel) hRows (Window.limit_of_make hWindow)]
  rfl

/-- In a sound store the page is the one of all that match. -/
theorem search_on (h : s.Sound) (hQuery : Query.parse r.query = .ok q)
    (hWindow : Window.make r.limit r.afterId r.beforeId r.offset maxPageSize = .ok w)
    (hSel : compile q r.filters = .ok sel) :
    (search r maxPageSize).on (ready s) =
      ((Page.prepared sel w (w.slice (·.id) (sel.rows s))).map fun _ =>
        Page.ofMatches w (s.matching q r.filters), ready s) := by
  have hRead : ∀ row ∈ sel.rows s, row.decode = .ok row.read :=
    fun row hRow => h.decode_media (List.mem_filter.mp hRow).1
  rw [search_rows hQuery hWindow hSel hRead, h.read_rows (Query.isReadable_of_parse hQuery) hSel]

/-- No page of a query for a thousand names is fetched, whatever the store holds. -/
theorem search_thousand {text : String} (hQuery : Query.parse text = .ok (.ofNumbers 1000))
    (s : Store) {limit : Int} {after before offset : Option Int}
    (hWindow : Window.make limit after before offset maxPageSize = .ok w) :
    (search ⟨text, {}, limit, after, before, offset⟩ maxPageSize).on (ready s) =
      (.error (.storage .tooManyLevels), ready s) := by
  obtain ⟨sel, hSel, hRefused⟩ := Query.compile_thousand
  have hFetch : Page.fetch sel w s = .error (.storage .tooManyLevels) := by
    rw [Page.fetch, Page.countMatches, hRefused]
    rfl
  have hPlan := SearchRequest.plan_ok (r := ⟨text, {}, limit, after, before, offset⟩)
    hQuery hWindow hSel
  rw [search_ready, hPlan, ← hFetch]
  rfl

end Database

/-- In every reachable database, a query that was read from a text compiles with any filters, and
the selection finds just the media that match: its rows are theirs. If the store takes the statement
that counts, it is answered with their number, and if it takes the one that lists a window, this
shows its piece of them. Otherwise the store says which of its limits the statement is beyond. -/
theorem search_finds_matching {db : Database} (h : db.Reachable) {text : String} {q : Query}
    (hQuery : Query.parse text = .ok q) (f : Filters) :
    ∃ s sel, db.store = some s ∧ Selection.compile q f = .ok sel ∧
      (∀ row ∈ s.media, ∃ m, row.decode = .ok m ∧ (row ∈ sel.rows s ↔ m.Matches s q f)) ∧
      (sel.rows s).mapM MediaRow.decode = .ok (s.matching q f) ∧
      ((Page.counting sel).Accepted →
        Page.countMatches sel s = .ok (s.matching q f).length) ∧
      (¬(Page.counting sel).Accepted →
        ∃ e, Page.countMatches sel s = .error e ∧ (Page.counting sel).Refused e) ∧
      ∀ w : Window, 1 ≤ w.limit →
        ((Page.listing sel w.anchor).Accepted →
          Page.windowMedia sel w s = .ok (w.slice (·.id) (s.matching q f))) ∧
        (¬(Page.listing sel w.anchor).Accepted →
          ∃ e, Page.windowMedia sel w s = .error e ∧ (Page.listing sel w.anchor).Refused e) := by
  obtain ⟨s, rfl, hSound⟩ := h.sound
  obtain ⟨sel, hSel⟩ := exists_compile_of_parse hQuery f
  have hq := Query.isReadable_of_parse hQuery
  have hRead : ∀ row ∈ sel.rows s, row.decode = .ok row.read :=
    fun row hRow => hSound.decode_media (List.mem_filter.mp hRow).1
  have hCount : Page.countMatches sel s =
      (Page.counting sel).prepare.map fun _ => ((s.matching q f).length : Int) := by
    rw [Page.countMatches, ← hSound.read_rows hq hSel, List.length_map]
    cases (Page.counting sel).prepare <;> rfl
  refine ⟨s, sel, rfl, hSel, ?_, ?_, ?_, ?_, ?_⟩
  · intro row hRow
    exact ⟨row.read, hSound.decode_media hRow, hSound.mem_rows hq hSel hRow⟩
  · rw [mapM_decode hRead, hSound.read_rows hq hSel]
  · intro hAccepted
    rw [hCount, Statement.map_prepare_of_accepted hAccepted]
  · intro hRefused
    rw [hCount]
    exact Statement.exists_map_prepare_error hRefused _
  · intro w hLimit
    rw [Page.windowMedia_eq (aligned_of_compile hSel) hRead hLimit, hSound.read_rows hq hSel]
    exact ⟨fun hAccepted => Statement.map_prepare_of_accepted hAccepted _,
      fun hRefused => Statement.exists_map_prepare_error hRefused _⟩

/-- The image is found by names in other cases, of which one is optional and one is excluded. -/
theorem search_finds_taggedImage :
    Query.parse "ADA ~x or cAt -dog" = .ok ⟨["ADA"], ["x", "cAt"], ["dog"]⟩ ∧
      ∃ s sel media, Database.taggedImage.store = some s ∧
        Selection.compile ⟨["ADA"], ["x", "cAt"], ["dog"]⟩ { ratings := [.safe] } = .ok sel ∧
        Page.countMatches sel s = .ok 1 ∧
        Page.windowMedia sel ⟨5, .after 0⟩ s = .ok media ∧ media.map (·.id) = [1] := by
  have hQuery : Query.parse "ADA ~x or cAt -dog" = .ok ⟨["ADA"], ["x", "cAt"], ["dog"]⟩ := by cbv
  obtain ⟨s, sel, hStore, hSel, -, -, hCount, -, hWindow⟩ :=
    search_finds_matching Database.reachable_taggedImage hQuery { ratings := [.safe] }
  have hMatching : Database.taggedImage.store.map (fun s =>
      (s.matching ⟨["ADA"], ["x", "cAt"], ["dog"]⟩ { ratings := [.safe] }).map (·.id)) =
        some [1] := by
    decide +kernel
  rw [hStore, Option.map_some, Option.some_inj] at hMatching
  have hFits : sel.Fits := Selection.fits_of_compile hSel (by decide +kernel)
  refine ⟨hQuery, s, sel, _, hStore, hSel, ?_,
    (hWindow ⟨5, .after 0⟩ (by decide)).1 (hFits.listing _), ?_⟩
  · rw [hCount hFits.counting, ← List.length_map MediaRecord.id, hMatching]
    rfl
  · rw [← Window.slice_map ⟨5, .after 0⟩ (fun id => id) MediaRecord.id, hMatching]
    rfl

/-- A text with a thousand names is read and compiles, and no medium matches it; but the store does
not count them, though the database is new. -/
theorem count_of_thousand_names :
    ((Database.prepare 0).after {}).Reachable ∧
      Query.parse (Query.ofNumbers 1000).text = .ok (Query.ofNumbers 1000) ∧
      ∃ s sel, ((Database.prepare 0).after {}).store = some s ∧
        Selection.compile (Query.ofNumbers 1000) {} = .ok sel ∧
        s.matching (Query.ofNumbers 1000) {} = [] ∧
        Page.countMatches sel s = .error (.storage .tooManyLevels) ∧
        Page.countMatches sel s ≠ .ok 0 := by
  have hReachable : ((Database.prepare 0).after {}).Reachable := .prepared 0
  obtain ⟨sel, hSel, hRefused⟩ := Query.compile_thousand
  obtain ⟨s, hReady, -⟩ := hReachable.sound
  have hNone : s.media = [] :=
    Database.holds_of_ready hReady (fun s => s.media = []) (by decide +kernel)
  have hCount : Page.countMatches sel s = .error (.storage .tooManyLevels) := by
    rw [Page.countMatches, hRefused]
    rfl
  refine ⟨hReachable, Query.parse_ofNumbers 1000, s, sel, by rw [hReady]; rfl, hSel, ?_, hCount, ?_⟩
  · rw [Store.matching, hNone]
    rfl
  · rw [hCount]
    simp

end MediaLibrary
