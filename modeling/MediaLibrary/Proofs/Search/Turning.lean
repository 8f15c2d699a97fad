import MediaLibrary.Proofs.Page.Sequence
import MediaLibrary.Proofs.Search.Journey

/-!
# Search — turning pages

Where nobody changes the library, a page can be reached in three ways: by walking up to
it, by leaving out the matches before it, and by turning back from the page that follows
it. All three are answered with the same page, since they show the same piece of one list
of matches. Rows that no page shows may stand for nothing.

* `Store.Answers` — a request is answered with a page;
* `Database.walk_numbered` — a walk meets the numbered pages, one after the other;
* `walk_turns_pages` — walking, leaving out and turning back agree.
-/

namespace MediaLibrary

open Database (ready)
open Selection

/-- A request is answered with a page, and nothing changes. -/
def Store.Answers (s : Store) (maxPageSize : Int) (r : SearchRequest) (p : Page) : Prop :=
  (Database.search r maxPageSize).on (ready s) = (.ok p, ready s)

variable {s : Store} {text : String} {q : Query} {f : Filters} {sel : Selection Condition}
  {limit maxPageSize : Int} {size : Nat}

/-- A request at one of the three places of a page is answered with the page of its window. -/
theorem Store.answers_of_make (hQuery : Query.parse text = .ok q) (hSel : compile q f = .ok sel)
    (hFits : sel.Fits) (hRows : ∀ row ∈ sel.rows s, row.decode = .ok row.read)
    {after before offset : Option Int} {w : Window}
    (hWindow : Window.make limit after before offset maxPageSize = .ok w) :
    s.Answers maxPageSize ⟨text, f, limit, after, before, offset⟩
      (.ofMatches w ((sel.rows s).map MediaRow.read)) := by
  rw [Answers,
    Database.search_rows (r := ⟨text, f, limit, after, before, offset⟩) hQuery hWindow hSel hRows,
    Page.map_prepared_of_accepted (hFits.accepted _ _)]

/-- The window of a request has the size of a page. -/
theorem Window.make_eq (hSize : 1 ≤ size) (hLimit : min limit (max maxPageSize 1) = size)
    {after before offset : Option Int} {anchor : Anchor}
    (hAnchor : Anchor.make after before offset = .ok anchor) :
    Window.make limit after before offset maxPageSize = .ok ⟨size, anchor⟩ := by
  rw [Window.make_ok (by omega) hAnchor, hLimit]

/-- Leaving out the matches of the pages before it is answered with the numbered page. -/
theorem Store.answers_offset (hQuery : Query.parse text = .ok q) (hSel : compile q f = .ok sel)
    (hFits : sel.Fits) (hRows : ∀ row ∈ sel.rows s, row.decode = .ok row.read) (hSize : 1 ≤ size)
    (hLimit : min limit (max maxPageSize 1) = size) (k : Nat) :
    s.Answers maxPageSize ⟨text, f, limit, none, none, some (k * size : Nat)⟩
      (.numbered size ((sel.rows s).map MediaRow.read) k) := by
  cases hSkip : k * size with
  | zero =>
    have hFirst := answers_of_make hQuery hSel hFits hRows
      (Window.make_eq hSize hLimit (rfl : Anchor.make none none (some (0 : Nat)) = .ok .first))
    have hZero : k = 0 := by
      rcases Nat.mul_eq_zero.mp hSkip with hZero | hZero
      · exact hZero
      · omega
    rw [hZero, Page.numbered_zero]
    exact hFirst
  | succ n =>
    rw [Page.numbered, hSkip]
    exact answers_of_make hQuery hSel hFits hRows (Window.make_eq hSize hLimit rfl)

/-- A walk that has come to a numbered page goes on through all that follow. -/
theorem Database.walk_numbered (hQuery : Query.parse text = .ok q) (hSel : compile q f = .ok sel)
    (hFits : sel.Fits) (hOrder : s.media.Pairwise (·.id < ·.id))
    (hRows : ∀ row ∈ sel.rows s, row.decode = .ok row.read) (hSize : 1 ≤ size)
    (hLimit : min limit (max maxPageSize 1) = size) {all : List Media}
    (hAll : (sel.rows s).map MediaRow.read = all) (steps : Nat) {k : Nat} (start : Option Int)
    (hCount : k < Page.count size all.length)
    (hStart : Page.ofMatches ⟨size, .resume .forward start⟩ all = Page.numbered size all k) :
    (Database.walk .forward maxPageSize steps (.resume text f .forward start limit)).on (ready s) =
      (.ok (((List.range' k (Page.count size all.length - k)).map (Page.numbered size all)).take
        steps), ready s) := by
  have hIds : all.Pairwise (·.id < ·.id) := by
    rw [← hAll]
    exact List.pairwise_map.mpr (hOrder.filter _)
  induction steps generalizing k start with
  | zero => rfl
  | succ steps ih =>
    have hSearch : s.Answers maxPageSize (.resume text f .forward start limit)
        (Page.numbered size all k) := by
      rw [← hStart, ← hAll]
      refine Store.answers_of_make hQuery hSel hFits hRows (Window.make_eq hSize hLimit ?_)
      cases start <;> rfl
    have hLeft : Page.count size all.length - k = (Page.count size all.length - (k + 1)) + 1 := by
      omega
    rw [Database.walk, Work.on_bind, hSearch, hLeft, List.range'_succ]
    simp only [next?_resume]
    by_cases hNext : k + 1 < Page.count size all.length
    · obtain ⟨hFull, hMore, last, hLast, hAfter⟩ :=
        Page.after_numbered hIds hSize ((Page.succ_lt_count_iff hSize _ k).mp hNext)
      have hGoes : (Page.numbered size all k).goesOn .forward = true := by
        have hNe : (Page.numbered size all k).media ≠ [] := by
          intro hNil
          rw [hNil, List.length_nil] at hFull
          omega
        simp [Page.goesOn, hMore, hNe]
      have hExit : (Page.numbered size all k).exit .forward = some last := hLast
      have hRest := ih (some last) hNext hAfter
      simp only [hGoes, if_true, hExit, Work.on_bind, hRest]
      rfl
    · have hEnd : (Page.numbered size all k).hasMore = false := by
        refine Page.hasMore_numbered hIds ?_
        have := (Page.succ_lt_count_iff hSize all.length k).not.mp hNext
        omega
      have hStops : (Page.numbered size all k).goesOn .forward = false := by
        simp [Page.goesOn, hEnd]
      have hNone : Page.count size all.length - (k + 1) = 0 := by omega
      simp only [hStops, hNone]
      simp

/-- The page after a page leads back to it, and so does the page before it. -/
theorem Store.answers_turned (hQuery : Query.parse text = .ok q) (hSel : compile q f = .ok sel)
    (hFits : sel.Fits) (hOrder : s.media.Pairwise (·.id < ·.id))
    (hRows : ∀ row ∈ sel.rows s, row.decode = .ok row.read) (hSize : 1 ≤ size)
    (hLimit : min limit (max maxPageSize 1) = size) {anchor : Anchor} {p : Page}
    (hPage : Page.ofMatches ⟨size, anchor⟩ ((sel.rows s).map MediaRow.read) = p)
    (hNe : p.media ≠ []) :
    ∃ first last, p.firstId = some first ∧ p.lastId = some last ∧
      (∃ next, s.Answers maxPageSize ⟨text, f, limit, some last, none, none⟩ next ∧
        (next.media ≠ [] → ∃ x, next.firstId = some x ∧
          s.Answers maxPageSize ⟨text, f, limit, none, some x, none⟩ p)) ∧
      ∃ previous, s.Answers maxPageSize ⟨text, f, limit, none, some first, none⟩ previous ∧
        (previous.media ≠ [] → ∃ x, previous.lastId = some x ∧
          s.Answers maxPageSize ⟨text, f, limit, some x, none, none⟩ p) := by
  have hIds : ((sel.rows s).map MediaRow.read).Pairwise (·.id < ·.id) :=
    List.pairwise_map.mpr (hOrder.filter _)
  have hAfter (id : Int) := answers_of_make hQuery hSel hFits hRows
    (Window.make_eq hSize hLimit (rfl : Anchor.make (some id) none none = .ok (.after id)))
  have hBefore (id : Int) := answers_of_make hQuery hSel hFits hRows
    (Window.make_eq hSize hLimit (rfl : Anchor.make none (some id) none = .ok (.before id)))
  subst hPage
  obtain ⟨last, hLast, hBack⟩ := Page.before_of_after hIds hNe
  obtain ⟨first, hFirst, hOn⟩ := Page.after_of_before hIds hNe
  refine ⟨first, last, hFirst, hLast, ⟨_, hAfter last, fun hNext => ?_⟩,
    _, hBefore first, fun hPrevious => ?_⟩
  · obtain ⟨x, hx, hSame⟩ := hBack hNext
    exact ⟨x, hx, hSame ▸ hBefore x⟩
  · obtain ⟨x, hx, hSame⟩ := hOn hPrevious
    exact ⟨x, hx, hSame ▸ hAfter x⟩

/-- Where rows lie by their ids, those that are selected stand for media, and the query is not too
large for the store, a walk forward in pages of one size meets as many as it takes to show all
matches, at least one. All but the last are full and promise more, the last one does not, and
together they show every match in order. The request that leaves out the matches of earlier pages is
answered with the same page, and a page at any place is met again by turning to the page after it or
before it, if there is one, and back. -/
theorem walk_turns_pages (hQuery : Query.parse text = .ok q) (hSel : compile q f = .ok sel)
    (hFits : sel.Fits) (hOrder : s.media.Pairwise (·.id < ·.id))
    (hRows : ∀ row ∈ sel.rows s, ∃ m, row.decode = .ok m) (hSize : 1 ≤ size)
    (hLimit : min limit (max maxPageSize 1) = size) :
    ∃ pages : List Page,
      (∀ steps, (Database.walk .forward maxPageSize steps
          { query := text, filters := f, limit := limit }).on (ready s) =
        (.ok (pages.take steps), ready s)) ∧
      pages.length = max 1 (((Page.matchIds sel s).length + size - 1) / size) ∧
      (∀ p ∈ pages.dropLast, p.media.length = size ∧ p.hasMore = true) ∧
      (∀ p ∈ pages.getLast?, p.hasMore = false) ∧
      (sel.rows s).mapM MediaRow.decode = .ok (pages.flatMap (·.media)) ∧
      (pages.flatMap (·.ids)).Pairwise (· < ·) ∧
      (∀ k p, pages[k]? = some p →
        s.Answers maxPageSize ⟨text, f, limit, none, none, some (k * size : Nat)⟩ p) ∧
      ∀ after before offset w, Window.make limit after before offset maxPageSize = .ok w →
        ∃ p, s.Answers maxPageSize ⟨text, f, limit, after, before, offset⟩ p ∧
          (p.media ≠ [] → ∃ first last, p.firstId = some first ∧ p.lastId = some last ∧
            (∃ next, s.Answers maxPageSize ⟨text, f, limit, some last, none, none⟩ next ∧
              (next.media ≠ [] → ∃ x, next.firstId = some x ∧
                s.Answers maxPageSize ⟨text, f, limit, none, some x, none⟩ p)) ∧
            ∃ previous, s.Answers maxPageSize ⟨text, f, limit, none, some first, none⟩ previous ∧
              (previous.media ≠ [] → ∃ x, previous.lastId = some x ∧
                s.Answers maxPageSize ⟨text, f, limit, some x, none, none⟩ p)) := by
  have hRead : ∀ row ∈ sel.rows s, row.decode = .ok row.read :=
    fun row hRow => MediaRow.decode_eq_read (hRows row hRow)
  have hIds : ((sel.rows s).map MediaRow.read).Pairwise (·.id < ·.id) :=
    List.pairwise_map.mpr (hOrder.filter _)
  have hMatched : (Page.matchIds sel s).length = ((sel.rows s).map MediaRow.read).length := by
    rw [Page.matchIds, List.length_map, List.length_map]
  obtain ⟨full, lastPage, hSequence, hFull, hLast⟩ := Page.exists_sequence hIds hSize
  have hShown := Page.flatMap_sequence hSize ((sel.rows s).map MediaRow.read)
  refine ⟨Page.sequence size ((sel.rows s).map MediaRow.read), fun steps => ?_, ?_, ?_, ?_, ?_, ?_,
    ?_, ?_⟩
  · have hFirst := Database.walk_numbered hQuery hSel hFits hOrder hRead hSize hLimit rfl steps
      none (Page.count_pos size _) (Page.numbered_zero size _).symm
    rwa [Nat.sub_zero, ← List.range_eq_range'] at hFirst
  · rw [Page.sequence, List.length_map, List.length_range, hMatched]
    rfl
  · rw [hSequence, List.dropLast_concat]
    exact hFull
  · rw [hSequence, List.getLast?_concat]
    rintro p ⟨⟩
    exact hLast
  · rw [hShown]
    exact mapM_decode hRead
  · rw [← hShown] at hIds
    rw [← List.pairwise_map, List.map_flatMap] at hIds
    exact hIds
  · intro k p hp
    rw [Page.sequence, List.getElem?_map, Option.map_eq_some_iff] at hp
    obtain ⟨n, hn, rfl⟩ := hp
    obtain ⟨-, rfl⟩ := List.getElem?_eq_some_iff.mp hn
    rw [List.getElem_range]
    exact Store.answers_offset hQuery hSel hFits hRead hSize hLimit k
  · intro after before offset w hWindow
    obtain ⟨limit', anchor⟩ := w
    obtain rfl : limit' = size := (Window.limit_eq_of_make hWindow).2.trans hLimit
    exact ⟨_, Store.answers_of_make hQuery hSel hFits hRead hWindow,
      Store.answers_turned hQuery hSel hFits hOrder hRead hSize hLimit rfl⟩

/-- Five images, some of whose neighbours are gone. -/
def fiveImages : Store where
  media := [(2, "a"), (3, "b"), (5, "c"), (8, "d"), (13, "e")].map fun image =>
    Store.newMediaRow image.1 (.image image.2) 0

/-- Five images in pages of two, which is the greatest size, are three pages. The last one holds one
image, and leaving out four images leads there too. -/
theorem walk_turns_pages_five_images :
    ∃ pages last, (Database.walk .forward 2 9 { limit := 7 }).on (ready fiveImages) =
        (.ok pages, ready fiveImages) ∧
      pages.map (·.ids) = [[2, 3], [5, 8], [13]] ∧ pages.getLast? = some last ∧
      last.hasMore = false ∧ fiveImages.Answers 2 ⟨"", {}, 7, none, none, some 4⟩ last := by
  have hRows : ∀ row ∈ Selection.rows ⟨[]⟩ fiveImages, ∃ m, MediaRow.decode row = .ok m := by
    intro row hRow
    obtain ⟨image, -, rfl⟩ := List.mem_map.mp (List.mem_filter.mp hRow).1
    exact ⟨_, rfl⟩
  obtain ⟨pages, hWalk, hCount, -, hLast, -, -, hOffset, -⟩ := walk_turns_pages
    (by cbv : Query.parse "" = .ok {}) (rfl : compile {} {} = .ok ⟨[]⟩) (by decide) (by decide)
    hRows (by decide : 1 ≤ 2) (by decide : min 7 (max 2 1) = ((2 : Nat) : Int))
  obtain ⟨first, second, third, rfl⟩ := List.length_eq_three.mp (hCount : pages.length = 3)
  have hIds : ((Database.walk .forward 2 9 { limit := 7 }).on (ready fiveImages)).1.toOption.map
      (fun pages => pages.map (·.ids)) = some [[2, 3], [5, 8], [13]] := by
    decide +kernel
  rw [hWalk 9] at hIds
  exact ⟨_, third, hWalk 9, Option.some_inj.mp hIds, rfl, hLast third rfl, hOffset 2 third rfl⟩

/-- A query for a thousand names is read and compiles, but in a store without media there is not
even the empty page. -/
theorem walk_of_thousand_names :
    Query.parse (Query.ofNumbers 1000).text = .ok (Query.ofNumbers 1000) ∧
      (∃ sel, compile (Query.ofNumbers 1000) {} = .ok sel ∧ sel.rows {} = []) ∧
      (Database.walk .forward 500 1 { query := (Query.ofNumbers 1000).text, limit := 1 }).on
        (ready {}) = (.error (.storage .tooManyLevels), ready {}) := by
  have hWindow : Window.make 1 none none none 500 = .ok ⟨1, .first⟩ := rfl
  have hWalk {text : String} (hQuery : Query.parse text = .ok (.ofNumbers 1000)) :
      (Database.walk .forward 500 1 { query := text, limit := 1 }).on (ready {}) =
        (.error (.storage .tooManyLevels), ready {}) := by
    rw [Database.walk, Work.on_bind, Database.search_thousand hQuery {} hWindow]
  have hQuery := Query.parse_ofNumbers 1000
  obtain ⟨sel, hSel⟩ := exists_compile_of_parse hQuery {}
  exact ⟨hQuery, ⟨sel, hSel, rfl⟩, hWalk hQuery⟩

end MediaLibrary
