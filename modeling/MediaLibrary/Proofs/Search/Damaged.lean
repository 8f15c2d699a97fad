import MediaLibrary.Proofs.Search.Stages

/-!
# Search — damaged rows

Another program may leave texts in the row of a medium that stand for no kind or no rating. Such a
row is still counted, and other pages are compared with its id, for neither looks at more than a
search asks for; only a page that shows the row cannot be read. So damage spoils the pages that
contain it, and no other one, and of several damaged rows the one that is fetched first is told. A
query that is too large for the store has no pages that could be spoiled.

* `MediaRow.IsDamaged`, `MediaRow.decode_eq_error_iff` — rows that stand for no medium;
* `Database.Tampered` — databases whose rows were overwritten;
* `Page.Tells` — what a page tells of the ids of all matches;
* `Page.fetch_of_damaged` — a damaged row is told after what is wrong with counting and listing;
* `damage_spoils_pages` — which pages are spoiled, by which row, and what the others tell.
-/

namespace MediaLibrary

open Database (ready)
open Selection

-- ---------------------------------------------------------------------------
-- Rows
-- ---------------------------------------------------------------------------

/-- The row stands for no medium: it has no kind, or no rating. -/
def MediaRow.IsDamaged (row : MediaRow) : Prop :=
  MediaKind.ofName? row.kind = none ∨ Rating.ofWord? row.rating = none

instance (row : MediaRow) : Decidable row.IsDamaged :=
  inferInstanceAs (Decidable (_ ∨ _))

/-- What is told of a damaged row: its kind, unless only its rating is damaged. -/
def MediaRow.fault (row : MediaRow) : StorageFault :=
  if MediaKind.ofName? row.kind = none then .unknownKind row.kind else .unknownRating row.rating

/-- A row is refused just if it is damaged, with its own fault. -/
theorem MediaRow.decode_eq_error_iff {row : MediaRow} {e : Error} :
    row.decode = .error e ↔ row.IsDamaged ∧ e = .storage row.fault := by
  unfold decode IsDamaged fault
  cases MediaKind.ofName? row.kind <;> cases Rating.ofWord? row.rating <;> simp [eq_comm]

/-- All other rows are read. -/
theorem MediaRow.decode_eq_read_iff {row : MediaRow} :
    row.decode = .ok row.read ↔ ¬row.IsDamaged := by
  constructor
  · intro hRead hDamaged
    rw [decode_eq_error_iff.mpr ⟨hDamaged, rfl⟩] at hRead
    cases hRead
  · intro hWhole
    cases hDecode : row.decode with
    | error e => exact absurd (decode_eq_error_iff.mp hDecode).1 hWhole
    | ok m => rw [eq_read hDecode]

/-- Reading rows fails at the first one that is damaged, if there is one. -/
theorem mapM_decode_eq_error_iff {rows : List MediaRow} {e : Error} :
    rows.mapM MediaRow.decode = .error e ↔
      ∃ row ∈ rows.find? fun row => row.IsDamaged, e = .storage row.fault := by
  have hWhole (row : MediaRow) : (∃ m, row.decode = .ok m) ↔ (!decide row.IsDamaged) = true := by
    rw [Bool.not_eq_true', decide_eq_false_iff_not, ← MediaRow.decode_eq_read_iff]
    exact ⟨MediaRow.decode_eq_read, fun h => ⟨_, h⟩⟩
  simp only [mapM_eq_error_iff, MediaRow.decode_eq_error_iff, hWhole, Option.mem_def,
    List.find?_eq_some_iff_append, decide_eq_true_iff]
  constructor
  · rintro ⟨before, row, after, hSplit, hBefore, hDamaged, hFault⟩
    exact ⟨row, ⟨hDamaged, before, after, hSplit, hBefore⟩, hFault⟩
  · rintro ⟨row, ⟨hDamaged, before, after, hSplit, hBefore⟩, hFault⟩
    exact ⟨before, row, after, hSplit, hBefore, hDamaged, hFault⟩

-- ---------------------------------------------------------------------------
-- Databases
-- ---------------------------------------------------------------------------

/-- A database that went through operations, and in which another program has overwritten rows of
media and of tags in any way, each row under its id, as often as it liked. -/
inductive Database.Tampered : Database → Prop where
  | reachable {db : Database} : db.Reachable → Tampered db
  | operation {db : Database} (op : Operation) (now : Int) :
      Tampered db → Tampered (op.apply now db)
  | media {db : Database} (id : Int) {change : MediaRow → MediaRow} :
      (∀ row, (change row).id = row.id) → Tampered db →
      Tampered ((Database.damageMedia id change).after db)
  | tag {db : Database} (id : Int) (change : TagRow → TagRow) : Tampered db →
      Tampered ((Database.damageTag id change).after db)

/-- Damage changes a row of media and nothing else. -/
theorem Database.damageMedia_after (s : Store) (id : Int) (change : MediaRow → MediaRow) :
    (Database.damageMedia id change).after (ready s) = ready (s.changeMedia id change) := by
  simp [Database.damageMedia, Work.after, Work.on_bind]

theorem Database.damageTag_after (s : Store) (id : Int) (change : TagRow → TagRow) :
    (Database.damageTag id change).after (ready s) = ready (s.changeTag id change) := by
  simp [Database.damageTag, Work.after, Work.on_bind]

/-- Whatever is overwritten, the rows of media lie by their ids. -/
theorem Database.Tampered.ascending {db : Database} (h : db.Tampered) :
    ∃ s, db = ready s ∧ s.mediaIds.Ascending := by
  induction h with
  | reachable hReachable =>
    obtain ⟨s, rfl, hSound⟩ := hReachable.sound
    exact ⟨s, rfl, hSound.mediaIds_bounded, List.pairwise_map.mpr hSound.media_ids⟩
  | operation op now _ ih =>
    obtain ⟨s, rfl, hs⟩ := ih
    exact op.apply_keeps (P := fun s => s.mediaIds.Ascending)
      (fun _ _ _ hChange hs => hs.next hChange.next.1) now hs
  | media id hId _ ih =>
    obtain ⟨s, rfl, hs⟩ := ih
    refine ⟨_, Database.damageMedia_after s id _, ?_⟩
    rwa [Store.mediaIds, s.map_changeMedia (·.id) id hId]
  | tag id change _ ih =>
    obtain ⟨s, rfl, hs⟩ := ih
    exact ⟨_, Database.damageTag_after s id change, hs⟩

-- ---------------------------------------------------------------------------
-- Pages
-- ---------------------------------------------------------------------------

/-- What a page tells of the ids of all matches: their number, the ones of the window, its ends, and
whether a greater one follows. -/
structure Page.Tells (w : Window) (all : List Int) (p : Page) : Prop where
  totalCount : p.totalCount = all.length
  ids : p.ids = w.slice (fun id => id) all
  firstId : p.firstId = p.ids.head?
  lastId : p.lastId = p.ids.getLast?
  hasMore : p.hasMore = true ↔ ∃ last ∈ p.lastId, ∃ id ∈ all, last < id

/-- The page of the matches tells where they go on. -/
theorem Page.tells_ofMatches (w : Window) (all : List Media) :
    (Page.ofMatches w all).Tells w (all.map (·.id)) where
  totalCount := by
    rw [List.length_map]
    rfl
  ids := Page.ids_ofMatches w all
  firstId := (List.head?_map ..).symm
  lastId := (List.getLast?_map ..).symm
  hasMore := Page.hasMore_ofMatches w all

/-- A page goes back just if it is asked for what is before an id. -/
theorem Anchor.make_before_iff {after before offset : Option Int} {anchor : Anchor}
    (h : Anchor.make after before offset = .ok anchor) :
    (∃ id, anchor = .before id) ↔ before.isSome = true := by
  cases before with
  | none =>
    simp only [Option.isSome_none, Bool.false_eq_true, iff_false]
    rintro ⟨id, rfl⟩
    cases after <;> cases offset <;> simp [make] at h
    split at h
    · cases h
    · split at h <;> cases h
  | some id =>
    cases after <;> cases offset <;> simp [make] at h
    simp [← h]

/-- A page is fetched downwards if it is asked for before an id. -/
theorem Window.fetched_of_make {limit : Int} {after before offset : Option Int} {maxPageSize : Int}
    {w : Window} (h : Window.make limit after before offset maxPageSize = .ok w) {α : Type}
    (piece : List α) :
    w.fetched piece = if before.isSome then piece.reverse else piece := by
  obtain ⟨-, -, hAnchor⟩ := Window.eq_of_make h
  have hBefore := Anchor.make_before_iff hAnchor
  by_cases hDown : before.isSome = true
  · obtain ⟨id, hId⟩ := hBefore.mpr hDown
    rw [fetched, hId, if_pos hDown]
  · rw [if_neg hDown]
    unfold fetched
    split
    · rename_i id hId
      exact absurd (hBefore.mp ⟨id, hId⟩) hDown
    · rfl

/-- A page with a damaged row fails. If the store takes the statements that count and list, it fails
as the first one of these in the order of fetching, and otherwise as the store says of one of them.
-/
theorem Page.fetch_of_damaged {sel : Selection Condition} {s : Store} (h : sel.Aligned) {w : Window}
    (hLimit : 1 ≤ w.limit) (hDamaged : ∃ row ∈ w.slice (·.id) (sel.rows s), row.IsDamaged) :
    ∃ row ∈ (w.fetched (w.slice (·.id) (sel.rows s))).find? fun row => row.IsDamaged,
      ∃ e, Page.fetch sel w s = .error e ∧
        ((counting sel).Accepted → (listing sel w.anchor).Accepted → e = .storage row.fault) ∧
        (e = .storage row.fault ∨ Refused sel w (w.slice (·.id) (sel.rows s)) e) := by
  obtain ⟨row, hRow, hBad⟩ := hDamaged
  have hSome : ((w.fetched (w.slice (·.id) (sel.rows s))).find?
      fun row => row.IsDamaged).isSome = true :=
    List.find?_isSome.mpr ⟨row, Window.mem_fetched.mpr hRow, decide_eq_true hBad⟩
  obtain ⟨first, hFirst⟩ := Option.isSome_iff_exists.mp hSome
  refine ⟨first, hFirst, ?_⟩
  rw [fetch_of_fault h hLimit (mapM_decode_eq_error_iff.mpr ⟨first, hFirst, rfl⟩)]
  rcases (counting sel).prepare_cases with ⟨hCount, -⟩ | ⟨e, hCount, hRefused⟩
  · rcases (listing sel w.anchor).prepare_cases with ⟨hList, -⟩ | ⟨e, hList, hRefused⟩
    · refine ⟨.storage first.fault, ?_, fun _ _ => rfl, .inl rfl⟩
      rw [hCount, hList]
      rfl
    · refine ⟨e, ?_, fun _ hAccepted => absurd hAccepted hRefused.not_accepted,
        .inr (.inr (.inl hRefused))⟩
      rw [hCount, hList]
      rfl
  · refine ⟨e, ?_, fun hAccepted => absurd hAccepted hRefused.not_accepted, .inr (.inl hRefused)⟩
    rw [hCount]
    rfl

/-- However rows were overwritten, a search that is accepted changes nothing, and fails just if the
page that it asks for contains a damaged row, or if the store does not take one of the statements
for the page. If it takes the ones that count and list, and there is a damaged row, the search fails
as the first one of these in the order of fetching, which is downwards before an id and upwards
otherwise, and tells the kind of this row unless only its rating is damaged; and it never fails
otherwise than so or as the store says of a statement. Every other page holds what its rows stand
for, and what it tells of the ids of all matches is true of all rows that match, damaged or not. -/
theorem damage_spoils_pages {db : Database} (h : db.Tampered) {r : SearchRequest} {q : Query}
    (hQuery : Query.parse r.query = .ok q) (hFine : ¬r.IsFaulty) (maxPageSize : Int) :
    ∃ s w sel outcome, db = ready s ∧
      Window.make r.limit r.afterId r.beforeId r.offset maxPageSize = .ok w ∧
      compile q r.filters = .ok sel ∧
      (Database.search r maxPageSize).on db = (outcome, db) ∧
      (Page.matchIds sel s).Pairwise (· < ·) ∧
      ((∃ e, outcome = .error e) ↔
        (∃ row ∈ w.slice (·.id) (sel.rows s), row.IsDamaged) ∨
          ¬Page.Accepted sel w (w.slice (·.id) (sel.rows s))) ∧
      ((Page.counting sel).Accepted → (Page.listing sel w.anchor).Accepted →
        (∃ row ∈ w.slice (·.id) (sel.rows s), row.IsDamaged) →
        ∀ e, outcome = .error e ↔
          ∃ row ∈ (if r.beforeId.isSome then (w.slice (·.id) (sel.rows s)).reverse
            else w.slice (·.id) (sel.rows s)).find? (fun row => row.IsDamaged),
            e = .storage row.fault) ∧
      (∀ e, outcome = .error e →
        (∃ row ∈ (if r.beforeId.isSome then (w.slice (·.id) (sel.rows s)).reverse
            else w.slice (·.id) (sel.rows s)).find? (fun row => row.IsDamaged),
            e = .storage row.fault) ∨
          Page.Refused sel w (w.slice (·.id) (sel.rows s)) e) ∧
      ∀ page, outcome = .ok page →
        (w.slice (·.id) (sel.rows s)).mapM MediaRow.decode = .ok page.media ∧
        page.Tells w (Page.matchIds sel s) := by
  obtain ⟨s, rfl, hIds⟩ := h.ascending
  rcases SearchRequest.plan_cases hQuery maxPageSize with
    ⟨hFaulty, -⟩ | ⟨-, w, sel, hWindow, hSel, hPlan⟩
  · exact absurd hFaulty hFine
  have hOn : (Database.search r maxPageSize).on (ready s) = (Page.fetch sel w s, ready s) := by
    rw [Database.search_ready, hPlan]
    rfl
  have hAligned := aligned_of_compile hSel
  have hLimit := Window.limit_of_make hWindow
  have hOrder := Window.fetched_of_make hWindow (w.slice (·.id) (sel.rows s))
  refine ⟨s, w, sel, _, rfl, hWindow, hSel, hOn,
    hIds.pairwise.sublist (List.filter_sublist.map _), ?_⟩
  by_cases hDamaged : ∃ row ∈ w.slice (·.id) (sel.rows s), row.IsDamaged
  · -- whatever is wrong with the page, it is told before what follows is looked for
    obtain ⟨row, hRow, e, hFetch, hTold, hWhy⟩ := Page.fetch_of_damaged hAligned hLimit hDamaged
    rw [hOrder] at hRow
    rw [hFetch]
    refine ⟨⟨fun _ => .inl hDamaged, fun _ => ⟨e, rfl⟩⟩, fun hCount hList _ e' => ⟨?_, ?_⟩, ?_, ?_⟩
    · rintro ⟨⟩
      exact ⟨row, hRow, hTold hCount hList⟩
    · rintro ⟨first, hFirst, rfl⟩
      obtain rfl := Option.mem_unique hRow hFirst
      rw [hTold hCount hList]
    · rintro _ ⟨⟩
      exact hWhy.imp_left fun hFault => ⟨row, hRow, hFault⟩
    · rintro page ⟨⟩
  have hWhole : ∀ row ∈ w.slice (·.id) (sel.rows s), row.decode = .ok row.read :=
    fun row hRow => MediaRow.decode_eq_read_iff.mpr fun hBad => hDamaged ⟨row, hRow, hBad⟩
  rw [Page.fetch_of_piece hAligned hLimit hWhole]
  by_cases hAccepted : Page.Accepted sel w (w.slice (·.id) (sel.rows s))
  · rw [Page.map_prepared_of_accepted hAccepted]
    refine ⟨⟨?_, ?_⟩, fun _ _ hBad => absurd hBad hDamaged, ?_, ?_⟩
    · rintro ⟨e, ⟨⟩⟩
    · rintro (hBad | hRefused)
      · exact absurd hBad hDamaged
      · exact absurd hAccepted hRefused
    · rintro e ⟨⟩
    · rintro page ⟨⟩
      have hTells := Page.tells_ofMatches w ((sel.rows s).map MediaRow.read)
      rw [List.map_map] at hTells
      rw [mapM_decode hWhole]
      exact ⟨congrArg Except.ok (w.slice_map (·.id) MediaRow.read _).symm, hTells⟩
  · obtain ⟨e, hError, hRefused⟩ := Page.exists_map_prepared_error hAccepted
      (Page.ofMatches w ((sel.rows s).map MediaRow.read))
    rw [hError]
    refine ⟨⟨fun _ => .inr hAccepted, fun _ => ⟨e, rfl⟩⟩,
      fun _ _ hBad => absurd hBad hDamaged, ?_, ?_⟩
    · rintro _ ⟨⟩
      exact .inr hRefused
    · rintro page ⟨⟩

/-- Four images, of which the second is left without a rating, and the last one without a rating
and without a kind. -/
def Database.damagedImages : Database :=
  (damageMedia 4 fun row => { row with kind := "film", rating := "x" }).after
    ((damageMedia 2 fun row => { row with rating := "unsafe" }).after
      ((Operation.createMediaBatch (["a", "b", "c", "d"].map NewMedia.image)).apply 1
        ((Database.prepare 0).after {})))

theorem Database.tampered_damagedImages : damagedImages.Tampered :=
  .media 4 (fun _ => rfl) (.media 2 (fun _ => rfl) (.reachable (.operation _ 1 (.prepared 0))))

/-- The second image spoils the first page, and the last one the page that ends with it, on which
it is fetched before the second. The third image is shown, and is known to be followed. -/
theorem damage_spoils_pages_damagedImages :
    Database.damagedImages.Tampered ∧
      (Database.search { limit := 2 } 500).on Database.damagedImages =
        (.error (.storage (.unknownRating "unsafe")), Database.damagedImages) ∧
      (Database.search { limit := 3, beforeId := some 5 } 500).on Database.damagedImages =
        (.error (.storage (.unknownKind "film")), Database.damagedImages) ∧
      ∃ page, (Database.search { limit := 1, afterId := some 2 } 500).on Database.damagedImages =
          (.ok page, Database.damagedImages) ∧
        (page.ids, page.totalCount, page.hasMore) = ([3], 4, true) := by
  have hQuery : Query.parse "" = .ok {} := by cbv
  have hFits : Selection.Fits ⟨[]⟩ := by decide
  refine ⟨Database.tampered_damagedImages, ?_, ?_, ?_⟩
  · obtain ⟨s, w, sel, outcome, hReady, hWindow, hSel, hOn, -, -, hError, -⟩ :=
      damage_spoils_pages Database.tampered_damagedImages (r := { limit := 2 }) hQuery
        (by simp [SearchRequest.IsFaulty]) 500
    obtain rfl : ⟨2, .first⟩ = w := Except.ok.inj hWindow
    obtain rfl : ⟨[]⟩ = sel := Except.ok.inj hSel
    obtain ⟨hDamaged, hFirst⟩ := Database.holds_of_ready hReady (fun s =>
      (∃ row ∈ Window.slice ⟨2, .first⟩ MediaRecord.id (Selection.rows ⟨[]⟩ s),
        MediaRow.IsDamaged row) ∧
      ((Window.slice ⟨2, .first⟩ (·.id) (Selection.rows ⟨[]⟩ s)).find?
        fun row => row.IsDamaged).map MediaRow.fault = some (.unknownRating "unsafe"))
      (by decide +kernel)
    obtain ⟨row, hRow, hFault⟩ := Option.map_eq_some_iff.mp hFirst
    have hTold := hError hFits.counting (hFits.listing _) hDamaged
    rw [hOn, (hTold _).mpr ⟨row, hRow, congrArg Error.storage hFault.symm⟩]
  · obtain ⟨s, w, sel, outcome, hReady, hWindow, hSel, hOn, -, -, hError, -⟩ :=
      damage_spoils_pages Database.tampered_damagedImages
        (r := { limit := 3, beforeId := some 5 }) hQuery (by simp [SearchRequest.IsFaulty]) 500
    obtain rfl : ⟨3, .before 5⟩ = w := Except.ok.inj hWindow
    obtain rfl : ⟨[]⟩ = sel := Except.ok.inj hSel
    obtain ⟨hDamaged, hFirst⟩ := Database.holds_of_ready hReady (fun s =>
      (∃ row ∈ Window.slice ⟨3, .before 5⟩ MediaRecord.id (Selection.rows ⟨[]⟩ s),
        MediaRow.IsDamaged row) ∧
      ((Window.slice ⟨3, .before 5⟩ (·.id) (Selection.rows ⟨[]⟩ s)).reverse.find?
        fun row => row.IsDamaged).map MediaRow.fault = some (.unknownKind "film"))
      (by decide +kernel)
    obtain ⟨row, hRow, hFault⟩ := Option.map_eq_some_iff.mp hFirst
    have hTold := hError hFits.counting (hFits.listing _) hDamaged
    rw [hOn, (hTold _).mpr ⟨row, hRow, congrArg Error.storage hFault.symm⟩]
  · obtain ⟨s, w, sel, outcome, hReady, hWindow, hSel, hOn, -, hFails, -, -, hPage⟩ :=
      damage_spoils_pages Database.tampered_damagedImages
        (r := { limit := 1, afterId := some 2 }) hQuery (by simp [SearchRequest.IsFaulty]) 500
    obtain rfl : ⟨1, .after 2⟩ = w := Except.ok.inj hWindow
    obtain rfl : ⟨[]⟩ = sel := Except.ok.inj hSel
    have hWhole := Database.holds_of_ready hReady (fun s =>
      ¬∃ row ∈ Window.slice ⟨1, .after 2⟩ MediaRecord.id (Selection.rows ⟨[]⟩ s),
        MediaRow.IsDamaged row) (by decide +kernel)
    have hIds := Database.holds_of_ready hReady (fun s =>
      Page.matchIds ⟨[]⟩ s = [1, 2, 3, 4]) (by decide +kernel)
    cases outcome with
    | error e =>
      rcases hFails.mp ⟨e, rfl⟩ with hDamaged | hRefused
      · exact absurd hDamaged hWhole
      · exact absurd (hFits.accepted _ _) hRefused
    | ok page =>
      obtain ⟨-, hTells⟩ := hPage page rfl
      rw [hIds] at hTells
      have hShown : page.ids = [3] := hTells.ids
      have hMore : page.hasMore = true := hTells.hasMore.mpr
        ⟨3, by rw [hTells.lastId, hShown]; rfl, 4, by decide, by decide⟩
      exact ⟨page, hOn, by rw [hShown, hTells.totalCount, hMore]; rfl⟩

/-- A request for a thousand names is accepted, and fails although the store holds no row that could
be damaged. -/
theorem damage_of_thousand_names :
    ((Database.prepare 0).after {}).Tampered ∧
      Query.parse (Query.ofNumbers 1000).text = .ok (Query.ofNumbers 1000) ∧
      ¬SearchRequest.IsFaulty { query := (Query.ofNumbers 1000).text, limit := 1 } ∧
      ∃ s, (Database.prepare 0).after {} = ready s ∧ s.media = [] ∧
        (Database.search { query := (Query.ofNumbers 1000).text, limit := 1 } 500).on (ready s) =
          (.error (.storage .tooManyLevels), ready s) := by
  have hReachable := Database.Reachable.prepared 0
  obtain ⟨s, hReady, -⟩ := hReachable.sound
  have hNone : s.media = [] :=
    Database.holds_of_ready hReady (fun s => s.media = []) (by decide +kernel)
  have hWindow : Window.make 1 none none none 500 = .ok ⟨1, .first⟩ := rfl
  exact ⟨.reachable hReachable, Query.parse_ofNumbers 1000, by simp [SearchRequest.IsFaulty], s,
    hReady, hNone, Database.search_thousand (Query.parse_ofNumbers 1000) s hWindow⟩

end MediaLibrary
