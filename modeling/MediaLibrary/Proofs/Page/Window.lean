import MediaLibrary.Proofs.Page.Limits
import MediaLibrary.Proofs.Selection.Binding
import MediaLibrary.Proofs.Store.Row
import MediaLibrary.Store.Effect

/-!
# Page — what a window shows

A window cuts a piece out of the list of all matches. Which piece is said once, by
`Window.slice`, on any things that are listed by their ids; the four ways of fetching,
each with its own bound and direction, cut out that piece, and the page that is
fetched is told by the list of all matches, `Page.ofMatches`.

* `Window.slice` — the piece of a window;
* `Window.fetched`, `Page.windowRows_eq` — it is fetched upwards, or downwards before an id;
* `Page.windowMedia_eq` — the media of a window are its piece of the matches;
* `Page.fetch_eq` — the page of a window, by all matches.
-/

namespace MediaLibrary

-- ---------------------------------------------------------------------------
-- Pieces
-- ---------------------------------------------------------------------------

namespace Window

/-- What a window with room shows of things that are listed by their ids. -/
def slice {α : Type} (w : Window) (id : α → Int) (all : List α) : List α :=
  match w.anchor with
  | .first => all.take w.limit.toNat
  | .offset n => (all.drop n.toNat).take w.limit.toNat
  | .after a => (all.filter fun x => a < id x).take w.limit.toNat
  | .before b =>
    (all.filter fun x => id x < b).drop ((all.filter fun x => id x < b).length - w.limit.toNat)

variable {α β : Type}

/-- Rows can be turned to anything with the same ids before or after the cut. -/
theorem slice_map (w : Window) (id : α → Int) (f : β → α) (all : List β) :
    w.slice id (all.map f) = (w.slice (fun x => id (f x)) all).map f := by
  unfold slice
  split
  · rw [List.map_take]
  · rw [List.map_take, List.map_drop]
  · rw [List.filter_map, List.map_take]
    rfl
  · rw [List.filter_map, List.map_drop, List.length_map]
    rfl

/-- A slice leaves out rows and keeps their order. -/
theorem slice_sublist (w : Window) (id : α → Int) (all : List α) :
    (w.slice id all).Sublist all := by
  unfold slice
  split
  · exact List.take_sublist _ _
  · exact (List.take_sublist _ _).trans (List.drop_sublist _ _)
  · exact (List.take_sublist _ _).trans List.filter_sublist
  · exact (List.drop_sublist _ _).trans List.filter_sublist

/-- A slice has no more rows than the limit. -/
theorem length_slice_le (w : Window) (id : α → Int) (all : List α) :
    (w.slice id all).length ≤ w.limit.toNat := by
  unfold slice
  split
  · exact List.length_take_le _ _
  · exact List.length_take_le _ _
  · exact List.length_take_le _ _
  · rw [List.length_drop]
    omega

/-- A piece in the order in which it is fetched: from its end if it is the one before an id. -/
def fetched {α : Type} (w : Window) (piece : List α) : List α :=
  match w.anchor with
  | .before _ => piece.reverse
  | _ => piece

/-- Rows turned round twice are as they were. -/
theorem fetched_fetched (w : Window) (piece : List α) : w.fetched (w.fetched piece) = piece := by
  obtain ⟨limit, anchor⟩ := w
  cases anchor with
  | before b => exact List.reverse_reverse piece
  | _ => rfl

theorem fetched_map (w : Window) (f : β → α) (piece : List β) :
    w.fetched (piece.map f) = (w.fetched piece).map f := by
  unfold fetched
  split
  · exact List.map_reverse.symm
  · rfl

theorem mem_fetched {w : Window} {piece : List α} {a : α} : a ∈ w.fetched piece ↔ a ∈ piece := by
  unfold fetched
  split
  · exact List.mem_reverse
  · rfl

end Window

namespace Page

open Selection

-- ---------------------------------------------------------------------------
-- Fetching
-- ---------------------------------------------------------------------------

variable {sel : Selection Condition} {s : Store}

/-- A bound above leaves the rows with greater ids. -/
theorem rows_above (h : sel.Aligned) (a : Int) (s : Store) :
    (sel.bounded (.compared .id .above) (.int a)).rows s =
      (sel.rows s).filter fun row => decide (a < row.id) :=
  rows_bounded h .above (fun row => by simp [Comparison.Relates]) s

/-- A bound below leaves the rows with smaller ids. -/
theorem rows_below (h : sel.Aligned) (b : Int) (s : Store) :
    (sel.bounded (.compared .id .below) (.int b)).rows s =
      (sel.rows s).filter fun row => decide (row.id < b) :=
  rows_bounded h .below (fun row => by simp [Comparison.Relates]) s

/-- A limit that is positive is the number of rows taken. -/
theorem limited_eq {w : Window} (hLimit : 1 ≤ w.limit) (rows : List MediaRow) :
    limited w rows = rows.take w.limit.toNat := by
  have hNotNegative : ¬w.limit < 0 := by omega
  rw [limited, if_neg hNotNegative]

/-- However they are fetched, the rows of a window are its piece of the selected ones. -/
theorem windowRows_eq (h : sel.Aligned) {w : Window} (hLimit : 1 ≤ w.limit) (s : Store) :
    windowRows sel w s = w.fetched (w.slice (·.id) (sel.rows s)) := by
  obtain ⟨limit, anchor⟩ := w
  cases anchor with
  | first =>
    simp only [windowRows, limited_eq hLimit]
    rfl
  | offset n =>
    simp only [windowRows, limited_eq hLimit]
    rfl
  | after a =>
    simp only [windowRows, rows_above h, limited_eq hLimit]
    rfl
  | before b =>
    -- fetched downwards, so the last of them come first
    simp only [windowRows, rows_below h, limited_eq hLimit]
    exact List.take_reverse

/-- Rows are decoded as they are fetched, and then put in the order of their ids. -/
theorem windowMedia_fetched (h : sel.Aligned) {w : Window} (hLimit : 1 ≤ w.limit) (s : Store) :
    windowMedia sel w s = do
      (listing sel w.anchor).prepare
      let media ← (w.fetched (w.slice (·.id) (sel.rows s))).mapM MediaRow.decode
      return w.fetched media := by
  rw [windowMedia, windowRows_eq h hLimit]
  generalize w.slice (·.id) (sel.rows s) = piece
  obtain ⟨limit, anchor⟩ := w
  cases anchor <;> cases (listing sel _).prepare <;> cases List.mapM MediaRow.decode _ <;> rfl

/-- The media of a window are its piece of the matches, if its statement is taken and the rows of
the piece stand for media. -/
theorem windowMedia_of_piece (h : sel.Aligned) {w : Window} (hLimit : 1 ≤ w.limit)
    (hPiece : ∀ row ∈ w.slice (·.id) (sel.rows s), row.decode = .ok row.read) :
    windowMedia sel w s = (listing sel w.anchor).prepare.map fun _ =>
      w.slice (·.id) ((sel.rows s).map MediaRow.read) := by
  have hDecode : ∀ row ∈ w.fetched (w.slice (·.id) (sel.rows s)), row.decode = .ok row.read :=
    fun row hRow => hPiece row (Window.mem_fetched.mp hRow)
  have hTurned : w.fetched ((w.fetched (w.slice (·.id) (sel.rows s))).map MediaRow.read) =
      w.slice (·.id) ((sel.rows s).map MediaRow.read) := by
    rw [Window.fetched_map, Window.fetched_fetched, Window.slice_map]
    rfl
  rw [windowMedia_fetched h hLimit, mapM_decode hDecode, ← hTurned]
  cases (listing sel w.anchor).prepare <;> rfl

/-- A window that is not refused reads the slice. -/
theorem windowMedia_eq (h : sel.Aligned) (hRows : ∀ row ∈ sel.rows s, row.decode = .ok row.read)
    {w : Window} (hLimit : 1 ≤ w.limit) :
    windowMedia sel w s = (listing sel w.anchor).prepare.map fun _ =>
      w.slice (·.id) ((sel.rows s).map MediaRow.read) :=
  windowMedia_of_piece h hLimit fun row hRow => hRows row ((w.slice_sublist _ _).subset hRow)

/-- The page of a window, where all matches are listed by their ids. -/
def ofMatches (w : Window) (all : List Media) : Page where
  media := w.slice (·.id) all
  totalCount := all.length
  firstId := (w.slice (·.id) all).head?.map (·.id)
  lastId := (w.slice (·.id) all).getLast?.map (·.id)
  hasMore := (w.slice (·.id) all).getLast?.any fun last => all.any fun m => last.id < m.id

/-- Whether more follows is asked of the matches beyond the id. -/
theorem existsAfter_eq (h : sel.Aligned) (id : Int) (s : Store) :
    existsAfter sel id s = (following sel id).prepare.map fun _ =>
      ((sel.rows s).map MediaRow.read).any fun m => id < m.id := by
  have hRows : (!((sel.bounded (.compared .id .above) (.int id)).rows s).isEmpty) =
      ((sel.rows s).map MediaRow.read).any fun m => id < m.id := by
    rw [rows_above h, Bool.eq_iff_iff]
    simp only [Bool.not_eq_true', List.isEmpty_eq_false_iff_exists_mem, List.mem_filter,
      List.any_map, List.any_eq_true, Function.comp_apply]
    rfl
  rw [existsAfter, hRows]
  cases (following sel id).prepare <;> rfl

/-- The three steps of fetching agree on one list of all matches, if their statements are taken and
the rows of the piece stand for media. The others are counted and compared by their ids, whatever
they stand for. -/
theorem fetch_of_piece (h : sel.Aligned) {w : Window} (hLimit : 1 ≤ w.limit)
    (hPiece : ∀ row ∈ w.slice (·.id) (sel.rows s), row.decode = .ok row.read) :
    fetch sel w s = (prepared sel w (w.slice (·.id) (sel.rows s))).map fun _ =>
      ofMatches w ((sel.rows s).map MediaRow.read) := by
  have hSlice : w.slice (·.id) ((sel.rows s).map MediaRow.read) =
      (w.slice (·.id) (sel.rows s)).map MediaRow.read := w.slice_map (·.id) MediaRow.read _
  rw [fetch, windowMedia_of_piece h hLimit hPiece, prepared, countMatches, ofMatches,
    List.length_map]
  simp only [existsAfter_eq h, hSlice]
  generalize w.slice _ (sel.rows s) = piece
  cases (counting sel).prepare with
  | error e => rfl
  | ok _ =>
    cases (listing sel w.anchor).prepare with
    | error e => rfl
    | ok _ =>
      cases piece with
      | nil => rfl
      | cons row rest =>
        have hHead : ((row :: rest).map MediaRow.read).head? = some row.read := rfl
        obtain ⟨last, hLast⟩ : ∃ last, (row :: rest).getLast? = some last := ⟨_, List.getLast?_cons⟩
        have hEnd : ((row :: rest).map MediaRow.read).getLast? = some last.read := by
          rw [List.getLast?_map, hLast]
          rfl
        have hId : last.read.id = last.id := rfl
        simp only [bind, Except.bind, Except.map, hHead, hEnd, hLast, hId]
        cases (following sel last.id).prepare <;> rfl

/-- A page that is not refused is the page of the matches. -/
theorem fetch_eq (h : sel.Aligned) (hRows : ∀ row ∈ sel.rows s, row.decode = .ok row.read)
    {w : Window} (hLimit : 1 ≤ w.limit) :
    fetch sel w s = (prepared sel w (w.slice (·.id) (sel.rows s))).map fun _ =>
      ofMatches w ((sel.rows s).map MediaRow.read) :=
  fetch_of_piece h hLimit fun row hRow => hRows row ((w.slice_sublist _ _).subset hRow)

/-- A row that cannot be read is met after the matches are counted and listed, and before it is
looked for what follows. -/
theorem fetch_of_fault (h : sel.Aligned) {w : Window} (hLimit : 1 ≤ w.limit) {e : Error}
    (hFault : (w.fetched (w.slice (·.id) (sel.rows s))).mapM MediaRow.decode = .error e) :
    fetch sel w s = (do
      (counting sel).prepare
      (listing sel w.anchor).prepare
      throw e) := by
  rw [fetch, countMatches, windowMedia_fetched h hLimit, hFault]
  cases (counting sel).prepare with
  | error e => rfl
  | ok _ => cases (listing sel w.anchor).prepare <;> rfl

-- ---------------------------------------------------------------------------
-- Pages of searches
-- ---------------------------------------------------------------------------

/-- The ids of all matches. -/
def matchIds (sel : Selection Condition) (s : Store) : List Int :=
  (sel.rows s).map (·.id)

theorem ids_ofMatches (w : Window) (all : List Media) :
    (ofMatches w all).ids = w.slice (fun id => id) (all.map (·.id)) :=
  (w.slice_map (fun id => id) MediaRecord.id all).symm

/-- More follows just if a match is beyond the last id of the page. -/
theorem hasMore_ofMatches (w : Window) (all : List Media) :
    (ofMatches w all).hasMore = true ↔
      ∃ last ∈ (ofMatches w all).lastId, ∃ id ∈ all.map (·.id), last < id := by
  simp only [ofMatches]
  cases (w.slice _ all).getLast? with
  | none => simp
  | some last =>
    simp only [Option.any_some, List.any_eq_true, decide_eq_true_eq, Option.map_some,
      Option.mem_def, Option.some.injEq, exists_eq_left', List.mem_map]
    constructor
    · rintro ⟨m, hm, hLt⟩
      exact ⟨m.id, ⟨m, hm, rfl⟩, hLt⟩
    · rintro ⟨_, ⟨m, hm, rfl⟩, hLt⟩
      exact ⟨m, hm, hLt⟩

/-- Where the rows lie by their ids and all stand for media, fetching a page of a search succeeds if
the store takes the statements for it: the ones that count and list, and where there is something on
the page, the one that looks for what follows. The number of the page is then the one of all
matches, whatever the window is; its media are the piece of the window; its ends are theirs; and it
promises more exactly if a match follows it. Otherwise the store says what it does not take. -/
theorem fetch_of_compile (hOrder : s.media.Pairwise (·.id < ·.id))
    (hRows : ∀ row ∈ s.media, ∃ m, row.decode = .ok m) {q : Query} {f : Filters}
    (hSel : Selection.compile q f = .ok sel) {w : Window} (hLimit : 1 ≤ w.limit) :
    (Accepted sel w (w.slice (·.id) (sel.rows s)) → ∃ page, Page.fetch sel w s = .ok page ∧
      (matchIds sel s).Pairwise (· < ·) ∧
      page.totalCount = (matchIds sel s).length ∧
      page.ids = w.slice (fun id => id) (matchIds sel s) ∧
      (∀ m ∈ page.media, ∃ row ∈ sel.rows s, row.decode = .ok m) ∧
      page.firstId = page.ids.head? ∧
      page.lastId = page.ids.getLast? ∧
      (page.hasMore = true ↔ ∃ last ∈ page.lastId, ∃ id ∈ matchIds sel s, last < id) ∧
      (page.media = [] → page.firstId = none ∧ page.lastId = none ∧ page.hasMore = false)) ∧
    (¬Accepted sel w (w.slice (·.id) (sel.rows s)) → ∃ e, Page.fetch sel w s = .error e ∧
      Refused sel w (w.slice (·.id) (sel.rows s)) e) := by
  have hRead : ∀ row ∈ sel.rows s, row.decode = .ok row.read :=
    fun row hRow => MediaRow.decode_eq_read (hRows row (List.mem_filter.mp hRow).1)
  have hIds : ((sel.rows s).map MediaRow.read).map (·.id) = matchIds sel s := by
    rw [List.map_map]
    rfl
  rw [fetch_eq (aligned_of_compile hSel) hRead hLimit]
  refine ⟨fun hAccepted =>
      ⟨_, map_prepared_of_accepted hAccepted _, ?_, ?_, ?_, ?_, ?_, ?_, ?_, ?_⟩,
    fun hRefused => exists_map_prepared_error hRefused _⟩
  · exact List.pairwise_map.mpr (hOrder.filter _)
  · rw [← hIds, List.length_map]
    rfl
  · rw [ids_ofMatches, hIds]
  · intro m hm
    obtain ⟨row, hRow, rfl⟩ := List.mem_map.mp ((w.slice_sublist _ _).subset hm)
    exact ⟨row, hRow, hRead row hRow⟩
  · exact (List.head?_map ..).symm
  · exact (List.getLast?_map ..).symm
  · rw [← hIds]
    exact hasMore_ofMatches w _
  · intro hEmpty
    simp only [ofMatches] at hEmpty ⊢
    rw [hEmpty]
    exact ⟨rfl, rfl, rfl⟩

/-- A page of one medium before an id that no medium has is the greatest below it. -/
theorem fetch_of_compile_two_images :
    ∃ page, Page.fetch ⟨[]⟩ ⟨1, .before 9⟩
        { media := [Store.newMediaRow 3 (.image "a") 0, Store.newMediaRow 5 (.image "b") 0] } =
          .ok page ∧ page.totalCount = 2 ∧ page.ids = [5] ∧ page.hasMore = false := by
  have hRows : ∀ row ∈ [Store.newMediaRow 3 (.image "a") 0, Store.newMediaRow 5 (.image "b") 0],
      ∃ m, MediaRow.decode row = .ok m := by
    intro row hRow
    simp only [List.mem_cons, List.not_mem_nil, or_false] at hRow
    rcases hRow with rfl | rfl
    · exact ⟨_, rfl⟩
    · exact ⟨_, rfl⟩
  have hFits : Selection.Fits ⟨[]⟩ := by decide
  obtain ⟨page, hPage, -, hCount, hIds, -, -, hLast, hMore, -⟩ := (fetch_of_compile
    (s := { media := [Store.newMediaRow 3 (.image "a") 0, Store.newMediaRow 5 (.image "b") 0] })
    (by decide) hRows (rfl : Selection.compile {} {} = .ok ⟨[]⟩)
    (by decide : 1 ≤ Window.limit ⟨1, .before 9⟩)).1 (hFits.accepted _ _)
  refine ⟨page, hPage, hCount, hIds, ?_⟩
  rw [Bool.eq_false_iff, ne_eq, hMore, hLast, hIds]
  decide

/-- A query that asks for a thousand names compiles, but no page of it is fetched, not even the one
without media that a store without media has. -/
theorem fetch_of_thousand_names :
    Query.parse (Query.ofNumbers 1000).text = .ok (Query.ofNumbers 1000) ∧
      ∃ sel, Selection.compile (Query.ofNumbers 1000) {} = .ok sel ∧
        sel.rows {} = [] ∧
        Page.fetch sel ⟨1, .first⟩ {} = .error (.storage .tooManyLevels) ∧
        Page.fetch sel ⟨1, .first⟩ {} ≠ .ok (Page.empty 0) := by
  obtain ⟨sel, hSel, hCount⟩ := Query.compile_thousand
  have hFetch : Page.fetch sel ⟨1, .first⟩ {} = .error (.storage .tooManyLevels) := by
    rw [fetch, countMatches, hCount]
    rfl
  exact ⟨Query.parse_ofNumbers 1000, sel, hSel, rfl, hFetch, by rw [hFetch]; simp⟩

end Page

end MediaLibrary
