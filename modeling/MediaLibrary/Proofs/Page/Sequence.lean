import Mathlib.Data.List.Basic
import MediaLibrary.Proofs.Page.Window

/-!
# Page — pages side by side

A page shows a piece of the list of all matches; something may lie before the piece and
something after it. That split is all there is to turning pages: the page after it begins
where the piece ends, the page before it ends where the piece begins. A page that is not
full reaches one end of the list, so turning a page and turning back shows the same piece.

* `Page.exists_cut` — the split that a window makes;
* `Page.before_of_after`, `Page.after_of_before` — turning back undoes turning;
* `Page.numbered`, `Page.sequence` — the pages of one size, one after the other;
* `Page.after_numbered` — the page after a page is the one with the next number;
* `Page.exists_sequence`, `Page.flatMap_sequence` — all but the last are full, and together they
  show every match.
-/

namespace MediaLibrary

namespace Page

variable {all before piece after : List Media} {m : Media} {size k : Nat}

theorem media_ofMatches (w : Window) (all : List Media) :
    (ofMatches w all).media = w.slice (·.id) all := rfl

theorem firstId_ofMatches (w : Window) (all : List Media) :
    (ofMatches w all).firstId = (w.slice (·.id) all).head?.map (·.id) := rfl

theorem lastId_ofMatches (w : Window) (all : List Media) :
    (ofMatches w all).lastId = (w.slice (·.id) all).getLast?.map (·.id) := rfl

/-- Windows that show the same piece are answered with the same page. -/
theorem ofMatches_congr {w w' : Window} (h : w.slice (·.id) all = w'.slice (·.id) all) :
    ofMatches w all = ofMatches w' all := by
  rw [ofMatches, ofMatches, h]

-- ---------------------------------------------------------------------------
-- Splits
-- ---------------------------------------------------------------------------

/-- Below the id of a medium lies what is listed before it. -/
theorem filter_below (h : (before ++ m :: after).Pairwise (·.id < ·.id)) :
    ((before ++ m :: after).filter fun x => decide (x.id < m.id)) = before := by
  obtain ⟨-, hAfter, hBefore⟩ := List.pairwise_append.mp h
  have hNone : ((m :: after).filter fun x => decide (x.id < m.id)) = [] := by
    rw [List.filter_eq_nil_iff]
    intro x hx
    rcases List.mem_cons.mp hx with rfl | hx
    · simp
    · have := (List.pairwise_cons.mp hAfter).1 x hx
      rw [decide_eq_true_iff]
      omega
  rw [List.filter_append, hNone, List.append_nil, List.filter_eq_self]
  intro x hx
  exact decide_eq_true (hBefore x hx m (List.mem_cons_self ..))

/-- Above the id of a medium lies what is listed after it. -/
theorem filter_above (h : (before ++ m :: after).Pairwise (·.id < ·.id)) :
    ((before ++ m :: after).filter fun x => decide (m.id < x.id)) = after := by
  obtain ⟨-, hAfter, hBefore⟩ := List.pairwise_append.mp h
  have hNone : (before.filter fun x => decide (m.id < x.id)) = [] := by
    rw [List.filter_eq_nil_iff]
    intro x hx
    have := hBefore x hx m (List.mem_cons_self ..)
    rw [decide_eq_true_iff]
    omega
  rw [List.filter_append, hNone, List.nil_append, List.filter_cons_of_neg (by simp),
    List.filter_eq_self]
  intro x hx
  exact decide_eq_true ((List.pairwise_cons.mp hAfter).1 x hx)

/-- A bound splits a list that is sorted by ids. -/
theorem filter_append_filter (h : all.Pairwise (·.id < ·.id)) (bound : Int) :
    (all.filter fun x => decide (x.id < bound)) ++ (all.filter fun x => decide (bound ≤ x.id)) =
      all := by
  induction all with
  | nil => rfl
  | cons x rest ih =>
    obtain ⟨hFirst, hRest⟩ := List.pairwise_cons.mp h
    by_cases hx : x.id < bound
    · have hNot : ¬bound ≤ x.id := by omega
      rw [List.filter_cons_of_pos (by simpa using hx),
        List.filter_cons_of_neg (by simpa using hNot), List.cons_append, ih hRest]
    · -- the first one is not below, so none is
      have hNone : ((x :: rest).filter fun y => decide (y.id < bound)) = [] := by
        rw [List.filter_eq_nil_iff]
        intro y hy
        rw [decide_eq_true_iff]
        rcases List.mem_cons.mp hy with rfl | hy
        · exact hx
        · have := hFirst y hy
          omega
      rw [hNone, List.nil_append, List.filter_eq_self]
      intro y hy
      rw [decide_eq_true_iff]
      rcases List.mem_cons.mp hy with rfl | hy
      · omega
      · have := hFirst y hy
        omega

/-- What a window shows, with what lies before and after. A piece that does not fill the window
reaches one end of the list. -/
theorem exists_cut (h : all.Pairwise (·.id < ·.id)) (w : Window) :
    ∃ before after, all = before ++ (w.slice (·.id) all ++ after) ∧
      ((w.slice (·.id) all).length = w.limit.toNat ∨ before = [] ∨ after = []) := by
  have hTake (rest : List Media) : (rest.take w.limit.toNat).length = w.limit.toNat ∨
      rest.drop w.limit.toNat = [] := by
    rw [List.length_take, List.drop_eq_nil_iff]
    omega
  obtain ⟨limit, anchor⟩ := w
  cases anchor with
  | first => exact ⟨[], all.drop limit.toNat, (List.take_append_drop _ _).symm, .inr (.inl rfl)⟩
  | offset n =>
    refine ⟨all.take n.toNat, (all.drop n.toNat).drop limit.toNat, ?_, ?_⟩
    · show all = _ ++ ((all.drop n.toNat).take limit.toNat ++ _)
      rw [List.take_append_drop, List.take_append_drop]
    · exact (hTake (all.drop n.toNat)).imp_right .inr
  | after a =>
    have hSplit := filter_append_filter h (a + 1)
    simp only [Int.add_one_le_iff] at hSplit
    refine ⟨all.filter fun x => decide (x.id < a + 1),
      (all.filter fun x => decide (a < x.id)).drop limit.toNat, ?_, ?_⟩
    · show all = _ ++ ((all.filter fun x => decide (a < x.id)).take limit.toNat ++ _)
      rw [List.take_append_drop]
      exact hSplit.symm
    · exact (hTake (all.filter fun x => decide (a < x.id))).imp_right .inr
  | before b =>
    have hSplit := filter_append_filter h b
    have hSlice : Window.slice ⟨limit, .before b⟩ (·.id) all =
        (all.filter fun x => decide (x.id < b)).drop
          ((all.filter fun x => decide (x.id < b)).length - limit.toNat) := rfl
    generalize (all.filter fun x => decide (x.id < b)) = below at hSplit hSlice
    rw [hSlice]
    refine ⟨below.take (below.length - limit.toNat), all.filter fun x => decide (b ≤ x.id), ?_, ?_⟩
    · rw [← List.append_assoc, List.take_append_drop]
      exact hSplit.symm
    · rw [List.length_drop, List.take_eq_nil_iff]
      show _ = limit.toNat ∨ _
      omega

/-- The last of what comes up to the end of a piece, as many as there is room for, are the piece. -/
theorem drop_of_room (hRoom : piece.length ≤ size) (hEnds : piece.length = size ∨ before = []) :
    (before ++ piece).drop ((before ++ piece).length - size) = piece := by
  rcases hEnds with hFull | rfl
  · rw [List.length_append, hFull, Nat.add_sub_cancel, List.drop_left]
  · have hZero : ([] ++ piece).length - size = 0 := by
      rw [List.nil_append]
      omega
    rw [hZero, List.drop_zero, List.nil_append]

/-- The first of what comes from the beginning of a piece, as many as there is room for, are the
piece. -/
theorem take_of_room (hRoom : piece.length ≤ size) (hEnds : piece.length = size ∨ after = []) :
    (piece ++ after).take size = piece := by
  rcases hEnds with hFull | rfl
  · rw [← hFull, List.take_left]
  · rw [List.append_nil, List.take_of_length_le hRoom]

-- ---------------------------------------------------------------------------
-- Turning pages
-- ---------------------------------------------------------------------------

/-- After a match comes what follows it, as far as the limit goes. -/
theorem slice_after (h : (before ++ m :: after).Pairwise (·.id < ·.id)) (limit : Int) :
    Window.slice ⟨limit, .after m.id⟩ (·.id) (before ++ m :: after) = after.take limit.toNat :=
  congrArg (List.take limit.toNat) (filter_above h)

/-- Before a match comes what is in front of it, as far back as the limit goes. -/
theorem slice_before (h : (before ++ m :: after).Pairwise (·.id < ·.id)) (limit : Int) :
    Window.slice ⟨limit, .before m.id⟩ (·.id) (before ++ m :: after) =
      before.drop (before.length - limit.toNat) := by
  have hBelow := filter_below h
  simp only [Window.slice, hBelow]

/-- The page before the first medium of the page after a page is that page again. -/
theorem before_of_after (h : all.Pairwise (·.id < ·.id)) {w : Window}
    (hNe : (ofMatches w all).media ≠ []) :
    ∃ last, (ofMatches w all).lastId = some last ∧
      ((ofMatches ⟨w.limit, .after last⟩ all).media ≠ [] →
        ∃ first, (ofMatches ⟨w.limit, .after last⟩ all).firstId = some first ∧
          ofMatches ⟨w.limit, .before first⟩ all = ofMatches w all) := by
  obtain ⟨before, after, hAll, hEnds⟩ := exists_cut h w
  have hRoom := w.length_slice_le (·.id) all
  rw [media_ofMatches] at hNe
  obtain ⟨init, last, hPiece⟩ := (List.eq_nil_or_concat' (w.slice (·.id) all)).resolve_left hNe
  refine ⟨last.id, by rw [lastId_ofMatches, hPiece]; simp, ?_⟩
  have hSplit : (before ++ init) ++ last :: after = all := by
    rw [hAll, hPiece]
    simp
  have hNext := slice_after (hSplit ▸ h) w.limit
  rw [hSplit] at hNext
  intro hNextNe
  rw [media_ofMatches, hNext] at hNextNe
  cases after with
  | nil => exact absurd List.take_nil hNextNe
  | cons first rest =>
    have hFirst : ((first :: rest).take w.limit.toNat).head? = some first := by
      rw [List.head?_take, if_neg fun hZero => hNextNe (by rw [hZero, List.take_zero])]
      rfl
    refine ⟨first.id, ?_, ofMatches_congr ?_⟩
    · rw [firstId_ofMatches, hNext, hFirst]
      rfl
    · have hSplit' : (before ++ w.slice (·.id) all) ++ first :: rest = all := by
        rw [List.append_assoc, ← hAll]
      have hBack := slice_before (hSplit' ▸ h) w.limit
      rw [hSplit'] at hBack
      rw [hBack]
      exact drop_of_room hRoom (hEnds.imp_right fun hEnds => hEnds.resolve_right (by simp))

/-- The page after the last medium of the page before a page is that page again. -/
theorem after_of_before (h : all.Pairwise (·.id < ·.id)) {w : Window}
    (hNe : (ofMatches w all).media ≠ []) :
    ∃ first, (ofMatches w all).firstId = some first ∧
      ((ofMatches ⟨w.limit, .before first⟩ all).media ≠ [] →
        ∃ last, (ofMatches ⟨w.limit, .before first⟩ all).lastId = some last ∧
          ofMatches ⟨w.limit, .after last⟩ all = ofMatches w all) := by
  obtain ⟨before, after, hAll, hEnds⟩ := exists_cut h w
  have hRoom := w.length_slice_le (·.id) all
  rw [media_ofMatches] at hNe
  obtain ⟨first, rest, hPiece⟩ := List.exists_cons_of_ne_nil hNe
  refine ⟨first.id, by rw [firstId_ofMatches, hPiece]; rfl, ?_⟩
  have hSplit : before ++ first :: (rest ++ after) = all := by
    rw [hAll, hPiece]
    rfl
  have hPrevious := slice_before (hSplit ▸ h) w.limit
  rw [hSplit] at hPrevious
  intro hPreviousNe
  rw [media_ofMatches, hPrevious] at hPreviousNe
  rcases List.eq_nil_or_concat' before with rfl | ⟨init, last, rfl⟩
  · exact absurd List.drop_nil hPreviousNe
  · have hLast : ((init ++ [last]).drop ((init ++ [last]).length - w.limit.toNat)).getLast? =
        some last := by
      rw [List.getLast?_drop, if_neg fun hShort => hPreviousNe (List.drop_eq_nil_iff.mpr hShort)]
      simp
    refine ⟨last.id, ?_, ofMatches_congr ?_⟩
    · rw [lastId_ofMatches, hPrevious, hLast]
      rfl
    · have hSplit' : init ++ last :: (w.slice (·.id) all ++ after) = all := by
        simpa using hAll.symm
      have hBack := slice_after (hSplit' ▸ h) w.limit
      rw [hSplit'] at hBack
      rw [hBack]
      exact take_of_room hRoom (hEnds.imp_right fun hEnds => hEnds.resolve_left (by simp))

-- ---------------------------------------------------------------------------
-- Numbered pages
-- ---------------------------------------------------------------------------

/-- The page with a number, where pages of one size follow one another from page zero. -/
def numbered (size : Nat) (all : List Media) (k : Nat) : Page :=
  ofMatches ⟨size, .offset (k * size : Nat)⟩ all

/-- How many pages of a size there are for some number of matches. If nothing matches, there is one,
and it is empty. -/
def count (size matched : Nat) : Nat :=
  max 1 ((matched + size - 1) / size)

/-- There is always a first page. -/
theorem count_pos (size matched : Nat) : 0 < count size matched := by
  unfold count
  omega

/-- There is a page with the next number if there are more matches than the pages so far hold. -/
theorem succ_lt_count_iff (hSize : 1 ≤ size) (matched k : Nat) :
    k + 1 < count size matched ↔ (k + 1) * size < matched := by
  have hDiv : k + 2 ≤ (matched + size - 1) / size ↔ (k + 2) * size ≤ matched + size - 1 :=
    Nat.le_div_iff_mul_le hSize
  have hNext : (k + 2) * size = (k + 1) * size + size := Nat.succ_mul (k + 1) size
  unfold count
  omega

theorem slice_offset (limit : Int) (n : Nat) (all : List Media) :
    Window.slice ⟨limit, .offset n⟩ (·.id) all = (all.drop n).take limit.toNat := rfl

/-- A page by its number has the matches of its piece. -/
theorem media_numbered (size : Nat) (all : List Media) (k : Nat) :
    (numbered size all k).media = (all.drop (k * size)).take size := by
  rw [numbered, media_ofMatches, slice_offset]
  rfl

/-- The number of a page does not matter to its window if it is zero. -/
theorem numbered_zero (size : Nat) (all : List Media) :
    numbered size all 0 = ofMatches ⟨size, .first⟩ all :=
  ofMatches_congr (by simp [Window.slice])

/-- Above the last id of a page lies what later pages show. -/
theorem filter_above_numbered (h : all.Pairwise (·.id < ·.id)) {last : Int}
    (hLast : (numbered size all k).lastId = some last) :
    (all.filter fun x => decide (last < x.id)) = all.drop ((k + 1) * size) := by
  have hNext : (k + 1) * size = k * size + size := Nat.succ_mul k size
  obtain ⟨m, hMember, rfl⟩ := Option.map_eq_some_iff.mp hLast
  obtain ⟨init, hPiece⟩ := List.getLast?_eq_some_iff.mp hMember
  have hSplit : (all.take (k * size) ++ init) ++ m :: all.drop ((k + 1) * size) = all := by
    have hMedia : (all.drop (k * size)).take size = init ++ [m] := hPiece
    calc (all.take (k * size) ++ init) ++ m :: all.drop ((k + 1) * size)
        = all.take (k * size) ++ ((init ++ [m]) ++ (all.drop (k * size)).drop size) := by
          rw [List.drop_drop, ← hNext]
          simp
      _ = all := by rw [← hMedia, List.take_append_drop, List.take_append_drop]
  have hAbove := filter_above (hSplit ▸ h)
  rwa [hSplit] at hAbove

/-- Every page but the last is full and promises more, and the page after its last medium is the
one with the next number. -/
theorem after_numbered (h : all.Pairwise (·.id < ·.id)) (hSize : 1 ≤ size)
    (hMore : (k + 1) * size < all.length) :
    (numbered size all k).media.length = size ∧ (numbered size all k).hasMore = true ∧
      ∃ last, (numbered size all k).lastId = some last ∧
        ofMatches ⟨size, .after last⟩ all = numbered size all (k + 1) := by
  have hNext : (k + 1) * size = k * size + size := Nat.succ_mul k size
  have hLength : (numbered size all k).media.length = size := by
    rw [media_numbered, List.length_take, List.length_drop]
    omega
  have hNe : (numbered size all k).media ≠ [] := by
    intro hNil
    rw [hNil, List.length_nil] at hLength
    omega
  have hLastId : (numbered size all k).lastId = some ((numbered size all k).media.getLast hNe).id :=
    congrArg (Option.map fun m : Media => m.id) (List.getLast?_eq_some_getLast hNe)
  have hAbove := filter_above_numbered h hLastId
  refine ⟨hLength, ?_, _, hLastId, ofMatches_congr ?_⟩
  · obtain ⟨m, hm⟩ : ∃ m, m ∈ all.drop ((k + 1) * size) := by
      refine List.exists_mem_of_ne_nil _ ?_
      rw [Ne, List.drop_eq_nil_iff]
      omega
    rw [← hAbove, List.mem_filter, decide_eq_true_iff] at hm
    exact (hasMore_ofMatches _ all).mpr ⟨_, hLastId, m.id, List.mem_map_of_mem hm.1, hm.2⟩
  · rw [slice_offset, ← hAbove]
    rfl

/-- A page up to which all matches fit promises no more. -/
theorem hasMore_numbered (h : all.Pairwise (·.id < ·.id)) (hLast : all.length ≤ (k + 1) * size) :
    (numbered size all k).hasMore = false := by
  rw [Bool.eq_false_iff, Ne, numbered, hasMore_ofMatches]
  rintro ⟨last, hLastId, id, hId, hLt⟩
  obtain ⟨m, hm, rfl⟩ := List.mem_map.mp hId
  have hAbove : m ∈ all.filter fun x => decide (last < x.id) :=
    List.mem_filter.mpr ⟨hm, decide_eq_true hLt⟩
  rw [filter_above_numbered h hLastId, List.drop_eq_nil_of_le hLast] at hAbove
  cases hAbove

/-- The pages of one size, in order. -/
def sequence (size : Nat) (all : List Media) : List Page :=
  (List.range (count size all.length)).map (numbered size all)

/-- The pages of one size are full pages that promise more, and a last one that promises no more. -/
theorem exists_sequence (h : all.Pairwise (·.id < ·.id)) (hSize : 1 ≤ size) :
    ∃ full last, sequence size all = full ++ [last] ∧
      (∀ p ∈ full, p.media.length = size ∧ p.hasMore = true) ∧ last.hasMore = false := by
  obtain ⟨c, hc⟩ : ∃ c, count size all.length = c + 1 :=
    ⟨_, (Nat.succ_pred_eq_of_pos (count_pos size all.length)).symm⟩
  refine ⟨(List.range c).map (numbered size all), numbered size all c, ?_, ?_, ?_⟩
  · rw [sequence, hc, List.range_succ, List.map_append]
    rfl
  · intro p hp
    obtain ⟨k, hk, rfl⟩ := List.mem_map.mp hp
    rw [List.mem_range] at hk
    obtain ⟨hFull, hMore, -⟩ :=
      after_numbered h hSize ((succ_lt_count_iff hSize all.length k).mp (by omega))
    exact ⟨hFull, hMore⟩
  · have hLast := (succ_lt_count_iff hSize all.length c).not.mp (by omega)
    exact hasMore_numbered h (by omega)

/-- The first pages of a size show the first matches. -/
theorem flatMap_numbered (size : Nat) (all : List Media) (n : Nat) :
    ((List.range n).flatMap fun k => (numbered size all k).media) = all.take (n * size) := by
  induction n with
  | zero => simp
  | succ n ih =>
    rw [List.range_succ, List.flatMap_append, ih, Nat.succ_mul, List.take_add]
    simp [media_numbered]

/-- The pages of a size show every match once, in order. -/
theorem flatMap_sequence (hSize : 1 ≤ size) (all : List Media) :
    (sequence size all).flatMap (·.media) = all := by
  have hCount : all.length ≤ count size all.length * size := by
    obtain ⟨c, hc⟩ : ∃ c, count size all.length = c + 1 :=
      ⟨_, (Nat.succ_pred_eq_of_pos (count_pos size all.length)).symm⟩
    have hLast := (succ_lt_count_iff hSize all.length c).not.mp (by omega)
    rw [hc]
    omega
  rw [sequence, List.flatMap_map, flatMap_numbered, List.take_of_length_le hCount]

end Page

end MediaLibrary
