import Mathlib.Tactic.Set
import MediaLibrary.Proofs.Page.Window
import MediaLibrary.Search.Walk

/-!
# Page — a page on the way of a walk

A walk leaves a page at one end and resumes there, at an id and not at a row. Both ways
are alike up to the order of ids, so what a page does for a walk is said once: it shows
matches past the id at which the walk resumes, and passes over none before the id at
which the walk leaves it.

* `Direction.Past` — the order in which a walk meets ids;
* `Page.Serves` — what a page does for a walk;
* `Page.serves_ofMatches` — the page of a window does it.
-/

namespace MediaLibrary

-- ---------------------------------------------------------------------------
-- The order of a walk
-- ---------------------------------------------------------------------------

/-- Going this way, the second id comes after the first. -/
def Direction.Past : Direction → Int → Int → Prop
  | forward, x, y => x < y
  | backward, x, y => y < x

theorem Direction.Past.trans {way : Direction} {x y z : Int} (hxy : way.Past x y)
    (hyz : way.Past y z) : way.Past x z := by
  cases way with
  | forward => exact Int.lt_trans hxy hyz
  | backward => exact Int.lt_trans hyz hxy

theorem Direction.Past.ne {way : Direction} {x y : Int} (h : way.Past x y) : x ≠ y := by
  cases way with
  | forward => exact Int.ne_of_lt h
  | backward => exact (Int.ne_of_lt h).symm

/-- Where a page of a walk begins that has come to an id, or that sets out. -/
def Anchor.resume : Direction → Option Int → Anchor
  | _, none => .first
  | .forward, some id => .after id
  | .backward, some id => .before id

namespace Page

/-- The id at which a walk leaves a page. -/
def exit (p : Page) : Direction → Option Int
  | .forward => p.lastId
  | .backward => p.firstId

/-- The walk goes on after a page: forward if the page promises more, backward unless the page is
empty. -/
def goesOn (p : Page) : Direction → Bool
  | .forward => p.hasMore && !p.media.isEmpty
  | .backward => !p.media.isEmpty

/-- What a page does for a walk that resumes at an id, or sets out, where these media match: it
shows some of them past that id, and it is left at an id before which it passes over none. -/
structure Serves (way : Direction) (start : Option Int) (all : List Media) (p : Page) : Prop where
  ascending : p.ids.Pairwise (· < ·)
  matched : ∀ m ∈ p.media, m ∈ all
  past : ∀ id ∈ p.ids, ∀ a ∈ start, way.Past a id
  exits : p.media ≠ [] →
    ∃ e ∈ p.ids, p.exit way = some e ∧ ∀ id ∈ p.ids, id = e ∨ way.Past id e
  complete : ∀ m ∈ all, (∀ a ∈ start, way.Past a m.id) →
    m.id ∈ p.ids ∨ ∃ e ∈ p.ids, p.exit way = some e ∧ way.Past e m.id
  hasMore : p.hasMore = true ↔ ∃ last ∈ p.lastId, ∃ id ∈ all.map (·.id), last < id

theorem ne_nil_of_mem_ids {p : Page} {id : Int} (h : id ∈ p.ids) : p.media ≠ [] := by
  obtain ⟨m, hm, -⟩ := List.mem_map.mp h
  exact List.ne_nil_of_mem hm

theorem ne_nil_of_goesOn {p : Page} {way : Direction} (h : p.goesOn way = true) : p.media ≠ [] := by
  cases way with
  | forward =>
    simp only [goesOn, Bool.and_eq_true, Bool.not_eq_true', List.isEmpty_eq_false_iff] at h
    exact h.2
  | backward =>
    simp only [goesOn, Bool.not_eq_true', List.isEmpty_eq_false_iff] at h
    exact h

/-- Where the walk does not go on, nothing is left to serve. -/
theorem Serves.last {way : Direction} {start : Option Int} {all : List Media} {p : Page}
    (h : p.Serves way start all) (hLast : p.goesOn way = false) :
    ∀ m ∈ all, (∀ a ∈ start, way.Past a m.id) → m.id ∈ p.ids := by
  intro m hm hStart
  rcases h.complete m hm hStart with hServed | ⟨e, he, hExit, hPast⟩
  · exact hServed
  · exfalso
    have hNe : p.media.isEmpty = false := by simpa using ne_nil_of_mem_ids he
    cases way with
    | forward =>
      have hMore : p.hasMore = true :=
        h.hasMore.mpr ⟨e, hExit, m.id, List.mem_map_of_mem hm, hPast⟩
      simp [goesOn, hMore, hNe] at hLast
    | backward => simp [goesOn, hNe] at hLast

-- ---------------------------------------------------------------------------
-- Pages of windows
-- ---------------------------------------------------------------------------

variable {all piece : List Media}

/-- A piece that is not empty is left at the last of its ids. -/
theorem exits_ofMatches (h : all.Pairwise (·.id < ·.id)) (way : Direction) {w : Window}
    (hNe : w.slice (·.id) all ≠ []) :
    ∃ e ∈ (ofMatches w all).ids, (ofMatches w all).exit way = some e ∧
      ∀ id ∈ (ofMatches w all).ids, id = e ∨ way.Past id e := by
  have hPiece := h.sublist (w.slice_sublist (·.id) all)
  cases way with
  | forward =>
    obtain ⟨last, hLast⟩ : ∃ last, (w.slice (·.id) all).getLast? = some last :=
      ⟨_, List.getLast?_eq_some_getLast hNe⟩
    refine ⟨last.id, List.mem_map_of_mem (List.mem_of_getLast? hLast), ?_, ?_⟩
    · exact congrArg (Option.map (·.id)) hLast
    · intro id hId
      obtain ⟨m, hm, rfl⟩ := List.mem_map.mp hId
      obtain ⟨init, hInit⟩ := List.getLast?_eq_some_iff.mp hLast
      rw [hInit] at hPiece
      rcases List.mem_append.mp (hInit ▸ hm : m ∈ init ++ [last]) with hm | hm
      · right
        exact (List.pairwise_append.mp hPiece).2.2 m hm last (List.mem_singleton_self last)
      · left
        rw [List.mem_singleton.mp hm]
  | backward =>
    obtain ⟨first, hFirst⟩ : ∃ first, (w.slice (·.id) all).head? = some first :=
      ⟨_, List.head?_eq_some_head hNe⟩
    refine ⟨first.id, List.mem_map_of_mem (List.mem_of_head? hFirst), ?_, ?_⟩
    · exact congrArg (Option.map (·.id)) hFirst
    · intro id hId
      obtain ⟨m, hm, rfl⟩ := List.mem_map.mp hId
      obtain ⟨rest, hRest⟩ := List.head?_eq_some_iff.mp hFirst
      rw [hRest] at hPiece
      rcases List.mem_cons.mp (hRest ▸ hm : m ∈ first :: rest) with rfl | hm
      · exact .inl rfl
      · exact .inr ((List.pairwise_cons.mp hPiece).1 m hm)

/-- A piece serves a walk if it lies past its beginning and what it leaves out there lies past the
piece. -/
theorem serves_of_slice (h : all.Pairwise (·.id < ·.id)) {way : Direction} {start : Option Int}
    {w : Window} (hPast : ∀ m ∈ w.slice (·.id) all, ∀ a ∈ start, way.Past a m.id)
    (hComplete : ∀ m ∈ all, (∀ a ∈ start, way.Past a m.id) → m ∈ w.slice (·.id) all ∨
      (w.slice (·.id) all ≠ [] ∧ ∀ x ∈ w.slice (·.id) all, way.Past x.id m.id)) :
    Serves way start all (ofMatches w all) where
  ascending := List.pairwise_map.mpr (h.sublist (w.slice_sublist _ _))
  matched := fun m hm => (w.slice_sublist _ _).subset hm
  past := by
    intro id hId
    obtain ⟨m, hm, rfl⟩ := List.mem_map.mp hId
    exact hPast m hm
  exits := exits_ofMatches h way
  complete := by
    intro m hm hStart
    rcases hComplete m hm hStart with hPiece | ⟨hNe, hLeft⟩
    · exact .inl (List.mem_map_of_mem hPiece)
    · obtain ⟨e, he, hExit, -⟩ := exits_ofMatches h way hNe
      obtain ⟨x, hx, rfl⟩ := List.mem_map.mp he
      exact .inr ⟨x.id, he, hExit, hLeft x hx⟩
  hasMore := hasMore_ofMatches w all

/-- The first of the matches past an id are a page of a walk forward. -/
theorem serves_forward (h : all.Pairwise (·.id < ·.id)) {limit : Int} (hLimit : 1 ≤ limit)
    (start : Option Int) :
    Serves .forward start all (ofMatches ⟨limit, .resume .forward start⟩ all) := by
  have hSlice : Window.slice ⟨limit, .resume .forward start⟩ (·.id) all =
      (all.filter fun m => decide (∀ a ∈ start, a < m.id)).take limit.toNat := by
    cases start with
    | none =>
      rw [List.filter_eq_self.mpr fun m _ => by simp]
      rfl
    | some a => simp [Window.slice, Anchor.resume]
  have hSorted := h.filter fun m => decide (∀ a ∈ start, a < m.id)
  set left := all.filter fun m => decide (∀ a ∈ start, a < m.id) with hLeft
  apply serves_of_slice h
  · intro m hm
    rw [hSlice] at hm
    have hKept : ∀ a ∈ start, a < m.id := by
      simpa [hLeft] using (List.mem_filter.mp (List.mem_of_mem_take hm)).2
    exact hKept
  · intro m hm hPast
    have hMem : m ∈ left := List.mem_filter.mpr ⟨hm, decide_eq_true hPast⟩
    rw [hSlice]
    rw [← List.take_append_drop limit.toNat left] at hMem hSorted
    rcases List.mem_append.mp hMem with hTake | hDrop
    · exact .inl hTake
    · right
      refine ⟨fun hNil => ?_, fun x hx => (List.pairwise_append.mp hSorted).2.2 x hx m hDrop⟩
      rcases List.take_eq_nil_iff.mp hNil with hZero | hNone
      · omega
      · exact List.ne_nil_of_mem (List.mem_of_mem_drop hDrop) hNone

/-- The last of the matches below an id are a page of a walk backward. -/
theorem serves_backward (h : all.Pairwise (·.id < ·.id)) {limit : Int} (hLimit : 1 ≤ limit)
    (b : Int) : Serves .backward (some b) all (ofMatches ⟨limit, .before b⟩ all) := by
  have hSorted := h.filter fun m => decide (m.id < b)
  set left := all.filter fun m => decide (m.id < b) with hLeft
  have hSlice : Window.slice ⟨limit, .before b⟩ (·.id) all =
      left.drop (left.length - limit.toNat) := rfl
  apply serves_of_slice h
  · intro m hm
    rw [hSlice] at hm
    simpa [hLeft, Direction.Past] using (List.mem_filter.mp (List.mem_of_mem_drop hm)).2
  · intro m hm hPast
    have hMem : m ∈ left := List.mem_filter.mpr ⟨hm, decide_eq_true (hPast b rfl)⟩
    rw [hSlice]
    rw [← List.take_append_drop (left.length - limit.toNat) left] at hMem hSorted
    rcases List.mem_append.mp hMem with hTake | hDrop
    · right
      refine ⟨fun hNil => ?_, fun x hx => (List.pairwise_append.mp hSorted).2.2 m hTake x hx⟩
      have hShort := List.drop_eq_nil_iff.mp hNil
      have hLength := List.length_pos_of_mem (List.mem_of_mem_take hTake)
      omega
    · exact .inl hDrop

end Page

end MediaLibrary
