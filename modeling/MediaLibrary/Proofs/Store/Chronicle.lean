import MediaLibrary.Proofs.Store.Change

/-!
# Store — what is recorded

Views are recorded with their times, and so are the versions of the tables. The *chronicle* of a
store is these records, together with what media say of their own views. Tags, ratings and parents
come and go without touching it: a change adds a medium that was never viewed, records one view,
or takes a medium away with all views of it. From this it follows that media say the truth.

* `Chronicle`, `Store.chronicle` — what is recorded;
* `Chronicle.Next`, `Store.Change.chronicle` — what a change does to the chronicle;
* `Chronicle.Right`, `Chronicle.Next.right` — media count their views and know the last one.
-/

namespace MediaLibrary

-- ---------------------------------------------------------------------------
-- Chronicles
-- ---------------------------------------------------------------------------

/-- What a medium says of its views: how many there were, and when the last one was. -/
structure Visits where
  id : Int
  count : Int
  last : Option Int

/-- What the row of a medium says of its views. -/
def MediaRow.visits (row : MediaRow) : Visits :=
  ⟨row.id, row.viewCount, row.lastViewedAt⟩

/-- What is recorded of views and versions, and what media say of their views. -/
structure Chronicle where
  media : List Visits
  views : List View
  versions : List Version
  hasTagIndex : Bool
  lastMediaId : Int
  lastViewId : Int

namespace Chronicle

variable {c c' : Chronicle} {id now : Int}

/-- The views of a medium, in the order in which they were recorded. -/
def viewsOf (c : Chronicle) (id : Int) : List View :=
  c.views.filter (·.mediaId == id)

/-- A medium comes that was never viewed. -/
def add (c : Chronicle) : Chronicle :=
  { c with
    media := c.media ++ [⟨c.lastMediaId + 1, 0, none⟩]
    lastMediaId := c.lastMediaId + 1 }

/-- A view of a medium is recorded. -/
def view (c : Chronicle) (id now : Int) : Chronicle :=
  { c with
    media := c.media.map fun m =>
      if m.id == id then { m with count := m.count + 1, last := some now } else m
    views := c.views ++ [⟨c.lastViewId + 1, id, now⟩]
    lastViewId := c.lastViewId + 1 }

/-- A medium goes with all views of it. -/
def remove (c : Chronicle) (id : Int) : Chronicle :=
  { c with
    media := c.media.filter (·.id != id)
    views := c.views.filter (·.mediaId != id) }

/-- What one change may do to a chronicle. -/
inductive Next (now : Int) (c : Chronicle) : Chronicle → Prop where
  | same : Next now c c
  | added : Next now c c.add
  | viewed (id : Int) : Next now c (c.view id now)
  | removed (id : Int) : Next now c (c.remove id)

-- ---------------------------------------------------------------------------
-- Media that say the truth
-- ---------------------------------------------------------------------------

/-- Media count their views and know the time of the last one; and views have ascending ids, none of
which is above the last one given. -/
structure Right (c : Chronicle) : Prop where
  counted : ∀ m ∈ c.media, m.count = (c.viewsOf m.id).length
  latest : ∀ m ∈ c.media, m.last = (c.viewsOf m.id).getLast?.map (·.viewedAt)
  ascending : c.views.Pairwise (·.id < ·.id)
  bounded : ∀ v ∈ c.views, v.id ≤ c.lastViewId

/-- A view is noted for its medium alone. -/
theorem viewsOf_view (m : Int) :
    (c.view id now).viewsOf m =
      if m = id then c.viewsOf m ++ [⟨c.lastViewId + 1, id, now⟩] else c.viewsOf m := by
  rw [viewsOf, view, List.filter_append, ← viewsOf]
  split
  · rename_i hSame
    simp [hSame]
  · rename_i hOther
    simp [Ne.symm hOther]

/-- Without the views of one medium, those of the others are all there. -/
theorem filter_views_ne {m id : Int} (h : m ≠ id) (views : List View) :
    (views.filter (·.mediaId != id)).filter (·.mediaId == m) = views.filter (·.mediaId == m) := by
  rw [List.filter_filter]
  apply List.filter_congr
  intro v _
  by_cases hView : v.mediaId = m
  · simp [hView, h]
  · simp [hView]

/-- The views of other media stay. -/
theorem viewsOf_remove {m : Int} (h : m ≠ id) : (c.remove id).viewsOf m = c.viewsOf m :=
  filter_views_ne h c.views

namespace Right

/-- A new medium has no views, if none names an id that is still to come. -/
theorem add (h : c.Right) (hKnown : ∀ v ∈ c.views, v.mediaId ≤ c.lastMediaId) : c.add.Right := by
  have hNone : c.viewsOf (c.lastMediaId + 1) = [] := by
    rw [viewsOf, List.filter_eq_nil_iff]
    intro v hv hNew
    have hBound := hKnown v hv
    rw [beq_iff_eq] at hNew
    omega
  refine ⟨?_, ?_, h.ascending, h.bounded⟩
  · intro m hm
    rcases List.mem_append.mp hm with hm | hm
    · exact h.counted m hm
    · obtain rfl := List.mem_singleton.mp hm
      exact (congrArg (fun views : List View => (views.length : Int)) hNone).symm
  · intro m hm
    rcases List.mem_append.mp hm with hm | hm
    · exact h.latest m hm
    · obtain rfl := List.mem_singleton.mp hm
      exact (congrArg (fun views : List View => views.getLast?.map (·.viewedAt)) hNone).symm

/-- The medium that is viewed counts one more, and its last view is this one. -/
theorem view (h : c.Right) (id now : Int) : (c.view id now).Right := by
  refine ⟨?_, ?_, ?_, ?_⟩
  · intro m hm
    obtain ⟨m₀, hm₀, rfl⟩ := List.mem_map.mp hm
    have hCount := h.counted m₀ hm₀
    by_cases hId : m₀.id = id
    · simp [hId, viewsOf_view, hCount]
    · simp [hId, viewsOf_view, hCount]
  · intro m hm
    obtain ⟨m₀, hm₀, rfl⟩ := List.mem_map.mp hm
    have hLast := h.latest m₀ hm₀
    by_cases hId : m₀.id = id
    · simp [hId, viewsOf_view]
    · simp [hId, viewsOf_view, hLast]
  · refine List.pairwise_append.mpr ⟨h.ascending, List.pairwise_singleton _ _, ?_⟩
    intro v hv new hNew
    obtain rfl := List.mem_singleton.mp hNew
    have hBound := h.bounded v hv
    show v.id < c.lastViewId + 1
    omega
  · intro v hv
    show v.id ≤ c.lastViewId + 1
    rcases List.mem_append.mp hv with hv | hv
    · have hBound := h.bounded v hv
      omega
    · obtain rfl := List.mem_singleton.mp hv
      exact Int.le_refl _

/-- A chronicle is right without a medium and its views. -/
theorem remove (h : c.Right) (id : Int) : (c.remove id).Right := by
  have hStays {m : Visits} (hm : m ∈ (c.remove id).media) : m ∈ c.media ∧ m.id ≠ id := by
    simpa using List.mem_filter.mp hm
  refine ⟨?_, ?_, h.ascending.filter _, fun v hv => h.bounded v (List.mem_filter.mp hv).1⟩
  · intro m hm
    rw [viewsOf_remove (hStays hm).2]
    exact h.counted m (hStays hm).1
  · intro m hm
    rw [viewsOf_remove (hStays hm).2]
    exact h.latest m (hStays hm).1

end Right

/-- Media go on to say the truth, if no view names a medium that is still to come. -/
theorem Next.right (hNext : c.Next now c') (h : c.Right)
    (hKnown : ∀ v ∈ c.views, v.mediaId ≤ c.lastMediaId) : c'.Right := by
  cases hNext with
  | same => exact h
  | added => exact h.add hKnown
  | viewed id => exact h.view id now
  | removed id => exact h.remove id

/-- No change records a version or forgets one. -/
theorem Next.versions (hNext : c.Next now c') :
    c'.versions = c.versions ∧ c'.hasTagIndex = c.hasTagIndex := by
  cases hNext <;> exact ⟨rfl, rfl⟩

end Chronicle

-- ---------------------------------------------------------------------------
-- Stores
-- ---------------------------------------------------------------------------

namespace Store

/-- The chronicle of a store. -/
def chronicle (s : Store) : Chronicle where
  media := s.media.map MediaRow.visits
  views := s.views
  versions := s.versions
  hasTagIndex := s.hasTagIndex
  lastMediaId := s.lastMediaId
  lastViewId := s.lastViewId

variable {s s' : Store} {id now : Int}

-- ---------------------------------------------------------------------------
-- Effects that leave the chronicle alone
-- ---------------------------------------------------------------------------

/-- What is done to a medium besides its visits is not in the chronicle. -/
theorem chronicle_changeMedia (s : Store) (id : Int) {f : MediaRow → MediaRow}
    (hf : ∀ row, (f row).visits = row.visits) : (s.changeMedia id f).chronicle = s.chronicle := by
  rw [chronicle, s.map_changeMedia MediaRow.visits id hf]
  rfl

/-- Counters of tags are not in the chronicle. -/
theorem chronicle_recount (s : Store) (mediaId tagId change now : Int) :
    (s.recount mediaId tagId change now).chronicle = s.chronicle :=
  chronicle_changeMedia _ mediaId fun _ => rfl

theorem chronicle_attach (s : Store) (mediaId tagId now : Int) :
    (s.attach mediaId tagId now).chronicle = s.chronicle := by
  unfold attach
  split
  · rfl
  · exact chronicle_recount ..

theorem chronicle_detach (s : Store) (mediaId tagId now : Int) :
    (s.detach mediaId tagId now).chronicle = s.chronicle := by
  unfold detach
  split
  · exact chronicle_recount ..
  · rfl

/-- Tags that are attached or detached are not in it either, -/
theorem chronicle_detachAll (s : Store) (chosen : Attachment → Bool) (now : Int) :
    (s.detachAll chosen now).chronicle = s.chronicle := by
  refine detachAll_induction s (P := fun s' => s'.chronicle = s.chronicle) ?_ chosen rfl
  intro s' mediaId tagId h
  rw [chronicle_detach, h]

theorem chronicle_markParent (s : Store) (parent : Option Int) :
    (s.markParent parent).chronicle = s.chronicle := by
  cases parent with
  | none => rfl
  | some id => exact s.chronicle_changeMedia id fun _ => rfl

theorem chronicle_refreshParent (s : Store) (parent : Option Int) :
    (s.refreshParent parent).chronicle = s.chronicle := by
  cases parent with
  | none => rfl
  | some id => exact s.chronicle_changeMedia id fun _ => rfl

theorem chronicle_orphan (s : Store) (id : Int) : (s.orphan id).chronicle = s.chronicle := by
  have hMedia : (s.orphan id).media.map MediaRow.visits = s.media.map MediaRow.visits := by
    rw [orphan, List.map_map]
    apply List.map_congr_left
    intro row _
    simp only [Function.comp_apply]
    split <;> rfl
  rw [chronicle, hMedia]
  rfl

/-- nor is the parent of a medium. -/
theorem chronicle_setParent (s : Store) (id : Int) (parent : Option Int) (now : Int) :
    (s.setParent id parent now).chronicle = s.chronicle := by
  unfold setParent
  split
  · rfl
  · rw [chronicle_refreshParent, chronicle_markParent]
    exact s.chronicle_changeMedia id fun _ => rfl

-- ---------------------------------------------------------------------------
-- Effects on the chronicle
-- ---------------------------------------------------------------------------

/-- A new medium enters the chronicle without a view. -/
theorem chronicle_insertMedia {m : NewMedia} (h : s.insertMedia m now = .ok (id, s')) :
    s'.chronicle = s.chronicle.add := by
  obtain ⟨rfl, -, rfl⟩ := insertMedia_ok h
  rw [chronicle_markParent]
  simp [chronicle, Chronicle.add, MediaRow.visits, newMediaRow]

/-- A view enters it for its medium. -/
theorem chronicle_view (s : Store) (id now : Int) :
    (s.view id now).chronicle = s.chronicle.view id now := by
  have hMedia : (s.view id now).media.map MediaRow.visits =
      (s.chronicle.view id now).media := by
    simp only [view, changeMedia, chronicle, Chronicle.view, List.map_map]
    apply List.map_congr_left
    intro row _
    exact apply_ite MediaRow.visits _ _ _
  rw [chronicle, hMedia]
  rfl

/-- A medium takes its views along, and its tags and children do not matter. -/
theorem chronicle_deleteMedia {row : MediaRow} (hRow : s.mediaRow? id = some row) (now : Int) :
    (s.deleteMedia id now).chronicle = s.chronicle.remove id := by
  have hMedia : (s.media.filter (·.id != id)).map MediaRow.visits =
      (s.chronicle.remove id).media := by
    simp only [chronicle, Chronicle.remove, List.filter_map]
    rfl
  have hViews (t : Store) : chronicle { t with views := t.views.filter (·.mediaId != id) } =
      { t.chronicle with views := t.chronicle.views.filter (·.mediaId != id) } := rfl
  rw [deleteMedia, hRow]
  dsimp only
  rw [chronicle_refreshParent, chronicle_orphan, hViews, chronicle_detachAll, chronicle, hMedia]
  rfl

-- ---------------------------------------------------------------------------
-- All changes
-- ---------------------------------------------------------------------------

/-- What a change does to the chronicle, whatever the store holds. -/
theorem Change.chronicle (h : Change now s s') : s.chronicle.Next now s'.chronicle := by
  have hSame (hEq : s'.chronicle = s.chronicle) : s.chronicle.Next now s'.chronicle :=
    hEq ▸ .same
  cases h with
  | insertMedia hOk => exact chronicle_insertMedia hOk ▸ .added
  | deleteMedia id =>
    cases hRow : s.mediaRow? id with
    | none => exact hSame (by rw [Store.deleteMedia, hRow])
    | some row => exact chronicle_deleteMedia hRow now ▸ .removed id
  | setFavorite id _ => exact hSame (s.chronicle_changeMedia id fun _ => rfl)
  | setRating id _ => exact hSame (s.chronicle_changeMedia id fun _ => rfl)
  | setParent _ _ => exact hSame (s.chronicle_setParent ..)
  | @view id _ => exact s.chronicle_view id now ▸ .viewed id
  | insertTag _ hOk =>
    obtain ⟨-, -, rfl⟩ := insertTag_ok hOk
    exact hSame rfl
  | deleteTag id => exact hSame (s.chronicle_detachAll _ now)
  | attach _ _ => exact hSame (s.chronicle_attach ..)
  | detach mediaId tagId => exact hSame (s.chronicle_detach ..)

/-- The chronicle of the new store is empty, and right. -/
theorem right_fresh (now : Int) : (Store.fresh now).chronicle.Right := by
  constructor <;> simp [Store.fresh, chronicle]

end Store

end MediaLibrary
