import MediaLibrary.Proofs.Store.Attached

/-!
# Store — parents and their marks

A medium may name another one as its parent, and a parent carries a mark. Of all that
a store holds, only the *kinship* of its media matters to both: who names whom, and
who is marked. An effect that changes who names whom may leave marks wrong, but only
those of the old parent and of the new one, and it looks at both again: so marks are
right but for a few media, and then but for none.

* `Kin`, `Store.kinship` — what media say about parents;
* `Kinship.Closed`, `Kinship.MarkedBut` — parents exist, and just they are marked;
* `Kinship.MarkedBut.refresh` — looking again puts a mark right;
* `Store.kinship_setParent`, `Store.kinship_deleteMedia` — what changes do to kinship;
* `Store.Change.family` — every change of a sound store keeps parents and marks right.
-/

namespace MediaLibrary

-- ---------------------------------------------------------------------------
-- Kinship
-- ---------------------------------------------------------------------------

/-- What a medium says about parents. -/
structure Kin where
  id : Int
  parentId : Option Int
  hasChildren : Bool

/-- What the row of a medium says about parents. -/
def MediaRow.kin (row : MediaRow) : Kin :=
  ⟨row.id, row.parentId, row.hasChildren⟩

/-- What a list of media says about parents. -/
abbrev Kinship := List Kin

namespace Kinship

variable {k : Kinship}

/-- Some medium names this one as its parent. -/
def isParent (k : Kinship) (id : Int) : Bool :=
  k.any (·.parentId == some id)

/-- The mark of one medium, looked at again. -/
def refresh (k : Kinship) : Option Int → Kinship
  | none => k
  | some id => k.map fun kin =>
    if kin.id == id then { kin with hasChildren := k.isParent id } else kin

/-- One medium names another parent. -/
def reparent (k : Kinship) (id : Int) (parent : Option Int) : Kinship :=
  k.map fun kin => if kin.id == id then { kin with parentId := parent } else kin

/-- Nobody names this medium as the parent any more. -/
def orphan (k : Kinship) (id : Int) : Kinship :=
  k.map fun kin => if kin.parentId == some id then { kin with parentId := none } else kin

/-- Every parent exists. -/
def Closed (k : Kinship) : Prop :=
  ∀ kin ∈ k, ∀ p ∈ kin.parentId, ∃ kin' ∈ k, kin'.id = p

/-- Every medium is marked exactly if it is a parent, but for some. -/
def MarkedBut (k : Kinship) (others : List Int) : Prop :=
  ∀ kin ∈ k, kin.id ∉ others → kin.hasChildren = k.isParent kin.id

theorem isParent_iff {id : Int} : k.isParent id = true ↔ ∃ kin ∈ k, kin.parentId = some id := by
  simp [isParent, List.any_eq_true]

/-- A change of marks changes neither who there is nor who names whom. -/
theorem isParent_map {f : Kin → Kin} (hf : ∀ kin, (f kin).parentId = kin.parentId) :
    isParent (k.map f) = k.isParent := by
  funext id
  simp [isParent, List.any_map, Function.comp_def, hf]

/-- Whatever is done to each entry, the parents stay inside if the ids do not change and the new
parents are inside. -/
theorem closed_map {f : Kin → Kin} (hId : ∀ kin, (f kin).id = kin.id)
    (hParent : ∀ kin ∈ k, ∀ p ∈ (f kin).parentId, ∃ kin' ∈ k, kin'.id = p) :
    Closed (k.map f) := by
  intro kin hKin p hp
  obtain ⟨kin₀, hKin₀, rfl⟩ := List.mem_map.mp hKin
  obtain ⟨kin', hKin', rfl⟩ := hParent kin₀ hKin₀ p hp
  exact ⟨f kin', List.mem_map_of_mem hKin', hId kin'⟩

/-- Where media that stay keep their marks, only those need another look that became parents or
ceased to be. -/
theorem MarkedBut.map (h : k.MarkedBut []) {l : Kinship} (hSub : ∀ kin ∈ l, kin ∈ k)
    {f : Kin → Kin} (hf : ∀ kin, (f kin).id = kin.id ∧ (f kin).hasChildren = kin.hasChildren)
    {others : List Int}
    (hParent : ∀ kin ∈ l, kin.id ∉ others → isParent (l.map f) kin.id = k.isParent kin.id) :
    MarkedBut (l.map f) others := by
  intro kin hKin hOther
  obtain ⟨kin₀, hKin₀, rfl⟩ := List.mem_map.mp hKin
  obtain ⟨hId, hMark⟩ := hf kin₀
  rw [hId] at hOther ⊢
  rw [hMark, hParent kin₀ hKin₀ hOther]
  exact h kin₀ (hSub kin₀ hKin₀) (by simp)

-- ---------------------------------------------------------------------------
-- Looking again
-- ---------------------------------------------------------------------------

/-- Setting marks right leaves the parents themselves alone. -/
theorem isParent_refresh (parent : Option Int) : (k.refresh parent).isParent = k.isParent := by
  cases parent with
  | none => rfl
  | some id =>
    refine isParent_map fun kin => ?_
    split <;> rfl

/-- Marks can be set right at any time. -/
theorem Closed.refresh (h : k.Closed) (parent : Option Int) : (k.refresh parent).Closed := by
  cases parent with
  | none => exact h
  | some id =>
    refine closed_map (fun kin => ?_) fun kin hKin p hp => h kin hKin p ?_
    · split <;> rfl
    · split at hp <;> exact hp

/-- Looking again at a medium puts its mark right. -/
theorem MarkedBut.refresh {parent : Option Int} {others : List Int}
    (h : k.MarkedBut (parent.toList ++ others)) : (k.refresh parent).MarkedBut others := by
  intro kin hKin hOther
  rw [isParent_refresh]
  cases parent with
  | none => exact h kin hKin hOther
  | some id =>
    obtain ⟨kin₀, hKin₀, rfl⟩ := List.mem_map.mp hKin
    by_cases hId : kin₀.id = id
    · simp [hId]
    · have hSame : (if kin₀.id == id then { kin₀ with hasChildren := k.isParent id } else kin₀) =
          kin₀ := by simp [hId]
      rw [hSame] at hOther ⊢
      refine h kin₀ hKin₀ ?_
      simpa [hId] using hOther

-- ---------------------------------------------------------------------------
-- New parents
-- ---------------------------------------------------------------------------

/-- A new medium may leave the mark of its parent wrong. -/
theorem MarkedBut.append (h : k.MarkedBut []) {id : Int} {parent : Option Int}
    (hFresh : k.isParent id = false) :
    MarkedBut (k ++ [⟨id, parent, false⟩]) (parent.toList ++ []) := by
  have hParent (q : Int) (hq : q ∉ parent.toList ++ []) :
      isParent (k ++ [⟨id, parent, false⟩]) q = k.isParent q := by
    have hNe : (parent == some q) = false := by
      rw [beq_eq_false_iff_ne]
      rintro rfl
      exact hq (by simp)
    simp [isParent, List.any_append, hNe]
  intro kin hKin hOther
  rw [hParent _ hOther]
  rcases List.mem_append.mp hKin with hOld | hNew
  · exact h kin hOld (by simp)
  · obtain rfl := List.mem_singleton.mp hNew
    exact hFresh.symm

/-- A new entry may name a parent that is there, or itself. -/
theorem Closed.append (h : k.Closed) {id : Int} {parent : Option Int} {marked : Bool}
    (hParent : ∀ p ∈ parent, p = id ∨ ∃ kin ∈ k, kin.id = p) :
    Closed (k ++ [⟨id, parent, marked⟩]) := by
  intro kin hKin p hp
  have hOld : (∃ kin' ∈ k, kin'.id = p) → ∃ kin' ∈ k ++ [⟨id, parent, marked⟩], kin'.id = p := by
    rintro ⟨kin', hKin', hId⟩
    exact ⟨kin', List.mem_append_left _ hKin', hId⟩
  rcases List.mem_append.mp hKin with hKin | hKin
  · exact hOld (h kin hKin p hp)
  · obtain rfl := List.mem_singleton.mp hKin
    rcases hParent p hp with rfl | hExists
    · exact ⟨_, List.mem_append_right _ (List.mem_singleton_self _), rfl⟩
    · exact hOld hExists

/-- Whoever is neither the old parent nor the new one is a parent as before. -/
theorem isParent_reparent {self : Kin} (hIds : ∀ kin ∈ k, kin.id = self.id → kin = self)
    {parent : Option Int} {q : Int} (hNew : parent ≠ some q) (hOld : self.parentId ≠ some q) :
    (k.reparent self.id parent).isParent q = k.isParent q := by
  -- the medium itself names `q` neither before nor after
  rw [Bool.eq_iff_iff, isParent_iff, isParent_iff]
  constructor
  · rintro ⟨kin, hKin, hq⟩
    obtain ⟨kin₀, hKin₀, rfl⟩ := List.mem_map.mp hKin
    by_cases hId : kin₀.id = self.id
    · exact absurd (by simpa [hId] using hq) hNew
    · exact ⟨kin₀, hKin₀, by simpa [hId] using hq⟩
  · rintro ⟨kin, hKin, hq⟩
    have hId : kin.id ≠ self.id := by
      intro hId
      rw [hIds kin hKin hId] at hq
      exact hOld hq
    exact ⟨kin, List.mem_map.mpr ⟨kin, hKin, by simp [hId]⟩, hq⟩

/-- Naming another parent may leave the marks of the new parent and the old one wrong. -/
theorem MarkedBut.reparent (h : k.MarkedBut []) {self : Kin}
    (hIds : ∀ kin ∈ k, kin.id = self.id → kin = self) (parent : Option Int) :
    (k.reparent self.id parent).MarkedBut (parent.toList ++ (self.parentId.toList ++ [])) := by
  refine h.map (fun _ hKin => hKin) (fun kin => ?_) fun kin _ hOther => ?_
  · split <;> exact ⟨rfl, rfl⟩
  · simp only [List.append_nil, List.mem_append, Option.mem_toList, not_or] at hOther
    exact isParent_reparent hIds hOther.1 hOther.2

/-- An entry may get any parent that is there. -/
theorem Closed.reparent (h : k.Closed) {id : Int} {parent : Option Int}
    (hParent : ∀ p ∈ parent, ∃ kin ∈ k, kin.id = p) : (k.reparent id parent).Closed := by
  refine closed_map (fun kin => ?_) fun kin hKin p hp => ?_
  · split <;> rfl
  · split at hp
    · exact hParent p hp
    · exact h kin hKin p hp

-- ---------------------------------------------------------------------------
-- Media that go
-- ---------------------------------------------------------------------------

/-- Whoever stays and is not the parent of the medium that goes is a parent as before. -/
theorem isParent_orphan {self : Kin} (hIds : ∀ kin ∈ k, kin.id = self.id → kin = self) {q : Int}
    (hNe : q ≠ self.id) (hParent : self.parentId ≠ some q) :
    (orphan (k.filter (·.id != self.id)) self.id).isParent q = k.isParent q := by
  rw [Bool.eq_iff_iff, isParent_iff, isParent_iff]
  constructor
  · rintro ⟨kin, hKin, hq⟩
    obtain ⟨kin₀, hKin₀, rfl⟩ := List.mem_map.mp hKin
    refine ⟨kin₀, (List.mem_filter.mp hKin₀).1, ?_⟩
    split at hq
    · cases hq
    · exact hq
  · rintro ⟨kin, hKin, hq⟩
    have hId : kin.id ≠ self.id := by
      intro hId
      rw [hIds kin hKin hId] at hq
      exact hParent hq
    refine ⟨kin, List.mem_map.mpr ⟨kin, List.mem_filter.mpr ⟨hKin, by simpa using hId⟩, ?_⟩, hq⟩
    simp [hq, hNe]

/-- A medium that goes may leave the mark of its parent wrong. -/
theorem MarkedBut.remove (h : k.MarkedBut []) {self : Kin}
    (hIds : ∀ kin ∈ k, kin.id = self.id → kin = self) :
    (orphan (k.filter (·.id != self.id)) self.id).MarkedBut (self.parentId.toList ++ []) := by
  refine h.map (fun _ hKin => (List.mem_filter.mp hKin).1) (fun kin => ?_) fun kin hKin hOther => ?_
  · split <;> exact ⟨rfl, rfl⟩
  · have hStays : kin.id ≠ self.id := by simpa using (List.mem_filter.mp hKin).2
    simp only [List.append_nil, Option.mem_toList] at hOther
    exact isParent_orphan hIds hStays hOther

/-- An entry that is taken out leaves no child behind that names it. -/
theorem Closed.remove (h : k.Closed) (id : Int) :
    (orphan (k.filter (·.id != id)) id).Closed := by
  intro kin hKin p hp
  obtain ⟨kin₀, hKin₀, rfl⟩ := List.mem_map.mp hKin
  split at hp
  · cases hp
  · rename_i hOther
    obtain ⟨kin', hKin', rfl⟩ := h kin₀ (List.mem_filter.mp hKin₀).1 p hp
    -- were it the parent that goes, nobody would name it now
    have hStays : kin'.id ≠ id := by
      rintro rfl
      exact hOther (by simpa using hp)
    refine ⟨_, List.mem_map_of_mem (List.mem_filter.mpr ⟨hKin', by simpa using hStays⟩), ?_⟩
    split <;> rfl

end Kinship

-- ---------------------------------------------------------------------------
-- Stores
-- ---------------------------------------------------------------------------

namespace Store

/-- What the media of a store say about parents. -/
def kinship (s : Store) : Kinship :=
  s.media.map MediaRow.kin

/-- Every parent exists, and just the parents are marked. -/
structure Family (s : Store) : Prop where
  closed : s.kinship.Closed
  marked : s.kinship.MarkedBut []

variable {s s' : Store} {id now : Int}

/-- The kinship is all that the store needs to know who is a parent. -/
theorem isParent_eq (s : Store) (id : Int) : s.isParent id = s.kinship.isParent id := by
  simp [isParent, kinship, Kinship.isParent, List.any_map, Function.comp_def, MediaRow.kin]

theorem exists_kin_of_hasMedia (h : s.hasMedia id = true) : ∃ kin ∈ s.kinship, kin.id = id := by
  obtain ⟨row, hRow, hId⟩ := List.any_eq_true.mp h
  exact ⟨row.kin, List.mem_map_of_mem hRow, beq_iff_eq.mp hId⟩

/-- The row that is found is the only one with its id. -/
theorem Sound.kin_of_mediaRow? (h : s.Sound) {row : MediaRow} (hRow : s.mediaRow? id = some row) :
    row.kin.id = id ∧ ∀ kin ∈ s.kinship, kin.id = id → kin = row.kin := by
  have hMem : row ∈ s.media := List.mem_of_find?_eq_some hRow
  have hId : row.id = id := by simpa using List.find?_some hRow
  refine ⟨hId, ?_⟩
  intro kin hKin hSame
  obtain ⟨row', hRow', rfl⟩ := List.mem_map.mp hKin
  have hSame' : row'.id = row.id := Eq.trans hSame hId.symm
  rw [eq_of_ids h.media_ids hRow' hMem hSame']

-- ---------------------------------------------------------------------------
-- Effects that leave kinship alone
-- ---------------------------------------------------------------------------

/-- What is done to a medium besides its parent and its mark does not touch the kinship. -/
theorem kinship_changeMedia (id : Int) {f : MediaRow → MediaRow}
    (hf : ∀ row, (f row).kin = row.kin) : (s.changeMedia id f).kinship = s.kinship :=
  s.map_changeMedia MediaRow.kin id hf

/-- Counters are no kin. -/
theorem kinship_recount (mediaId tagId change now : Int) :
    (s.recount mediaId tagId change now).kinship = s.kinship :=
  map_changeMedia _ MediaRow.kin mediaId fun _ => rfl

/-- A tag that is attached does not touch the kinship. -/
theorem kinship_attach (mediaId tagId now : Int) :
    (s.attach mediaId tagId now).kinship = s.kinship := by
  unfold attach
  split
  · rfl
  · exact kinship_recount ..

theorem kinship_detach (mediaId tagId now : Int) :
    (s.detach mediaId tagId now).kinship = s.kinship := by
  unfold detach
  split
  · exact kinship_recount ..
  · rfl

theorem kinship_detachAll (chosen : Attachment → Bool) (now : Int) :
    (s.detachAll chosen now).kinship = s.kinship := by
  refine detachAll_induction s (P := fun s' => s'.kinship = s.kinship) ?_ chosen rfl
  intro s' mediaId tagId h
  rw [kinship_detach, h]

-- ---------------------------------------------------------------------------
-- Effects on kinship
-- ---------------------------------------------------------------------------

/-- The mark of a parent is set right as the kinship says. -/
theorem kinship_refreshParent (s : Store) (parent : Option Int) :
    (s.refreshParent parent).kinship = s.kinship.refresh parent := by
  cases parent with
  | none => rfl
  | some id =>
    simp only [refreshParent, changeMedia, kinship, Kinship.refresh, List.map_map]
    apply List.map_congr_left
    intro row _
    rw [← kinship, ← isParent_eq]
    exact apply_ite MediaRow.kin _ _ _

/-- Marking a parent is looking at it again. -/
theorem kinship_markParent {parent : Option Int}
    (h : ∀ p ∈ parent, s.kinship.isParent p = true) :
    (s.markParent parent).kinship = s.kinship.refresh parent := by
  cases parent with
  | none => rfl
  | some id =>
    have hMarked : s.markParent (some id) = s.refreshParent (some id) := by
      simp only [markParent, refreshParent, isParent_eq, h id rfl]
    rw [hMarked, kinship_refreshParent]

/-- Children lose their parent in the kinship as in the store. -/
theorem kinship_orphan (s : Store) (id : Int) : (s.orphan id).kinship = s.kinship.orphan id := by
  simp only [orphan, kinship, Kinship.orphan, List.map_map]
  apply List.map_congr_left
  intro row _
  exact apply_ite MediaRow.kin _ _ _

/-- A medium gets its parent in the kinship as in the store. -/
theorem kinship_reparent (s : Store) (id : Int) (parent : Option Int) (now : Int) :
    (s.changeMedia id fun row => { row with parentId := parent, updatedAt := now }).kinship =
      s.kinship.reparent id parent := by
  simp only [changeMedia, kinship, Kinship.reparent, List.map_map]
  apply List.map_congr_left
  intro row _
  exact apply_ite MediaRow.kin _ _ _

/-- A medium is taken out of the kinship as out of the store. -/
theorem kinship_filter (s : Store) (id : Int) :
    kinship { s with media := s.media.filter (·.id != id) } =
      s.kinship.filter (·.id != id) := by
  simp only [kinship, List.filter_map]
  rfl

/-- The medium is added, then its parent is looked at. -/
theorem kinship_insertMedia {m : NewMedia} (h : s.insertMedia m now = .ok (id, s')) :
    s'.kinship = Kinship.refresh (s.kinship ++ [⟨id, m.parentId, false⟩]) m.parentId := by
  obtain ⟨-, -, rfl⟩ := insertMedia_ok h
  have hAppend : kinship { s with
      media := s.media ++ [newMediaRow id m now], lastMediaId := id } =
      s.kinship ++ [⟨id, m.parentId, false⟩] := by
    simp [kinship, MediaRow.kin, newMediaRow]
  have hMark : ∀ p ∈ m.parentId,
      Kinship.isParent (s.kinship ++ [⟨id, m.parentId, false⟩]) p = true := by
    intro p hp
    exact Kinship.isParent_iff.mpr ⟨_, List.mem_append_right _ (List.mem_singleton_self _), hp⟩
  rw [kinship_markParent (hAppend ▸ hMark), hAppend]

/-- The medium gets its parent, then the new parent and the old one are looked at. -/
theorem kinship_setParent {row : MediaRow} (hRow : s.mediaRow? id = some row)
    (parent : Option Int) (now : Int) :
    (s.setParent id parent now).kinship =
      ((s.kinship.reparent id parent).refresh parent).refresh row.parentId := by
  have hSelf : row.kin ∈ s.kinship := List.mem_map_of_mem (List.mem_of_find?_eq_some hRow)
  have hId : row.id = id := by simpa using List.find?_some hRow
  have hReparent := s.kinship_reparent id parent now
  have hMark : ∀ p ∈ parent, (s.kinship.reparent id parent).isParent p = true := by
    intro p hp
    refine Kinship.isParent_iff.mpr ⟨_, List.mem_map_of_mem hSelf, ?_⟩
    simpa [MediaRow.kin, hId] using hp
  rw [setParent, hRow]
  dsimp only
  rw [kinship_refreshParent, kinship_markParent (hReparent ▸ hMark), hReparent]

/-- The medium goes, its children lose their parent, and its own parent is looked at. -/
theorem kinship_deleteMedia {row : MediaRow} (hRow : s.mediaRow? id = some row) (now : Int) :
    (s.deleteMedia id now).kinship =
      (Kinship.orphan (s.kinship.filter (·.id != id)) id).refresh row.parentId := by
  rw [deleteMedia, hRow]
  dsimp only
  rw [kinship_refreshParent, kinship_orphan]
  show Kinship.refresh (Kinship.orphan (kinship (detachAll _ _ now)) id) _ = _
  rw [kinship_detachAll, kinship_filter]

/-- The parent of a medium that the store accepts exists, or is the medium itself. -/
theorem parent_of_insertMedia {m : NewMedia} (h : s.insertMedia m now = .ok (id, s')) :
    ∀ p ∈ m.parentId, p = id ∨ s.hasMedia p = true := by
  intro p hp
  simp only [insertMedia] at h
  split at h
  · cases h
  · split at h
    · cases h
    · rename_i hParent
      cases h
      rw [Option.mem_def.mp hp, Option.any_some] at hParent
      by_cases hSelf : p = s.lastMediaId + 1
      · exact .inl hSelf
      · right
        simpa [hSelf] using hParent

namespace Family

/-- What does not touch the kinship leaves a family a family. -/
theorem of_kinship (h : s.Family) (hKinship : s'.kinship = s.kinship) : s'.Family where
  closed := hKinship ▸ h.closed
  marked := hKinship ▸ h.marked

/-- A parent exists, so an id above all that do is not one. -/
theorem isParent_eq_false (h : s.Family) (hSound : s.Sound) (hAbove : s.lastMediaId < id) :
    s.kinship.isParent id = false := by
  rw [Bool.eq_false_iff]
  intro hIs
  obtain ⟨kin, hKin, hParent⟩ := Kinship.isParent_iff.mp hIs
  obtain ⟨kin', hKin', hSame⟩ := h.closed kin hKin id hParent
  obtain ⟨row, hRow, rfl⟩ := List.mem_map.mp hKin'
  have hBound : row.id ≤ s.lastMediaId :=
    hSound.outline.mediaBound row.core (List.mem_map_of_mem hRow)
  have hSame' : row.id = id := hSame
  omega

/-- A new medium joins the family, and its parent is marked. -/
theorem insertMedia (h : s.Family) (hSound : s.Sound) {m : NewMedia}
    (hOk : s.insertMedia m now = .ok (id, s')) : s'.Family := by
  have hParents := parent_of_insertMedia hOk
  have hKinship := kinship_insertMedia hOk
  obtain ⟨hId, -, -⟩ := insertMedia_ok hOk
  have hFresh : s.kinship.isParent id = false := h.isParent_eq_false hSound (by omega)
  constructor
  · rw [hKinship]
    refine (h.closed.append fun p hp => ?_).refresh m.parentId
    exact (hParents p hp).imp_right exists_kin_of_hasMedia
  · rw [hKinship]
    exact (h.marked.append hFresh).refresh

/-- A medium that changes its parent leaves the mark of neither parent wrong. -/
theorem setParent (h : s.Family) (hSound : s.Sound) {parent : Option Int}
    (hParent : ∀ p ∈ parent, s.hasMedia p = true) (id now : Int) :
    (s.setParent id parent now).Family := by
  cases hRow : s.mediaRow? id with
  | none => simpa [Store.setParent, hRow] using h
  | some row =>
    have hKinship := kinship_setParent hRow parent now
    obtain ⟨rfl, hIds⟩ := hSound.kin_of_mediaRow? hRow
    constructor
    · rw [hKinship]
      refine ((h.closed.reparent fun p hp => ?_).refresh parent).refresh row.parentId
      exact exists_kin_of_hasMedia (hParent p hp)
    · rw [hKinship]
      exact (h.marked.reparent hIds parent).refresh.refresh

/-- A medium that is deleted leaves no children, and its parent is marked anew. -/
theorem deleteMedia (h : s.Family) (hSound : s.Sound) (id now : Int) :
    (s.deleteMedia id now).Family := by
  cases hRow : s.mediaRow? id with
  | none => simpa [Store.deleteMedia, hRow] using h
  | some row =>
    have hKinship := kinship_deleteMedia hRow now
    obtain ⟨rfl, hIds⟩ := hSound.kin_of_mediaRow? hRow
    constructor
    · rw [hKinship]
      exact (h.closed.remove row.kin.id).refresh row.parentId
    · rw [hKinship]
      exact (h.marked.remove hIds).refresh

end Family

-- ---------------------------------------------------------------------------
-- All changes
-- ---------------------------------------------------------------------------

/-- The new store is a family without members. -/
theorem family_fresh (now : Int) : (Store.fresh now).Family := by
  constructor <;> simp [Store.fresh, kinship, Kinship.Closed, Kinship.MarkedBut]

/-- A change of a sound store keeps parents and their marks right. -/
theorem Change.family (hChange : Change now s s') (hSound : s.Sound) (h : s.Family) :
    s'.Family := by
  cases hChange with
  | insertMedia hOk => exact h.insertMedia hSound hOk
  | deleteMedia id => exact h.deleteMedia hSound id now
  | setFavorite id isFavorite => exact h.of_kinship (kinship_changeMedia id fun _ => rfl)
  | setRating id rating => exact h.of_kinship (kinship_changeMedia id fun _ => rfl)
  | setParent _ hParent => exact h.setParent hSound hParent _ now
  | view _ => exact h.of_kinship (kinship_changeMedia _ fun _ => rfl)
  | insertTag _ hOk =>
    obtain ⟨-, -, rfl⟩ := insertTag_ok hOk
    exact h.of_kinship rfl
  | deleteTag id => exact h.of_kinship (kinship_detachAll _ now)
  | attach _ _ => exact h.of_kinship (kinship_attach ..)
  | detach mediaId tagId => exact h.of_kinship (kinship_detach ..)

end Store

end MediaLibrary
