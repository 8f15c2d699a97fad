import MediaLibrary.Proofs.Store.Deletion

/-!
# Store — what writing one medium leaves

A medium is written in its own row, and where it gets a parent or leaves one, the marks of
these are written along. Whether a new medium is accepted depends on the media before it
and on the id that it is given. With this a store after a medium came or moved can be told
row by row.

* `Store.insertMedia_known`, `Store.insertMedia_orphan`, `Store.insertMedia_new` — what
  becomes of a new medium;
* `Store.withMedia`, `Store.withParent` — the store with one more medium, or with one moved;
* `Store.Sound.setParent_eq` — a medium that gets another parent leaves just this.
-/

namespace MediaLibrary

namespace Store

variable {s : Store} {now : Int}

theorem hasMedia_iff {id : Int} : s.hasMedia id = true ↔ ∃ row ∈ s.media, row.id = id := by
  simp [hasMedia, List.any_eq_true]

-- ---------------------------------------------------------------------------
-- Media that come
-- ---------------------------------------------------------------------------

/-- Some medium has this content. -/
def HasContent (s : Store) (contentHash : String) : Prop :=
  ∃ row ∈ s.media, row.contentHash = contentHash

/-- A new medium may have this parent: none, one that exists, or the medium itself. -/
def AcceptsParent (s : Store) (parent : Option Int) : Prop :=
  ∀ p ∈ parent, p = s.lastMediaId + 1 ∨ ∃ row ∈ s.media, row.id = p

/-- The row of the medium that comes next, which may be its own parent. -/
def nextRow (s : Store) (m : NewMedia) (now : Int) : MediaRow :=
  { newMediaRow (s.lastMediaId + 1) m now with
    hasChildren := m.parentId == some (s.lastMediaId + 1) }

/-- The store with one more medium, whose parent is marked. Nothing else has changed. -/
def withMedia (s : Store) (m : NewMedia) (now : Int) : Store :=
  { s with
    media := s.media.map (fun row =>
      if m.parentId = some row.id then { row with hasChildren := true } else row) ++
        [s.nextRow m now]
    lastMediaId := s.lastMediaId + 1 }

variable {m : NewMedia}

theorem mediaRowByHash?_isSome_iff {contentHash : String} :
    (s.mediaRowByHash? contentHash).isSome = true ↔ s.HasContent contentHash := by
  simp [mediaRowByHash?, HasContent, List.find?_isSome]

/-- A parent is accepted just if the check for it finds nothing. -/
theorem acceptsParent_iff {parent : Option Int} :
    s.AcceptsParent parent ↔
      (parent.any fun p => p != s.lastMediaId + 1 && !s.hasMedia p) = false := by
  cases parent with
  | none => simp [AcceptsParent]
  | some p => simp [AcceptsParent, ← hasMedia_iff, or_iff_not_imp_left]

instance (s : Store) (contentHash : String) : Decidable (s.HasContent contentHash) :=
  decidable_of_iff _ mediaRowByHash?_isSome_iff

instance (s : Store) (parent : Option Int) : Decidable (s.AcceptsParent parent) :=
  decidable_of_iff _ acceptsParent_iff.symm

/-- A content that is stored is refused, whatever the parent. -/
theorem insertMedia_known (h : s.HasContent m.contentHash) :
    s.insertMedia m now = .error .duplicateHash := by
  simp only [insertMedia, mediaRowByHash?_isSome_iff.mpr h, ↓reduceIte]

/-- A new content is refused if its parent does not exist. -/
theorem insertMedia_orphan (hNew : ¬s.HasContent m.contentHash)
    (hParent : ¬s.AcceptsParent m.parentId) :
    s.insertMedia m now = .error .missingReference := by
  rw [← mediaRowByHash?_isSome_iff] at hNew
  rw [acceptsParent_iff, Bool.not_eq_false] at hParent
  simp only [insertMedia, hNew, hParent, Bool.false_eq_true, ↓reduceIte]

/-- A new content whose parent may be this one is accepted. -/
theorem insertMedia_new (hNew : ¬s.HasContent m.contentHash)
    (hParent : s.AcceptsParent m.parentId) :
    s.insertMedia m now = .ok (s.lastMediaId + 1, s.withMedia m now) := by
  rw [← mediaRowByHash?_isSome_iff] at hNew
  rw [acceptsParent_iff] at hParent
  have hRow : (if m.parentId = some (s.lastMediaId + 1) then
      { newMediaRow (s.lastMediaId + 1) m now with hasChildren := true }
      else newMediaRow (s.lastMediaId + 1) m now) = s.nextRow m now := by
    by_cases hSelf : m.parentId = some (s.lastMediaId + 1) <;> simp [nextRow, newMediaRow, hSelf]
  simp only [insertMedia, hNew, hParent, Bool.false_eq_true, ↓reduceIte, markParent_eq,
    List.map_append, List.map_cons, List.map_nil, withMedia]
  rw [← hRow]
  rfl

-- ---------------------------------------------------------------------------
-- Media that move
-- ---------------------------------------------------------------------------

/-- The store with a medium that has another parent now, or none. The new parent is marked as one,
and the old one is if another medium names it. Nothing else has changed. -/
def withParent (s : Store) (m : MediaRow) (parent : Option Int) (now : Int) : Store :=
  { s with
    media := s.media.map fun row =>
      { row with
        parentId := if row.id = m.id then parent else row.parentId
        updatedAt := if row.id = m.id then now else row.updatedAt
        hasChildren :=
          if parent = some row.id then true
          else if m.parentId = some row.id then
            s.media.any fun child => child.id != m.id && child.parentId == some row.id
          else row.hasChildren } }

/-- After a medium has moved, its new parent is a parent, and so is whoever another one names. -/
theorem isParent_moved {m : MediaRow} (hm : m ∈ s.media) (parent : Option Int) (now p : Int) :
    ((s.changeMedia m.id fun row => { row with parentId := parent, updatedAt := now }).markParent
        parent).isParent p =
      (parent == some p ||
        s.media.any fun child => child.id != m.id && child.parentId == some p) := by
  have hMark (s : Store) : (s.markParent parent).isParent p = s.isParent p := by
    rw [markParent_eq, isParent, isParent, List.any_map]
    congr 1
    funext row
    simp only [Function.comp_apply]
    split <;> rfl
  rw [hMark, Bool.eq_iff_iff, isParent, changeMedia, Bool.or_eq_true, List.any_map]
  simp only [List.any_eq_true, Function.comp_apply, Bool.and_eq_true, bne_iff_ne, beq_iff_eq]
  constructor
  · rintro ⟨row, hRow, hNames⟩
    by_cases hId : row.id = m.id
    · exact .inl (by simpa [hId] using hNames)
    · exact .inr ⟨row, hRow, hId, by simpa [hId] using hNames⟩
  · rintro (hNew | ⟨child, hChild, hId, hNames⟩)
    · exact ⟨m, hm, by simpa using hNew⟩
    · exact ⟨child, hChild, by simpa [hId] using hNames⟩

/-- Nothing is written to a medium that does not exist. -/
theorem changeMedia_eq_self {id : Int} (hNone : ∀ m ∈ s.media, m.id ≠ id)
    (f : MediaRow → MediaRow) : s.changeMedia id f = s := by
  have hRows : s.media.map (fun row => if row.id == id then f row else row) = s.media := by
    refine (List.map_congr_left fun row hRow => ?_).trans (List.map_id _)
    rw [if_neg (by simpa using hNone row hRow)]
    rfl
  rw [changeMedia, hRows]

/-- A medium that does not exist gets no parent. -/
theorem setParent_eq_self {id : Int} (hNone : ∀ m ∈ s.media, m.id ≠ id) (parent : Option Int) :
    s.setParent id parent now = s := by
  have hRow : s.mediaRow? id = none := List.find?_eq_none.mpr (by simpa using hNone)
  rw [setParent, hRow]

/-- A medium that is given another parent leaves the store with it. -/
theorem Sound.setParent_eq (h : s.Sound) {m : MediaRow} (hm : m ∈ s.media) (parent : Option Int) :
    s.setParent m.id parent now = s.withParent m parent now := by
  rw [setParent, mediaRow?, find?_of_ids h.media_ids hm]
  simp only [refreshParent_eq, isParent_moved hm]
  rw [markParent_eq, changeMedia, withParent]
  simp only [List.map_map]
  congr 1
  apply List.map_congr_left
  intro row hRow
  by_cases hNew : parent = some row.id <;> by_cases hOld : m.parentId = some row.id
  all_goals
    by_cases hId : row.id = m.id
    · obtain rfl : row = m := eq_of_ids h.media_ids hRow hm hId
      simp [hNew, hOld]
    · simp [hId, hNew, hOld]

end Store

end MediaLibrary
