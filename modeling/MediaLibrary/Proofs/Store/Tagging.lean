import Mathlib.Data.List.Forall2
import MediaLibrary.Proofs.Store.Deletion

/-!
# Store — what tagging leaves

A medium is tagged with one name after the other. A name that no stored tag has becomes a
tag, and from then on it is stored like any other: so of names that differ only in case the
first one in the list decides. Attaching changes the medium and the tag by as much as
detaching takes back, all but the time of the change.

* `Store.attach_eq`, `Store.detach_attach` — attaching, and taking it back;
* `Store.AreNew` — the rows of the tags that a list of names adds;
* `Store.Tagged` — a medium of one store carries the tags of a list in another;
* `Store.Tagged.provides` — one more tag of the list is had and attached.
-/

namespace MediaLibrary

/-- The row of a medium, as if it carried nothing and never changed. -/
def MediaRow.untagged (row : MediaRow) : MediaRow :=
  { row with
    tagCount := 0
    tagCountGeneral := 0
    tagCountMetadata := 0
    tagCountArtist := 0
    updatedAt := 0 }

namespace Store

variable {s s₁ s₂ : Store} {mediaId tagId now : Int}

-- ---------------------------------------------------------------------------
-- Attaching
-- ---------------------------------------------------------------------------

/-- What is attached already is not attached again. -/
theorem attach_of_isAttached (h : s.isAttached mediaId tagId = true) :
    s.attach mediaId tagId now = s := by
  rw [attach, if_pos h]

/-- An attachment that comes changes one medium and one tag. -/
theorem attach_eq (h : s.isAttached mediaId tagId = false) :
    s.attach mediaId tagId now = { s with
      media := s.media.map fun row =>
        if row.id == mediaId then recounted (s.category? tagId) 1 now row else row
      tags := s.tags.map fun tag =>
        if tag.id == tagId then { tag with usageCount := tag.usageCount + 1 } else tag
      attachments := s.attachments ++ [⟨mediaId, tagId, now⟩] } := by
  rw [attach, if_neg (by simp [h])]
  rfl

/-- Attaching adds one attachment and takes none away. -/
theorem isAttached_attach {m t : Int} :
    (s.attach mediaId tagId now).isAttached m t = true ↔
      s.isAttached m t = true ∨ (m = mediaId ∧ t = tagId) := by
  by_cases h : s.isAttached mediaId tagId = true
  · rw [attach_of_isAttached h]
    refine ⟨.inl, ?_⟩
    rintro (hAttached | ⟨rfl, rfl⟩)
    · exact hAttached
    · exact h
  · simp [attach_eq (by simpa using h), isAttached, List.any_append, @eq_comm _ m, @eq_comm _ t]

/-- What a counter gains by a tag it loses without it. -/
theorem share_add_share (counted : TagCategory) (category : Option Int) :
    share counted category 1 + share counted category (-1) = 0 := by
  unfold share
  split <;> rfl

/-- A tag that is counted and taken back leaves nothing but the time of the change. -/
theorem recounted_recounted (category : Option Int) (now now' : Int) (row : MediaRow) :
    recounted category (-1) now' (recounted category 1 now row) =
      { row with updatedAt := now' } := by
  simp [recounted, Int.add_assoc, share_add_share]

/-- A row that is changed twice is changed by both, one after the other. -/
theorem map_change_change {α : Type} (id : α → Int) {f : α → α} (hf : ∀ a, id (f a) = id a)
    (g : α → α) (k : Int) (rows : List α) :
    (rows.map fun a => if id a == k then f a else a).map (fun a => if id a == k then g a else a) =
      rows.map fun a => if id a == k then g (f a) else a := by
  rw [List.map_map]
  apply List.map_congr_left
  intro a _
  by_cases hId : id a = k
  · simp [hId, hf]
  · simp [hId]

/-- Detaching takes back what attaching has done, but for the time of the change. -/
theorem detach_attach (h : s.isAttached mediaId tagId = false) (now now' : Int) :
    (s.attach mediaId tagId now).detach mediaId tagId now' =
      s.changeMedia mediaId fun row => { row with updatedAt := now' } := by
  have hAttached : (s.attach mediaId tagId now).isAttached mediaId tagId = true :=
    isAttached_attach.mpr (.inr ⟨rfl, rfl⟩)
  have hCategory : (s.attach mediaId tagId now).category? = s.category? :=
    category?_of_outline (congrArg Outline.tags (s.outline_attach ..))
  have hMedia := map_change_change (fun row : MediaRow => row.id)
    (f := recounted (s.category? tagId) 1 now) (fun _ => rfl)
    (recounted (s.category? tagId) (-1) now') mediaId s.media
  have hTags := map_change_change (fun tag : TagRow => tag.id)
    (f := fun tag => { tag with usageCount := tag.usageCount + 1 }) (fun _ => rfl)
    (fun tag => { tag with usageCount := tag.usageCount + -1 }) tagId s.tags
  have hKept : s.attachments.filter (fun a => !(a.mediaId == mediaId && a.tagId == tagId)) =
      s.attachments := by
    rw [List.filter_eq_self]
    intro a ha
    rw [Bool.not_eq_true', Bool.eq_false_iff]
    exact List.any_eq_false.mp h a ha
  simp only [recounted_recounted] at hMedia
  simp only [Int.add_neg_cancel_right, ite_self, List.map_id'] at hTags
  rw [detach_eq hAttached, hCategory, attach_eq h, changeMedia]
  simp only [hMedia, hTags, List.filter_append, hKept]
  simp

-- ---------------------------------------------------------------------------
-- Tags that are new
-- ---------------------------------------------------------------------------

/-- Some row of a tag has what is this name to the store. -/
def HasName (rows : List TagRow) (name : String) : Prop :=
  ∃ row ∈ rows, Text.OneName row.name name

theorem hasName_append {rows rows' : List TagRow} {name : String} :
    HasName (rows ++ rows') name ↔ HasName rows name ∨ HasName rows' name := by
  simp [HasName, or_and_right, exists_or]

/-- Use counts do not matter to names. -/
theorem hasName_unused {rows : List TagRow} {name : String} :
    HasName (rows.map TagRow.unused) name ↔ HasName rows name := by
  simp [HasName, TagRow.unused]

/-- Names that are one to the store are had by the same rows. -/
theorem hasName_congr {rows : List TagRow} {name name' : String}
    (h : Text.OneName name name') : HasName rows name ↔ HasName rows name' := by
  have hEach (row : TagRow) : Text.OneName row.name name ↔ Text.OneName row.name name' :=
    ⟨fun hSame => hSame.trans h, fun hSame => hSame.trans h.symm⟩
  simp only [HasName, hEach]

/-- These are the rows that a list of tags adds to the tags of a store: one for each name that no
stored tag has, and it is as the first tag of the list with this name has it. -/
structure AreNew (s : Store) (tags : List NewTag) (now : Int) (new : List TagRow) : Prop where
  distinct : new.Pairwise fun a b => ¬Text.OneName a.name b.name
  hasName_iff : ∀ name, HasName new name ↔
    (∃ tag ∈ tags, Text.OneName (Text.trim tag.name) name) ∧ ¬HasName s.tags name
  first : ∀ row ∈ new, ∃ tag,
    tags.find? (fun tag => Text.OneName (Text.trim tag.name) row.name) = some tag ∧
      row = ⟨row.id, Text.trim tag.name, tag.category.code, 0, now⟩

theorem areNew_nil (s : Store) (now : Int) : s.AreNew [] now [] := by
  constructor <;> simp [HasName]

variable {done : List NewTag} {new : List TagRow} {tag : NewTag}

/-- A tag whose name is known by now adds nothing. -/
theorem AreNew.known (h : s.AreNew done now new)
    (hKnown : HasName s.tags (Text.trim tag.name) ∨ HasName new (Text.trim tag.name)) :
    s.AreNew (done ++ [tag]) now new where
  distinct := h.distinct
  hasName_iff := by
    intro name
    constructor
    · intro hName
      obtain ⟨⟨tag', hTag', hSame⟩, hNot⟩ := (h.hasName_iff name).mp hName
      exact ⟨⟨tag', List.mem_append_left _ hTag', hSame⟩, hNot⟩
    · rintro ⟨⟨tag', hTag', hSame⟩, hNot⟩
      rcases List.mem_append.mp hTag' with hTag' | hTag'
      · exact (h.hasName_iff name).mpr ⟨⟨tag', hTag', hSame⟩, hNot⟩
      · obtain rfl := List.mem_singleton.mp hTag'
        rcases hKnown with hStored | hNew
        · exact absurd ((hasName_congr hSame).mp hStored) hNot
        · exact (hasName_congr hSame).mp hNew
  first := by
    intro row hRow
    obtain ⟨tag', hFirst, hIs⟩ := h.first row hRow
    exact ⟨tag', by rw [List.find?_append, hFirst, Option.some_or], hIs⟩

/-- A tag whose name is not known yet adds the row that it becomes. -/
theorem AreNew.unknown (h : s.AreNew done now new) (hStored : ¬HasName s.tags (Text.trim tag.name))
    (hNew : ¬HasName new (Text.trim tag.name)) (id : Int) :
    s.AreNew (done ++ [tag]) now
      (new ++ [⟨id, Text.trim tag.name, tag.category.code, 0, now⟩]) where
  distinct := by
    refine List.pairwise_append.mpr ⟨h.distinct, List.pairwise_singleton _ _, ?_⟩
    intro row hRow row' hRow' hSame
    obtain rfl := List.mem_singleton.mp hRow'
    exact hNew ⟨row, hRow, hSame⟩
  hasName_iff := by
    intro name
    have hOne : HasName [⟨id, Text.trim tag.name, tag.category.code, 0, now⟩] name ↔
        Text.OneName (Text.trim tag.name) name := by
      simp [HasName]
    rw [hasName_append, h.hasName_iff, hOne]
    constructor
    · rintro (⟨⟨tag', hTag', hSame⟩, hNot⟩ | hSame)
      · exact ⟨⟨tag', List.mem_append_left _ hTag', hSame⟩, hNot⟩
      · exact ⟨⟨tag, List.mem_append_right _ (List.mem_singleton_self _), hSame⟩,
          fun hName => hStored ((hasName_congr hSame).mpr hName)⟩
    · rintro ⟨⟨tag', hTag', hSame⟩, hNot⟩
      rcases List.mem_append.mp hTag' with hTag' | hTag'
      · exact .inl ⟨⟨tag', hTag', hSame⟩, hNot⟩
      · obtain rfl := List.mem_singleton.mp hTag'
        exact .inr hSame
  first := by
    intro row hRow
    rcases List.mem_append.mp hRow with hRow | hRow
    · obtain ⟨tag', hFirst, hIs⟩ := h.first row hRow
      exact ⟨tag', by rw [List.find?_append, hFirst, Option.some_or], hIs⟩
    · -- a tag before this one with its name would have added a row
      obtain rfl := List.mem_singleton.mp hRow
      refine ⟨tag, ?_, rfl⟩
      have hNone : done.find? (fun tag' =>
          Text.OneName (Text.trim tag'.name) (Text.trim tag.name)) = none := by
        rw [List.find?_eq_none]
        intro tag' hTag' hSame
        exact hNew ((h.hasName_iff _).mpr ⟨⟨tag', hTag', of_decide_eq_true hSame⟩, hStored⟩)
      rw [List.find?_append, hNone, Option.none_or]
      simp [Text.OneName.refl]

-- ---------------------------------------------------------------------------
-- Tagging
-- ---------------------------------------------------------------------------

/-- The tag is stored, whatever it is used for by now. -/
def Stores (s : Store) (tag : Tag) : Prop :=
  ∃ row ∈ s.tags, row.id = tag.id ∧ row.name = tag.name ∧ row.category = tag.category.code

/-- Whether a tag is stored can be told without its number of media. -/
theorem stores_iff {tag : Tag} : s.Stores tag ↔ ∃ row ∈ s.tags.map TagRow.unused,
    row.id = tag.id ∧ row.name = tag.name ∧ row.category = tag.category.code := by
  simp [Stores, TagRow.unused]

/-- All that has nothing to do with tags is the same in both stores. -/
structure SameBeside (s s' : Store) : Prop where
  views : s'.views = s.views
  versions : s'.versions = s.versions
  hasTagIndex : s'.hasTagIndex = s.hasTagIndex
  lastMediaId : s'.lastMediaId = s.lastMediaId
  lastViewId : s'.lastViewId = s.lastViewId

theorem SameBeside.trans (h : s.SameBeside s₁) (h' : s₁.SameBeside s₂) : s.SameBeside s₂ where
  views := h'.views.trans h.views
  versions := h'.versions.trans h.versions
  hasTagIndex := h'.hasTagIndex.trans h.hasTagIndex
  lastMediaId := h'.lastMediaId.trans h.lastMediaId
  lastViewId := h'.lastViewId.trans h.lastViewId

/-- A tag that is attached changes its medium and itself, and nothing beside. -/
theorem sameBeside_attach : s.SameBeside (s.attach mediaId tagId now) := by
  unfold attach
  split <;> constructor <;> rfl

/-- Having a tag changes nothing beside the tags. -/
theorem Provides.sameBeside {id : Int} (h : s₁.Provides tag now id s₂) : s₁.SameBeside s₂ := by
  rcases h with ⟨rfl, -⟩ | hOk
  · constructor <;> rfl
  · obtain ⟨-, -, rfl⟩ := insertTag_ok hOk
    constructor <;> rfl

/-- From one store to the other a medium was tagged with a list of tags, which were found or
created. -/
structure Tagged (s : Store) (mediaId now : Int) (tags : List NewTag) (found : List Tag)
    (s' : Store) : Prop where
  /-- For each tag of the list one was had, with its name. -/
  named : List.Forall₂ (fun tag had => Text.OneName had.name (Text.trim tag.name))
    tags found
  /-- What was had is stored. -/
  stored : ∀ had ∈ found, s'.Stores had
  /-- The medium carries what it carried before, and what was had. -/
  carried : ∀ tagId, s'.isAttached mediaId tagId = true ↔
    s.isAttached mediaId tagId = true ∨ ∃ had ∈ found, had.id = tagId
  /-- Tags stay as they were, use counts aside, and those that are new follow them. -/
  created : ∃ new, s'.tags.map TagRow.unused = s.tags.map TagRow.unused ++ new ∧
    s.AreNew tags now new
  /-- Attachments stay, and those that follow them are of the medium. -/
  attachments : ∃ more, s'.attachments = s.attachments ++ more ∧ ∀ a ∈ more, a.mediaId = mediaId
  /-- No other medium has changed. -/
  others : s'.media.filter (·.id != mediaId) = s.media.filter (·.id != mediaId)
  /-- The medium has changed in nothing but its counters and the time of the change. -/
  untagged : s'.media.map MediaRow.untagged = s.media.map MediaRow.untagged
  beside : s.SameBeside s'

theorem tagged_nil (s : Store) (mediaId now : Int) : s.Tagged mediaId now [] [] s where
  named := .nil
  stored := by simp
  carried := by simp
  created := ⟨[], by simp, areNew_nil s now⟩
  attachments := ⟨[], by simp⟩
  others := rfl
  untagged := rfl
  beside := ⟨rfl, rfl, rfl, rfl, rfl⟩

variable {found : List Tag} {row : TagRow}

/-- Having one more tag adds a row if its name is not known by now. -/
theorem Provides.created {id : Int}
    (hTags : s₁.tags.map TagRow.unused = s.tags.map TagRow.unused ++ new)
    (hNew : s.AreNew done now new)
    (hHad : s₁.Provides { tag with name := Text.trim tag.name } now id s₂) :
    ∃ new', s₂.tags.map TagRow.unused = s.tags.map TagRow.unused ++ new' ∧
      s.AreNew (done ++ [tag]) now new' := by
  have hKnown : HasName s₁.tags (Text.trim tag.name) ↔
      HasName s.tags (Text.trim tag.name) ∨ HasName new (Text.trim tag.name) := by
    rw [← hasName_unused, hTags, hasName_append, hasName_unused]
  rcases hHad with ⟨rfl, row, hRow, -⟩ | hOk
  · have hSame := List.find?_some hRow
    have hName : HasName s₂.tags (Text.trim tag.name) :=
      ⟨row, List.mem_of_find?_eq_some hRow, Text.sameName_iff.mp hSame⟩
    exact ⟨new, hTags, hNew.known (hKnown.mp hName)⟩
  · obtain ⟨-, hNone, rfl⟩ := insertTag_ok hOk
    have hUnknown : ¬HasName s₁.tags (Text.trim tag.name) := by
      rintro ⟨row, hRow, hSame⟩
      exact hNone row hRow hSame
    rw [hKnown, not_or] at hUnknown
    refine ⟨_, ?_, hNew.unknown hUnknown.1 hUnknown.2 id⟩
    rw [List.map_append, hTags, List.append_assoc]
    rfl

/-- Nothing but counters and times changes in a medium that is tagged, -/
theorem untagged_attach : (s.attach mediaId tagId now).media.map MediaRow.untagged =
    s.media.map MediaRow.untagged := by
  by_cases h : s.isAttached mediaId tagId = true
  · rw [attach_of_isAttached h]
  · rw [attach_eq (by simpa using h)]
    exact s.map_changeMedia MediaRow.untagged mediaId (f := recounted _ 1 now) fun _ => rfl

/-- A change of one medium leaves the others alone. -/
theorem filter_changeMedia {f : MediaRow → MediaRow} (hf : ∀ row, (f row).id = row.id) :
    (s.changeMedia mediaId f).media.filter (·.id != mediaId) =
      s.media.filter (·.id != mediaId) := by
  have hId (row : MediaRow) : (if row.id == mediaId then f row else row).id = row.id := by
    split
    · exact hf row
    · rfl
  rw [changeMedia, List.filter_map]
  simp only [Function.comp_def, hId]
  refine (List.map_congr_left fun row hRow => ?_).trans (List.map_id _)
  have hNe : row.id ≠ mediaId := by simpa using (List.mem_filter.mp hRow).2
  simp [hNe]

/-- and nothing at all in the others. -/
theorem filter_attach : (s.attach mediaId tagId now).media.filter (·.id != mediaId) =
    s.media.filter (·.id != mediaId) := by
  by_cases h : s.isAttached mediaId tagId = true
  · rw [attach_of_isAttached h]
  · rw [attach_eq (by simpa using h)]
    exact s.filter_changeMedia (f := recounted _ 1 now) fun _ => rfl

/-- A medium that is tagged with one more tag was tagged with all of them. -/
theorem Tagged.provides (h : s.Tagged mediaId now done found s₁)
    (hHad : s₁.Provides { tag with name := Text.trim tag.name } now row.id s₂)
    (hRow : row ∈ s₂.tags) (hCategory : row.category = row.read.category.code)
    (hName : Text.OneName row.name (Text.trim tag.name)) :
    s.Tagged mediaId now (done ++ [tag]) (found ++ [row.read]) (s₂.attach mediaId row.id now) := by
  obtain ⟨hMedia, hAttachments, hTags, -⟩ := hHad.exists_row
  have hUnused : (s₂.attach mediaId row.id now).tags.map TagRow.unused =
      s₂.tags.map TagRow.unused :=
    congrArg Outline.tags (s₂.outline_attach mediaId row.id now)
  refine ⟨?_, ?_, ?_, ?_, ?_, ?_, ?_, ?_⟩
  · exact List.rel_append h.named (.cons hName .nil)
  · intro had hFound
    rw [stores_iff, hUnused, ← stores_iff]
    rcases List.mem_append.mp hFound with hFound | hFound
    · obtain ⟨row', hRow', hIs⟩ := h.stored had hFound
      exact ⟨row', hTags row' hRow', hIs⟩
    · obtain rfl := List.mem_singleton.mp hFound
      exact ⟨row, hRow, rfl, rfl, hCategory⟩
  · intro tagId
    have hBefore : s₂.isAttached mediaId tagId = s₁.isAttached mediaId tagId := by
      rw [isAttached, hAttachments, isAttached]
    rw [isAttached_attach, hBefore, h.carried tagId]
    simp [or_assoc, or_and_right, exists_or, @eq_comm _ tagId]
  · obtain ⟨new, hNew, hAre⟩ := h.created
    rw [hUnused]
    exact hHad.created hNew hAre
  · obtain ⟨more, hMore, hOwn⟩ := h.attachments
    rw [attachments_attach, hAttachments, hMore]
    split
    · exact ⟨more, rfl, hOwn⟩
    · refine ⟨_, List.append_assoc .., fun a ha => ?_⟩
      rcases List.mem_append.mp ha with ha | ha
      · exact hOwn a ha
      · rw [List.mem_singleton.mp ha]
  · rw [filter_attach, hMedia, h.others]
  · rw [untagged_attach, hMedia, h.untagged]
  · exact (h.beside.trans hHad.sameBeside).trans sameBeside_attach

/-- The names of the list are known by now, and the medium carries them. -/
theorem Tagged.known {tags : List NewTag} (h : s.Tagged mediaId now tags found s₁)
    (hTag : tag ∈ tags) : ∃ row ∈ s₁.tags, s₁.isAttached mediaId row.id = true ∧
      Text.OneName row.name (Text.trim tag.name) := by
  obtain ⟨had, hHad, hNamed⟩ : ∃ had ∈ found,
      Text.OneName had.name (Text.trim tag.name) := by
    obtain ⟨i, hi, rfl⟩ := List.mem_iff_getElem.mp hTag
    have hLength := h.named.length_eq
    exact ⟨found[i], List.getElem_mem _, h.named.get hi (by omega)⟩
  obtain ⟨row, hRow, hId, hName, -⟩ := h.stored had hHad
  exact ⟨row, hRow, (h.carried row.id).mpr (.inr ⟨had, hHad, hId.symm⟩), hName ▸ hNamed⟩

/-- A tag is found by what is its name to the store. -/
theorem Sound.tagRowByName?_of_mem (h : s.Sound) (hRow : row ∈ s.tags) {name : String}
    (hName : Text.OneName row.name name) : s.tagRowByName? name = some row := by
  refine find?_of_unique hRow (Text.sameName_iff.mpr hName) fun other hOther hFound => ?_
  have hSame : Text.OneName other.name name := Text.sameName_iff.mp hFound
  exact h.eq_of_names hOther hRow (hSame.trans hName.symm)

end Store

end MediaLibrary
