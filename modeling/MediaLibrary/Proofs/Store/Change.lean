import MediaLibrary.Database.Tables
import MediaLibrary.Proofs.Store.Outline
import MediaLibrary.Proofs.Text.Collation
import MediaLibrary.Text.Blank

/-!
# Store — changes and the constraints they keep

Whatever an operation does to a store, it does by single changes: a row comes or
goes, a tag is attached or detached, a column is set. `Store.Change` lists them with
the checks that operations make before them. The tables' constraints, `Store.Sound`,
hold of new tables and are kept by every change:

* `Store.sound_fresh` — new tables are sound;
* `Store.Change.sound` — a change keeps a store sound.
-/

namespace MediaLibrary

-- ---------------------------------------------------------------------------
-- Constraints
-- ---------------------------------------------------------------------------

/-- Ids ascend and are not above the last one given; contents and names are distinct; kinds,
ratings and categories stand for something. -/
structure Outline.Valid (o : Outline) : Prop where
  mediaIds : o.media.Pairwise (·.id < ·.id)
  mediaBound : ∀ m ∈ o.media, m.id ≤ o.lastMediaId
  hashes : o.media.Pairwise (·.contentHash ≠ ·.contentHash)
  words : ∀ m ∈ o.media, (∃ kind : MediaKind, m.kind = kind.name) ∧
    ∃ rating : Rating, m.rating = rating.name
  tagIds : o.tags.Pairwise (·.id < ·.id)
  tagBound : ∀ tag ∈ o.tags, tag.id ≤ o.lastTagId
  names : o.tags.Pairwise fun a b => ¬Text.OneName a.name b.name
  categories : ∀ tag ∈ o.tags, ∃ category : TagCategory, tag.category = category.code

/-- A medium carries a tag at most once. -/
def Store.AttachedOnce (s : Store) : Prop :=
  s.attachments.Pairwise fun a b => ¬(a.mediaId = b.mediaId ∧ a.tagId = b.tagId)

/-- The constraints of the tables: their rows are valid, and a medium carries a tag once, where
both exist. -/
structure Store.Sound (s : Store) : Prop where
  outline : s.outline.Valid
  once : s.AttachedOnce
  attachedMedia : ∀ a ∈ s.attachments, ∃ m ∈ s.outline.media, m.id = a.mediaId
  attachedTag : ∀ a ∈ s.attachments, ∃ tag ∈ s.outline.tags, tag.id = a.tagId

namespace Outline.Valid

variable {o : Outline}

/-- A medium with the next id and a content of its own keeps the outline valid. -/
theorem addMedia (h : o.Valid) {m : MediaCore} (hId : m.id = o.lastMediaId + 1)
    (hHash : ∀ m' ∈ o.media, m'.contentHash ≠ m.contentHash)
    (hWords : (∃ kind : MediaKind, m.kind = kind.name) ∧
      ∃ rating : Rating, m.rating = rating.name) :
    Valid { o with media := o.media ++ [m], lastMediaId := m.id } where
  mediaIds := by
    refine List.pairwise_append.mpr ⟨h.mediaIds, List.pairwise_singleton _ _, ?_⟩
    intro m' hm' x hx
    obtain rfl := List.mem_singleton.mp hx
    have := h.mediaBound m' hm'
    omega
  mediaBound := by
    intro m' hm'
    rcases List.mem_append.mp hm' with hm' | hm'
    · have := h.mediaBound m' hm'
      show m'.id ≤ m.id
      omega
    · obtain rfl := List.mem_singleton.mp hm'
      exact Int.le_refl _
  hashes := by
    refine List.pairwise_append.mpr ⟨h.hashes, List.pairwise_singleton _ _, ?_⟩
    intro m' hm' x hx
    obtain rfl := List.mem_singleton.mp hx
    exact hHash m' hm'
  words := by
    intro m' hm'
    rcases List.mem_append.mp hm' with hm' | hm'
    · exact h.words m' hm'
    · obtain rfl := List.mem_singleton.mp hm'
      exact hWords
  tagIds := h.tagIds
  tagBound := h.tagBound
  names := h.names
  categories := h.categories

/-- Media may always be taken out. -/
theorem filterMedia (h : o.Valid) (keep : MediaCore → Bool) :
    Valid { o with media := o.media.filter keep } :=
  { h with
    mediaIds := h.mediaIds.filter keep
    mediaBound := fun m hm => h.mediaBound m (List.mem_filter.mp hm).1
    hashes := h.hashes.filter keep
    words := fun m hm => h.words m (List.mem_filter.mp hm).1 }

/-- A rating that stands for something may be given to any medium. -/
theorem rateMedia (h : o.Valid) (id : Int) (rating : Rating) :
    Valid { o with
      media := o.media.map fun m =>
        if m.id == id then { m with rating := rating.name } else m } := by
  have hSame : ∀ m : MediaCore,
      (if m.id == id then { m with rating := rating.name } else m).id = m.id ∧
      (if m.id == id then { m with rating := rating.name } else m).contentHash = m.contentHash := by
    intro m
    split <;> exact ⟨rfl, rfl⟩
  refine { h with mediaIds := ?_, mediaBound := ?_, hashes := ?_, words := ?_ }
  · rw [List.pairwise_map]
    simpa only [hSame] using h.mediaIds
  · intro m hm
    obtain ⟨m₀, hm₀, rfl⟩ := List.mem_map.mp hm
    rw [(hSame m₀).1]
    exact h.mediaBound m₀ hm₀
  · rw [List.pairwise_map]
    simpa only [hSame] using h.hashes
  · intro m hm
    obtain ⟨m₀, hm₀, rfl⟩ := List.mem_map.mp hm
    split
    · exact ⟨(h.words m₀ hm₀).1, rating, rfl⟩
    · exact h.words m₀ hm₀

/-- A tag with the next id and a name of its own keeps the outline valid. -/
theorem addTag (h : o.Valid) {tag : TagRow} (hId : tag.id = o.lastTagId + 1)
    (hName : ∀ tag' ∈ o.tags, ¬Text.OneName tag'.name tag.name)
    (hCategory : ∃ category : TagCategory, tag.category = category.code) :
    Valid { o with tags := o.tags ++ [tag], lastTagId := tag.id } where
  mediaIds := h.mediaIds
  mediaBound := h.mediaBound
  hashes := h.hashes
  words := h.words
  tagIds := by
    refine List.pairwise_append.mpr ⟨h.tagIds, List.pairwise_singleton _ _, ?_⟩
    intro tag' hTag' x hx
    obtain rfl := List.mem_singleton.mp hx
    have := h.tagBound tag' hTag'
    omega
  tagBound := by
    intro tag' hTag'
    rcases List.mem_append.mp hTag' with hTag' | hTag'
    · have := h.tagBound tag' hTag'
      show tag'.id ≤ tag.id
      omega
    · obtain rfl := List.mem_singleton.mp hTag'
      exact Int.le_refl _
  names := by
    refine List.pairwise_append.mpr ⟨h.names, List.pairwise_singleton _ _, ?_⟩
    intro tag' hTag' x hx
    obtain rfl := List.mem_singleton.mp hx
    exact hName tag' hTag'
  categories := by
    intro tag' hTag'
    rcases List.mem_append.mp hTag' with hTag' | hTag'
    · exact h.categories tag' hTag'
    · obtain rfl := List.mem_singleton.mp hTag'
      exact hCategory

/-- Tags may always be taken out. -/
theorem filterTags (h : o.Valid) (keep : TagRow → Bool) :
    Valid { o with tags := o.tags.filter keep } :=
  { h with
    tagIds := h.tagIds.filter keep
    tagBound := fun tag hTag => h.tagBound tag (List.mem_filter.mp hTag).1
    names := h.names.filter keep
    categories := fun tag hTag => h.categories tag (List.mem_filter.mp hTag).1 }

end Outline.Valid

namespace Store

-- ---------------------------------------------------------------------------
-- Insertions
-- ---------------------------------------------------------------------------

variable {s s' : Store} {id now : Int}

/-- What an insertion of a medium that the store accepts has done. -/
theorem insertMedia_ok {m : NewMedia} (h : s.insertMedia m now = .ok (id, s')) :
    id = s.lastMediaId + 1 ∧ (∀ row ∈ s.media, row.contentHash ≠ m.contentHash) ∧
      s' = Store.markParent { s with
        media := s.media ++ [newMediaRow id m now], lastMediaId := id } m.parentId := by
  simp only [insertMedia] at h
  split at h
  · cases h
  · rename_i hHash
    split at h
    · cases h
    · cases h
      refine ⟨rfl, ?_, rfl⟩
      intro row hRow hEq
      apply hHash
      rw [mediaRowByHash?, List.find?_isSome]
      exact ⟨row, hRow, by simp [hEq]⟩

/-- What an insertion of a tag that the store accepts has done. -/
theorem insertTag_ok {tag : NewTag} (h : s.insertTag tag now = .ok (id, s')) :
    id = s.lastTagId + 1 ∧ (∀ row ∈ s.tags, ¬Text.OneName row.name tag.name) ∧
      s' = { s with
        tags := s.tags ++ [⟨id, tag.name, tag.category.code, 0, now⟩], lastTagId := id } := by
  simp only [insertTag] at h
  split at h
  · cases h
  · rename_i hName
    cases h
    refine ⟨rfl, ?_, rfl⟩
    intro row hRow hEq
    apply hName
    rw [tagRowByName?, List.find?_isSome]
    exact ⟨row, hRow, Text.sameName_iff.mpr hEq⟩

/-- A tag with a name is had by its id: it is in the table, or it is inserted. -/
def Provides (s : Store) (tag : NewTag) (now id : Int) (s' : Store) : Prop :=
  (s' = s ∧ ∃ row ∈ s.tagRowByName? tag.name, row.id = id) ∨ s.insertTag tag now = .ok (id, s')

/-- The tag that is had has its name, as far as the store can tell. Nothing else has changed. -/
theorem Provides.exists_row {tag : NewTag} (h : s.Provides tag now id s') :
    s'.media = s.media ∧ s'.attachments = s.attachments ∧ (∀ row ∈ s.tags, row ∈ s'.tags) ∧
      ∃ row ∈ s'.tags, row.id = id ∧ Text.OneName row.name tag.name := by
  rcases h with ⟨rfl, row, hRow, hId⟩ | hOk
  · have hName := List.find?_some hRow
    exact ⟨rfl, rfl, fun _ h => h, row, List.mem_of_find?_eq_some hRow, hId,
      Text.sameName_iff.mp hName⟩
  · obtain ⟨-, -, rfl⟩ := insertTag_ok hOk
    exact ⟨rfl, rfl, fun _ h => List.mem_append_left _ h, _,
      List.mem_append_right _ (List.mem_singleton_self _), rfl, .refl _⟩

-- ---------------------------------------------------------------------------
-- Soundness
-- ---------------------------------------------------------------------------

/-- The new store is sound. -/
theorem sound_fresh (now : Int) : (Store.fresh now).Sound where
  outline := by constructor <;> simp [Store.fresh, outline]
  once := List.Pairwise.nil
  attachedMedia := by simp [Store.fresh]
  attachedTag := by simp [Store.fresh]

/-- What is attached once is so without some of it. -/
theorem AttachedOnce.detach (h : s.AttachedOnce) (mediaId tagId now : Int) :
    (s.detach mediaId tagId now).AttachedOnce := by
  rw [AttachedOnce, attachments_detach]
  exact h.filter _

/-- Deleting a medium takes its attachments along. -/
theorem attachments_deleteMedia (h : s.Sound) (id now : Int) :
    (s.deleteMedia id now).attachments = s.attachments.filter (·.mediaId != id) := by
  unfold deleteMedia
  split
  · rename_i hNone
    symm
    rw [List.filter_eq_self]
    intro a ha
    obtain ⟨m, hm, hId⟩ := h.attachedMedia a ha
    obtain ⟨row, hRow, rfl⟩ := List.mem_map.mp hm
    rw [← hId]
    simpa [bne] using List.find?_eq_none.mp hNone row hRow
  · rw [(quiet_refreshParent _ _).attachments, (quiet_orphan _ id).attachments]
    exact attachments_detachAll _ now fun a b hMedia _ => by simp [hMedia]

namespace Sound

/-- The rows of media stand in the order of their ids. -/
theorem media_ids (h : s.Sound) : s.media.Pairwise (·.id < ·.id) := by
  have hIds := h.outline.mediaIds
  simpa [Store.outline, List.pairwise_map] using hIds

theorem tags_ids (h : s.Sound) : s.tags.Pairwise (·.id < ·.id) := by
  have hIds := h.outline.tagIds
  simpa [Store.outline, List.pairwise_map] using hIds

/-- No two tags have what is one name to the store. -/
theorem tags_names (h : s.Sound) :
    s.tags.Pairwise fun a b => ¬Text.OneName a.name b.name := by
  have hNames := h.outline.names
  rw [Store.outline, List.pairwise_map] at hNames
  exact hNames

/-- A quiet change keeps a store sound, -/
theorem quiet (h : s.Sound) (hQuiet : s.Quiet s') : s'.Sound where
  outline := hQuiet.outline ▸ h.outline
  once := by
    rw [AttachedOnce, hQuiet.attachments]
    exact h.once
  attachedMedia := by
    rw [hQuiet.attachments, hQuiet.outline]
    exact h.attachedMedia
  attachedTag := by
    rw [hQuiet.attachments, hQuiet.outline]
    exact h.attachedTag

/-- a new medium does if the store accepts it, -/
theorem insertMedia (h : s.Sound) {m : NewMedia} (hOk : s.insertMedia m now = .ok (id, s')) :
    s'.Sound := by
  obtain ⟨hId, hHash, rfl⟩ := insertMedia_ok hOk
  refine quiet ?_ (quiet_markParent _ _)
  refine ⟨?_, h.once, ?_, h.attachedTag⟩
  · rw [outline_appendMedia]
    refine h.outline.addMedia hId ?_ ⟨⟨m.kind, rfl⟩, m.rating, rfl⟩
    intro m' hm'
    obtain ⟨row, hRow, rfl⟩ := List.mem_map.mp hm'
    exact hHash row hRow
  · rw [outline_appendMedia]
    intro a ha
    obtain ⟨m', hm', hEq⟩ := h.attachedMedia a ha
    exact ⟨m', List.mem_append_left _ hm', hEq⟩

/-- a deletion does, -/
theorem deleteMedia (h : s.Sound) (id now : Int) : (s.deleteMedia id now).Sound := by
  refine ⟨?_, ?_, ?_, ?_⟩
  · rw [outline_deleteMedia]
    exact h.outline.filterMedia _
  · rw [AttachedOnce, attachments_deleteMedia h]
    exact h.once.filter _
  · rw [attachments_deleteMedia h, outline_deleteMedia]
    intro a ha
    rw [List.mem_filter] at ha
    obtain ⟨m, hm, hEq⟩ := h.attachedMedia a ha.1
    exact ⟨m, List.mem_filter.mpr ⟨hm, by rw [hEq]; exact ha.2⟩, hEq⟩
  · rw [attachments_deleteMedia h, outline_deleteMedia]
    exact fun a ha => h.attachedTag a (List.mem_filter.mp ha).1

/-- a rating does, -/
theorem setRating (h : s.Sound) (id : Int) (rating : Rating) (now : Int) :
    (s.setRating id rating now).Sound := by
  refine ⟨?_, h.once, ?_, h.attachedTag⟩
  · rw [outline_setRating]
    exact h.outline.rateMedia id rating
  · intro a ha
    obtain ⟨m, hm, hEq⟩ := h.attachedMedia a ha
    rw [outline_setRating]
    refine ⟨_, List.mem_map_of_mem hm, ?_⟩
    split <;> exact hEq

/-- a new tag does if the store accepts it, -/
theorem insertTag (h : s.Sound) {tag : NewTag} (hOk : s.insertTag tag now = .ok (id, s')) :
    s'.Sound := by
  obtain ⟨hId, hName, rfl⟩ := insertTag_ok hOk
  refine ⟨?_, h.once, h.attachedMedia, ?_⟩
  · rw [outline_appendTag]
    refine h.outline.addTag hId ?_ ⟨tag.category, rfl⟩
    intro tag' hTag'
    obtain ⟨row, hRow, rfl⟩ := List.mem_map.mp hTag'
    exact hName row hRow
  · rw [outline_appendTag]
    intro a ha
    obtain ⟨tag', hTag', hEq⟩ := h.attachedTag a ha
    exact ⟨tag', List.mem_append_left _ hTag', hEq⟩

/-- and the deletion of a tag does. -/
theorem deleteTag (h : s.Sound) (id now : Int) : (s.deleteTag id now).Sound := by
  refine ⟨?_, ?_, ?_, ?_⟩
  · rw [outline_deleteTag]
    exact h.outline.filterTags _
  · rw [AttachedOnce, attachments_deleteTag]
    exact h.once.filter _
  · rw [attachments_deleteTag, outline_deleteTag]
    exact fun a ha => h.attachedMedia a (List.mem_filter.mp ha).1
  · rw [attachments_deleteTag, outline_deleteTag]
    intro a ha
    rw [List.mem_filter] at ha
    obtain ⟨tag, hTag, hEq⟩ := h.attachedTag a ha.1
    exact ⟨tag, List.mem_filter.mpr ⟨hTag, by rw [hEq]; exact ha.2⟩, hEq⟩

/-- Only what exists may be attached, and only to what exists. -/
theorem attach (h : s.Sound) {mediaId tagId : Int} (now : Int)
    (hMedia : ∃ m ∈ s.outline.media, m.id = mediaId)
    (hTag : ∃ tag ∈ s.outline.tags, tag.id = tagId) : (s.attach mediaId tagId now).Sound := by
  by_cases hAttached : s.isAttached mediaId tagId = true
  · have : s.attach mediaId tagId now = s := by rw [Store.attach, if_pos hAttached]
    rwa [this]
  · have hAttachments : (s.attach mediaId tagId now).attachments =
        s.attachments ++ [⟨mediaId, tagId, now⟩] := by
      rw [attachments_attach, if_neg hAttached]
    refine ⟨?_, ?_, ?_, ?_⟩
    · rw [outline_attach]
      exact h.outline
    · rw [AttachedOnce, hAttachments]
      refine List.pairwise_append.mpr ⟨h.once, List.pairwise_singleton _ _, ?_⟩
      intro a ha x hx
      obtain rfl := List.mem_singleton.mp hx
      simp only [isAttached, List.any_eq_true, not_exists, not_and, Bool.and_eq_true,
        beq_iff_eq] at hAttached
      rintro ⟨hm, ht⟩
      exact hAttached a ha hm ht
    · rw [hAttachments, outline_attach]
      intro a ha
      rcases List.mem_append.mp ha with ha | ha
      · exact h.attachedMedia a ha
      · obtain rfl := List.mem_singleton.mp ha
        exact hMedia
    · rw [hAttachments, outline_attach]
      intro a ha
      rcases List.mem_append.mp ha with ha | ha
      · exact h.attachedTag a ha
      · obtain rfl := List.mem_singleton.mp ha
        exact hTag

/-- Detaching keeps a store sound, whatever it takes away. -/
theorem detach (h : s.Sound) (mediaId tagId now : Int) : (s.detach mediaId tagId now).Sound := by
  refine ⟨?_, ?_, ?_, ?_⟩
  · rw [outline_detach]
    exact h.outline
  · exact h.once.detach mediaId tagId now
  · rw [attachments_detach, outline_detach]
    exact fun a ha => h.attachedMedia a (List.mem_filter.mp ha).1
  · rw [attachments_detach, outline_detach]
    exact fun a ha => h.attachedTag a (List.mem_filter.mp ha).1

end Sound

-- ---------------------------------------------------------------------------
-- Changes
-- ---------------------------------------------------------------------------

/-- One change of a store at a time, under the checks that operations make before it. -/
inductive Change (now : Int) : Store → Store → Prop where
  | insertMedia {s s' : Store} {m : NewMedia} {id : Int} :
      s.insertMedia m now = .ok (id, s') → Change now s s'
  | deleteMedia (s : Store) (id : Int) : Change now s (s.deleteMedia id now)
  | setFavorite (s : Store) (id : Int) (isFavorite : Bool) :
      Change now s (s.setFavorite id isFavorite now)
  | setRating (s : Store) (id : Int) (rating : Rating) : Change now s (s.setRating id rating now)
  | setParent {s : Store} {id : Int} {parent : Option Int} :
      parent ≠ some id → (∀ p ∈ parent, s.hasMedia p = true) →
      Change now s (s.setParent id parent now)
  | view {s : Store} {id : Int} : s.hasMedia id = true → Change now s (s.view id now)
  | insertTag {s s' : Store} {tag : NewTag} {id : Int} :
      (Text.trim tag.name).isEmpty = false →
      s.insertTag { tag with name := Text.trim tag.name } now = .ok (id, s') → Change now s s'
  | deleteTag (s : Store) (id : Int) : Change now s (s.deleteTag id now)
  | attach {s : Store} {mediaId tagId : Int} :
      s.hasMedia mediaId = true → (∃ tag ∈ s.tags, tag.id = tagId) →
      Change now s (s.attach mediaId tagId now)
  | detach (s : Store) (mediaId tagId : Int) : Change now s (s.detach mediaId tagId now)

theorem exists_core_of_hasMedia {s : Store} {id : Int} (h : s.hasMedia id = true) :
    ∃ m ∈ s.outline.media, m.id = id := by
  obtain ⟨row, hRow, hId⟩ := List.any_eq_true.mp h
  exact ⟨row.core, List.mem_map_of_mem hRow, beq_iff_eq.mp hId⟩

/-- A change keeps a store sound. -/
theorem Change.sound {now : Int} {s s' : Store} (hChange : Change now s s') (h : s.Sound) :
    s'.Sound := by
  cases hChange with
  | insertMedia hOk => exact h.insertMedia hOk
  | deleteMedia id => exact h.deleteMedia id now
  | setFavorite id isFavorite => exact h.quiet (quiet_setFavorite s id isFavorite now)
  | setRating id rating => exact h.setRating id rating now
  | setParent _ _ => exact h.quiet (quiet_setParent s _ _ now)
  | view _ => exact h.quiet (quiet_view s _ now)
  | insertTag _ hOk => exact h.insertTag hOk
  | deleteTag id => exact h.deleteTag id now
  | attach hMedia hTag =>
    obtain ⟨tag, hMem, hId⟩ := hTag
    exact h.attach now (exists_core_of_hasMedia hMedia) ⟨tag.unused, List.mem_map_of_mem hMem, hId⟩
  | detach mediaId tagId => exact h.detach mediaId tagId now

end Store

end MediaLibrary
