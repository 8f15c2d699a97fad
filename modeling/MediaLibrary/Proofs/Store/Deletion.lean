import MediaLibrary.Proofs.Store.Kinship

/-!
# Store — what a deletion leaves

A deletion detaches tags one after the other, and each time counters of one medium and
one tag move. All together they move as if looked at once: a row changes by the
attachments of its own that are gone, and the category of every tag is the same from the
first one to the last. With this a store after a deletion can be told row by row.

* `Store.detach_eq`, `Store.detachAll_eq` — one attachment that goes, and many;
* `Store.withoutMedia`, `Store.withoutTag` — the store without a medium or a tag;
* `Store.Sound.deleteMedia_eq`, `Store.Sound.deleteTag_eq` — deletions leave just these.
-/

namespace MediaLibrary

namespace Store

variable {s : Store} {now : Int}

-- ---------------------------------------------------------------------------
-- Detaching
-- ---------------------------------------------------------------------------

/-- The row of a medium after its own ones among some attachments are gone. -/
def mediaAfter (s : Store) (gone : List Attachment) (now : Int) (row : MediaRow) : MediaRow :=
  (gone.filter (·.mediaId == row.id)).foldl
    (fun row a => recounted (s.category? a.tagId) (-1) now row) row

/-- The row of a tag after its own ones among some attachments are gone. -/
def tagAfter (gone : List Attachment) (tag : TagRow) : TagRow :=
  { tag with usageCount := tag.usageCount - gone.countP (·.tagId == tag.id) }

/-- An attachment that goes changes one medium and one tag. -/
theorem detach_eq {mediaId tagId : Int} (h : s.isAttached mediaId tagId = true) :
    s.detach mediaId tagId now = { s with
      media := s.media.map fun row =>
        if row.id == mediaId then recounted (s.category? tagId) (-1) now row else row
      tags := s.tags.map fun tag =>
        if tag.id == tagId then { tag with usageCount := tag.usageCount + -1 } else tag
      attachments :=
        s.attachments.filter fun a => !(a.mediaId == mediaId && a.tagId == tagId) } := by
  rw [detach, if_pos h]
  rfl

/-- A pair that is attached stays so if another one is detached. -/
theorem isAttached_detach {a : Attachment} {mediaId tagId : Int}
    (hNe : ¬(mediaId = a.mediaId ∧ tagId = a.tagId))
    (h : s.isAttached a.mediaId a.tagId = true) :
    (s.detach mediaId tagId now).isAttached a.mediaId a.tagId = true := by
  obtain ⟨b, hb, hMedia, hTag⟩ := isAttached_iff.mp h
  refine isAttached_iff.mpr ⟨b, ?_, hMedia, hTag⟩
  rw [attachments_detach, List.mem_filter]
  refine ⟨hb, ?_⟩
  rw [hMedia, hTag, Bool.not_eq_true', Bool.and_eq_false_iff]
  simp only [beq_eq_false_iff_ne]
  by_cases hSame : a.mediaId = mediaId
  · exact .inr fun hTag' => hNe ⟨hSame.symm, hTag'.symm⟩
  · exact .inl hSame

theorem mediaAfter_nil : s.mediaAfter [] now = id := rfl

theorem tagAfter_nil : tagAfter [] = id := by
  funext tag
  simp [tagAfter]

/-- The counters of media go down for one tag after the other, -/
theorem mediaAfter_cons (a : Attachment) (rest : List Attachment) :
    s.mediaAfter (a :: rest) now = s.mediaAfter rest now ∘ fun row =>
      if row.id == a.mediaId then recounted (s.category? a.tagId) (-1) now row else row := by
  funext row
  by_cases hId : row.id = a.mediaId
  · simp [mediaAfter, hId, recounted]
  · simp [mediaAfter, hId, Ne.symm hId]

/-- and so do those of tags. -/
theorem tagAfter_cons (a : Attachment) (rest : List Attachment) :
    tagAfter (a :: rest) = tagAfter rest ∘ fun tag =>
      if tag.id == a.tagId then { tag with usageCount := tag.usageCount + -1 } else tag := by
  funext tag
  by_cases hId : tag.id = a.tagId
  · simp only [tagAfter, Function.comp_apply, hId, List.countP_cons, beq_self_eq_true, ↓reduceIte]
    congr 1
    push_cast
    omega
  · simp [tagAfter, hId, Ne.symm hId]

/-- Attachments that go one after the other change each row by those of them that are its own. -/
theorem foldl_detach_eq {gone : List Attachment}
    (hOnce : gone.Pairwise fun a b => ¬(a.mediaId = b.mediaId ∧ a.tagId = b.tagId))
    (hAttached : ∀ a ∈ gone, s.isAttached a.mediaId a.tagId = true) :
    gone.foldl (fun s a => s.detach a.mediaId a.tagId now) s = { s with
      media := s.media.map (s.mediaAfter gone now)
      tags := s.tags.map (tagAfter gone)
      attachments := (gone.foldl (fun s a => s.detach a.mediaId a.tagId now) s).attachments } := by
  induction gone generalizing s with
  | nil => rw [mediaAfter_nil, tagAfter_nil, List.map_id, List.map_id, List.foldl_nil]
  | cons a rest ih =>
    obtain ⟨hFirst, hRest⟩ := List.pairwise_cons.mp hOnce
    have hLeft : ∀ b ∈ rest, (s.detach a.mediaId a.tagId now).isAttached b.mediaId b.tagId = true :=
      fun b hb => isAttached_detach (hFirst b hb) (hAttached b (List.mem_cons_of_mem a hb))
    -- the tags keep their categories while their use counts move
    have hAfter : (s.detach a.mediaId a.tagId now).mediaAfter rest now = s.mediaAfter rest now := by
      have hCategory := category?_of_outline (congrArg Outline.tags
        (s.outline_detach a.mediaId a.tagId now))
      funext row
      rw [mediaAfter, hCategory, mediaAfter]
    rw [List.foldl_cons, ih hRest hLeft, hAfter, detach_eq (hAttached a (List.mem_cons_self ..))]
    rw [mediaAfter_cons, tagAfter_cons, List.map_map, List.map_map]

/-- The tags of many attachments are detached at once, where the choice looks at nothing but the
medium and the tag. -/
theorem detachAll_eq (h : s.AttachedOnce) (chosen : Attachment → Bool) (now : Int)
    (hChosen : ∀ a b : Attachment,
      a.mediaId = b.mediaId → a.tagId = b.tagId → chosen a = chosen b) :
    s.detachAll chosen now = { s with
      media := s.media.map (s.mediaAfter (s.attachments.filter chosen) now)
      tags := s.tags.map (tagAfter (s.attachments.filter chosen))
      attachments := s.attachments.filter fun a => !chosen a } := by
  rw [← attachments_detachAll s now hChosen, detachAll]
  refine foldl_detach_eq (h.filter chosen) fun a ha => ?_
  exact isAttached_iff.mpr ⟨a, (List.mem_filter.mp ha).1, rfl, rfl⟩

-- ---------------------------------------------------------------------------
-- All attachments of one medium or one tag
-- ---------------------------------------------------------------------------

/-- What is not attached is attached nowhere. -/
theorem not_isAttached_iff {mediaId tagId : Int} :
    s.isAttached mediaId tagId = false ↔
      (s.attachments.filter fun a => a.mediaId == mediaId && a.tagId == tagId) = [] := by
  rw [isAttached, List.any_eq_false, List.filter_eq_nil_iff]

/-- A medium carries a tag at most once, so it changes by one tag at most when the tag goes. -/
theorem mediaAfter_tag (h : s.AttachedOnce) (id : Int) (row : MediaRow) :
    s.mediaAfter (s.attachments.filter (·.tagId == id)) now row =
      if s.isAttached row.id id then recounted (s.category? id) (-1) now row else row := by
  rw [mediaAfter, List.filter_filter]
  by_cases hAttached : s.isAttached row.id id = true
  · obtain ⟨a, -, hTag, hOne⟩ := filter_pair_eq_singleton h hAttached
    rw [hOne, if_pos hAttached, List.foldl_cons, List.foldl_nil, hTag]
  · rw [if_neg hAttached, not_isAttached_iff.mp (by simpa using hAttached), List.foldl_nil]

/-- Detaching all tags of a medium does not touch another one. -/
theorem mediaAfter_media {id : Int} {row : MediaRow} (hNe : row.id ≠ id) :
    s.mediaAfter (s.attachments.filter (·.mediaId == id)) now row = row := by
  have hNone : ((s.attachments.filter (·.mediaId == id)).filter (·.mediaId == row.id)) = [] := by
    rw [List.filter_filter, List.filter_eq_nil_iff]
    intro a _
    simp only [Bool.and_eq_true, beq_iff_eq, not_and]
    rintro hRow rfl
    exact hNe hRow.symm
  rw [mediaAfter, hNone, List.foldl_nil]

/-- A tag is used by one medium less at most when a medium goes. -/
theorem tagAfter_media (h : s.AttachedOnce) (id : Int) (tag : TagRow) :
    tagAfter (s.attachments.filter (·.mediaId == id)) tag =
      if s.isAttached id tag.id then { tag with usageCount := tag.usageCount - 1 } else tag := by
  have hCount : (s.attachments.filter (·.mediaId == id)).countP (·.tagId == tag.id) =
      (s.attachments.filter fun a => a.mediaId == id && a.tagId == tag.id).length := by
    rw [List.countP_filter, List.countP_eq_length_filter]
    simp only [Bool.and_comm]
  rw [tagAfter, hCount]
  by_cases hAttached : s.isAttached id tag.id = true
  · obtain ⟨a, -, -, hOne⟩ := filter_pair_eq_singleton h hAttached
    rw [hOne, if_pos hAttached]
    rfl
  · rw [if_neg hAttached, not_isAttached_iff.mp (by simpa using hAttached)]
    simp

/-- Detaching a tag from all media does not touch another one. -/
theorem tagAfter_tag {id : Int} {tag : TagRow} (hNe : tag.id ≠ id) :
    tagAfter (s.attachments.filter (·.tagId == id)) tag = tag := by
  have hNone : (s.attachments.filter (·.tagId == id)).countP (·.tagId == tag.id) = 0 := by
    rw [List.countP_eq_zero]
    intro a ha
    rw [(beq_iff_eq.mp (List.mem_filter.mp ha).2), beq_iff_eq]
    exact Ne.symm hNe
  simp [tagAfter, hNone]

-- ---------------------------------------------------------------------------
-- Rows told apart
-- ---------------------------------------------------------------------------

/-- Tags are told apart by what the store compares of their names. -/
theorem Sound.eq_of_names (h : s.Sound) {a b : TagRow} (ha : a ∈ s.tags) (hb : b ∈ s.tags)
    (hName : Text.OneName a.name b.name) : a = b := by
  have hDistinct : (s.tags.map fun tag => Text.collated tag.name).Nodup :=
    List.pairwise_map.mpr (h.tags_names.imp fun hNot hSame => hNot (Text.oneName_iff.mpr hSame))
  exact List.inj_on_of_nodup_map hDistinct ha hb (Text.oneName_iff.mp hName)

-- ---------------------------------------------------------------------------
-- Media that go
-- ---------------------------------------------------------------------------

/-- The store without a medium. Its tags are used by one medium less, its children have no parent,
and its parent is one if another medium still names it. Nothing else has changed. -/
def withoutMedia (s : Store) (m : MediaRow) : Store :=
  { s with
    media := (s.media.filter (·.id != m.id)).map fun row =>
      { row with
        parentId := if row.parentId = some m.id then none else row.parentId
        hasChildren :=
          if m.parentId = some row.id then
            s.media.any fun child => child.id != m.id && child.parentId == some row.id
          else row.hasChildren }
    tags := s.tags.map fun tag =>
      if s.isAttached m.id tag.id then { tag with usageCount := tag.usageCount - 1 } else tag
    attachments := s.attachments.filter (·.mediaId != m.id)
    views := s.views.filter (·.mediaId != m.id) }

/-- Of all media, only the one with the id is changed. -/
theorem changeMedia_eq (s : Store) {id : Int} {f g : MediaRow → MediaRow}
    (hf : ∀ row, row.id = id → f row = g row) :
    s.changeMedia id f = { s with
      media := s.media.map fun row => if some id = some row.id then g row else row } := by
  rw [changeMedia]
  congr 1
  apply List.map_congr_left
  intro row _
  by_cases hId : row.id = id
  · simp [hId, hf]
  · simp [hId, Ne.symm hId]

/-- Of all media, only the parent is looked at again. -/
theorem refreshParent_eq (s : Store) (parent : Option Int) :
    s.refreshParent parent = { s with
      media := s.media.map fun row =>
        if parent = some row.id then { row with hasChildren := s.isParent row.id } else row } := by
  cases parent with
  | none => simp [refreshParent]
  | some id =>
    refine s.changeMedia_eq ?_
    rintro row rfl
    rfl

/-- Of all media, only the parent is marked. -/
theorem markParent_eq (s : Store) (parent : Option Int) :
    s.markParent parent = { s with
      media := s.media.map fun row =>
        if parent = some row.id then { row with hasChildren := true } else row } := by
  cases parent with
  | none => simp [markParent]
  | some id => exact s.changeMedia_eq fun _ _ => rfl

/-- Among the media that stay, whoever is named by another one that stays is a parent. -/
theorem isParent_orphan (s : Store) {id p : Int} (hNe : p ≠ id) :
    (Store.orphan { s with media := s.media.filter (·.id != id) } id).isParent p =
      s.media.any fun child => child.id != id && child.parentId == some p := by
  rw [isParent, orphan, List.any_map, List.any_filter]
  congr 1
  funext row
  by_cases hChild : row.parentId = some id
  · simp [hChild, Ne.symm hNe]
  · simp [hChild]

/-- The children of a medium that is gone lose their parent, and its parent is looked at again. -/
theorem orphan_refreshParent (s : Store) (id : Int) (parent : Option Int) :
    (Store.orphan { s with media := s.media.filter (·.id != id) } id).refreshParent parent =
      { s with
        media := (s.media.filter (·.id != id)).map fun row =>
          { row with
            parentId := if row.parentId = some id then none else row.parentId
            hasChildren :=
              if parent = some row.id then
                s.media.any fun child => child.id != id && child.parentId == some row.id
              else row.hasChildren } } := by
  have hMark : ∀ row ∈ s.media.filter (·.id != id),
      (Store.orphan { s with media := s.media.filter (·.id != id) } id).isParent row.id =
        s.media.any fun child => child.id != id && child.parentId == some row.id :=
    fun row hRow => s.isParent_orphan (by simpa using (List.mem_filter.mp hRow).2)
  rw [refreshParent_eq]
  generalize Store.isParent _ = isParent at hMark ⊢
  simp only [orphan, List.map_map]
  congr 1
  apply List.map_congr_left
  intro row hRow
  by_cases hChild : row.parentId = some id <;> by_cases hIs : parent = some row.id <;>
    simp [hChild, hIs, hMark row hRow]

/-- A medium that is deleted leaves the store without it. -/
theorem Sound.deleteMedia_eq (h : s.Sound) {m : MediaRow} (hm : m ∈ s.media) :
    s.deleteMedia m.id now = s.withoutMedia m := by
  -- the medium is no longer there when its tags are detached, so none of the others changes
  have hMedia : (s.media.filter (·.id != m.id)).map (mediaAfter
      { s with media := s.media.filter (·.id != m.id) }
      (s.attachments.filter (·.mediaId == m.id)) now) = s.media.filter (·.id != m.id) := by
    refine (List.map_congr_left fun row hRow => ?_).trans (List.map_id _)
    exact mediaAfter_media (by simpa using (List.mem_filter.mp hRow).2)
  have hTags : s.tags.map (tagAfter (s.attachments.filter (·.mediaId == m.id))) =
      (s.withoutMedia m).tags :=
    List.map_congr_left fun tag _ => tagAfter_media h.once m.id tag
  have hDetached := detachAll_eq (s := { s with media := s.media.filter (·.id != m.id) })
    h.once (·.mediaId == m.id) now fun a b hSame _ => by simp [hSame]
  simp only [hMedia, hTags] at hDetached
  rw [Store.deleteMedia, mediaRow?, find?_of_ids h.media_ids hm]
  simp only [hDetached]
  exact orphan_refreshParent { s with
    tags := (s.withoutMedia m).tags
    attachments := s.attachments.filter (·.mediaId != m.id)
    views := s.views.filter (·.mediaId != m.id) } m.id m.parentId

-- ---------------------------------------------------------------------------
-- Tags that go
-- ---------------------------------------------------------------------------

/-- The store without a tag. The media that carried it count one tag less, in all and of its
category, and have changed at this time. Nothing else has changed. -/
def withoutTag (s : Store) (tag : TagRow) (now : Int) : Store :=
  { s with
    media := s.media.map fun row =>
      if s.isAttached row.id tag.id then
        { row with
          tagCount := row.tagCount - 1
          tagCountGeneral :=
            if tag.category = TagCategory.general.code then row.tagCountGeneral - 1
            else row.tagCountGeneral
          tagCountMetadata :=
            if tag.category = TagCategory.metadata.code then row.tagCountMetadata - 1
            else row.tagCountMetadata
          tagCountArtist :=
            if tag.category = TagCategory.artist.code then row.tagCountArtist - 1
            else row.tagCountArtist
          updatedAt := now }
      else row
    tags := s.tags.filter (·.id != tag.id)
    attachments := s.attachments.filter (·.tagId != tag.id) }

/-- A counter of one category goes down by one for a tag of this category. -/
theorem add_share (n : Int) (c : TagCategory) (category : Int) :
    n + share c (some category) (-1) = if category = c.code then n - 1 else n := by
  by_cases hSame : category = c.code
  · simp [share, hSame]
    omega
  · simp [share, hSame]

/-- A tag that is deleted leaves the store without it. -/
theorem Sound.deleteTag_eq (h : s.Sound) {tag : TagRow} (hTag : tag ∈ s.tags) :
    s.deleteTag tag.id now = s.withoutTag tag now := by
  have hMedia : s.media.map (s.mediaAfter (s.attachments.filter (·.tagId == tag.id)) now) =
      (s.withoutTag tag now).media := by
    apply List.map_congr_left
    intro row _
    simp only [mediaAfter_tag h.once, h.category?_of_mem hTag, recounted, add_share]
    rfl
  have hTags : (s.tags.map (tagAfter (s.attachments.filter (·.tagId == tag.id)))).filter
      (·.id != tag.id) = s.tags.filter (·.id != tag.id) := by
    rw [List.filter_map]
    refine (List.map_congr_left fun other hOther => ?_).trans (List.map_id _)
    exact tagAfter_tag (by simpa [tagAfter] using (List.mem_filter.mp hOther).2)
  rw [Store.deleteTag, detachAll_eq h.once _ now fun a b _ hSame => by simp [hSame], hMedia]
  simp only [hTags]
  rfl

/-- Nothing hangs on a tag that does not exist. -/
theorem Sound.deleteTag_eq_self (h : s.Sound) {id : Int} (hNone : ∀ tag ∈ s.tags, tag.id ≠ id) :
    s.deleteTag id now = s := by
  have hAttachments : s.attachments.filter (·.tagId == id) = [] := by
    rw [List.filter_eq_nil_iff]
    intro a ha hTag
    obtain ⟨unused, hUnused, hId⟩ := h.attachedTag a ha
    obtain ⟨tag, hMem, rfl⟩ := List.mem_map.mp hUnused
    exact hNone tag hMem (hId.trans (beq_iff_eq.mp hTag))
  have hTags : s.tags.filter (·.id != id) = s.tags := by
    rw [List.filter_eq_self]
    exact fun tag hTag => by simpa using hNone tag hTag
  rw [Store.deleteTag, detachAll, hAttachments, List.foldl_nil, hTags]

end Store

end MediaLibrary
