import MediaLibrary.Proofs.Store.Change

/-!
# Store — counters follow attachments

A medium counts its tags in four columns and a tag its media in one, and nobody
sets them. All five count attachments, and which ones is said by a relation of media
and tags. Attaching or detaching one pair moves such a number by one or by nothing,
and so do the counters, `Counted.recount`; everything else that happens to a sound
store moves neither.

* `Store.pairs` — the number of attachments in a relation;
* `Store.Counted` — every counter is the number of attachments it stands for;
* `Store.Change.counted` — every change keeps the counters of a sound store right.
-/

namespace MediaLibrary

/-- How many tags of a category a medium counts. -/
def MediaTally.countOf (tally : MediaTally) : TagCategory → Int
  | .general => tally.general
  | .metadata => tally.metadata
  | .artist => tally.artist

/-- The tally after the number of tags of a category has moved by `change`. -/
def MediaTally.moved (tally : MediaTally) (category : Option Int) (change : Int) : MediaTally where
  id := tally.id
  all := tally.all + change
  general := tally.general + Store.share .general category change
  metadata := tally.metadata + Store.share .metadata category change
  artist := tally.artist + Store.share .artist category change

@[simp] theorem MediaTally.id_moved (tally : MediaTally) (category : Option Int) (change : Int) :
    (tally.moved category change).id = tally.id := rfl

@[simp] theorem MediaTally.all_moved (tally : MediaTally) (category : Option Int) (change : Int) :
    (tally.moved category change).all = tally.all + change := rfl

/-- A counter moves by its share of the change. -/
@[simp] theorem MediaTally.countOf_moved (tally : MediaTally) (category : Option Int) (change : Int)
    (c : TagCategory) :
    (tally.moved category change).countOf c = tally.countOf c + Store.share c category change := by
  cases c <;> rfl

namespace Store

/-- The number of attachments whose medium and tag are in a relation. -/
def pairs (s : Store) (related : Int → Int → Bool) : Int :=
  (s.attachments.countP fun a => related a.mediaId a.tagId : Nat)

/-- The stored category of a tag. -/
def category? (s : Store) (tagId : Int) : Option Int :=
  (s.tagRow? tagId).map (·.category)

/-- Every counter is the number of attachments it stands for. -/
structure Counted (s : Store) : Prop where
  all : ∀ tally ∈ s.tallies, tally.all = s.pairs fun mediaId _ => mediaId == tally.id
  byCategory : ∀ tally ∈ s.tallies, ∀ c : TagCategory, tally.countOf c =
    s.pairs fun mediaId tagId => mediaId == tally.id && s.category? tagId == some c.code
  usage : ∀ tag ∈ s.tags, tag.usageCount = s.pairs fun _ tagId => tagId == tag.id

variable {s s' : Store} {now : Int}

-- ---------------------------------------------------------------------------
-- Numbers of attachments
-- ---------------------------------------------------------------------------

/-- Pairs are counted among the attachments alone. -/
theorem pairs_of_attachments (h : s'.attachments = s.attachments) : s'.pairs = s.pairs := by
  funext related
  rw [pairs, h]
  rfl

/-- Relations that agree on all attachments count the same pairs. -/
theorem pairs_congr {related related' : Int → Int → Bool}
    (h : ∀ a ∈ s.attachments, related a.mediaId a.tagId = related' a.mediaId a.tagId) :
    s.pairs related = s.pairs related' := by
  have hCount := List.countP_congr (l := s.attachments)
    (p := fun a => related a.mediaId a.tagId) (q := fun a => related' a.mediaId a.tagId)
    fun a ha => by rw [h a ha]
  rw [pairs, hCount]
  rfl

/-- A relation in which no attachment stands counts none. -/
theorem pairs_eq_zero {related : Int → Int → Bool}
    (h : ∀ a ∈ s.attachments, related a.mediaId a.tagId = false) : s.pairs related = 0 := by
  have hCount : (s.attachments.countP fun a => related a.mediaId a.tagId) = 0 := by
    rw [List.countP_eq_zero]
    intro a ha
    simp [h a ha]
  rw [pairs, hCount]
  rfl

/-- A pair that is attached once is the only attachment that detaching it removes. -/
theorem filter_pair_eq_singleton {mediaId tagId : Int} (hOnce : s.AttachedOnce)
    (hAttached : s.isAttached mediaId tagId = true) :
    ∃ a : Attachment, a.mediaId = mediaId ∧ a.tagId = tagId ∧
      (s.attachments.filter fun a => a.mediaId == mediaId && a.tagId == tagId) = [a] := by
  obtain ⟨a, ha, hPair⟩ := List.any_eq_true.mp hAttached
  have hMem : a ∈ s.attachments.filter fun a => a.mediaId == mediaId && a.tagId == tagId :=
    List.mem_filter.mpr ⟨ha, hPair⟩
  have hAll : ∀ x ∈ s.attachments.filter fun a => a.mediaId == mediaId && a.tagId == tagId,
      x.mediaId = mediaId ∧ x.tagId = tagId := by
    intro x hx
    simpa using (List.mem_filter.mp hx).2
  have hDistinct := hOnce.filter fun a => a.mediaId == mediaId && a.tagId == tagId
  rcases hList : s.attachments.filter fun a => a.mediaId == mediaId && a.tagId == tagId with
    _ | ⟨x, _ | ⟨y, rest⟩⟩
  · rw [hList] at hMem
    cases hMem
  · rw [hList] at hAll
    obtain ⟨hm, ht⟩ := hAll x (by simp)
    exact ⟨x, hm, ht, hList⟩
  · -- two attachments of one pair would be distinct
    rw [hList] at hAll hDistinct
    obtain ⟨hxm, hxt⟩ := hAll x (by simp)
    obtain ⟨hym, hyt⟩ := hAll y (by simp)
    have := (List.pairwise_cons.mp hDistinct).1 y (by simp)
    exact absurd ⟨hxm.trans hym.symm, hxt.trans hyt.symm⟩ this

-- ---------------------------------------------------------------------------
-- Categories
-- ---------------------------------------------------------------------------

/-- The category of a tag is read from the outline. -/
theorem category?_eq_find? (tagId : Int) :
    s.category? tagId = (s.outline.tags.find? (·.id == tagId)).map (·.category) := by
  simp only [category?, tagRow?, outline, List.find?_map, Option.map_map]
  rfl

theorem category?_of_outline (h : s'.outline.tags = s.outline.tags) :
    s'.category? = s.category? := by
  funext tagId
  rw [category?_eq_find?, category?_eq_find?, h]

-- ---------------------------------------------------------------------------
-- Moving the counters
-- ---------------------------------------------------------------------------

/-- One medium is counted anew, by the category of the tag. -/
theorem tallies_recount (mediaId tagId change now : Int) :
    (s.recount mediaId tagId change now).tallies = s.tallies.map fun tally =>
      if tally.id == mediaId then tally.moved (s.category? tagId) change else tally := by
  simp only [tallies, recount, changeMedia, changeTag, List.map_map]
  apply List.map_congr_left
  intro row _
  exact apply_ite MediaRow.tally _ _ _

namespace Counted

/-- A quiet change keeps the counters right. -/
theorem quiet (h : s.Counted) (hQuiet : s.Quiet s') : s'.Counted where
  all := by
    rw [hQuiet.tallies, pairs_of_attachments hQuiet.attachments]
    exact h.all
  byCategory := by
    rw [hQuiet.tallies, pairs_of_attachments hQuiet.attachments,
      category?_of_outline (congrArg Outline.tags hQuiet.outline)]
    exact h.byCategory
  usage := by
    rw [hQuiet.tags, pairs_of_attachments hQuiet.attachments]
    exact h.usage

/-- Counters that move as the number of attachments has moved are right again. -/
theorem recount {s₀ : Store} (h : s₀.Counted) (hMedia : s.media = s₀.media)
    (hTags : s.tags = s₀.tags) {mediaId tagId change : Int}
    (hPairs : ∀ related, s.pairs related =
      s₀.pairs related + if related mediaId tagId then change else 0) :
    (s.recount mediaId tagId change now).Counted := by
  have hTallies : s.tallies = s₀.tallies := by rw [tallies, hMedia, tallies]
  have hCategory : s.category? = s₀.category? := by
    funext id
    rw [category?, tagRow?, hTags]
    rfl
  have hCategory' : (s.recount mediaId tagId change now).category? = s.category? :=
    category?_of_outline (congrArg Outline.tags (s.outline_recount mediaId tagId change now))
  refine ⟨?_, ?_, ?_⟩
  · intro tally hTally
    rw [tallies_recount] at hTally
    obtain ⟨t, ht, rfl⟩ := List.mem_map.mp hTally
    rw [pairs_of_attachments (attachments_recount s mediaId tagId change now), hPairs]
    have hAll := h.all t (hTallies ▸ ht)
    by_cases hId : t.id = mediaId
    · subst hId
      simp [hAll]
    · simp [hId, Ne.symm hId, ← hAll]
  · intro tally hTally c
    rw [tallies_recount] at hTally
    obtain ⟨t, ht, rfl⟩ := List.mem_map.mp hTally
    rw [pairs_of_attachments (attachments_recount s mediaId tagId change now), hPairs, hCategory',
      hCategory]
    have hCount := h.byCategory t (hTallies ▸ ht) c
    by_cases hId : t.id = mediaId
    · subst hId
      simp [hCount, share]
    · simp [hId, Ne.symm hId, ← hCount]
  · intro tag hTag
    obtain ⟨t, ht, rfl⟩ := List.mem_map.mp hTag
    rw [pairs_of_attachments (attachments_recount s mediaId tagId change now), hPairs]
    have hUsage := h.usage t (hTags ▸ ht)
    by_cases hId : t.id = tagId
    · subst hId
      simp [hUsage]
    · simp [hId, Ne.symm hId, ← hUsage]

-- ---------------------------------------------------------------------------
-- Attaching and detaching
-- ---------------------------------------------------------------------------

/-- Attaching a tag moves the counters of its medium and its own, -/
theorem attach (h : s.Counted) (mediaId tagId now : Int) :
    (s.attach mediaId tagId now).Counted := by
  unfold Store.attach
  split
  · exact h
  · show Counted (Store.recount { s with
      attachments := s.attachments ++ [⟨mediaId, tagId, now⟩] } mediaId tagId 1 now)
    refine h.recount ?_ ?_ fun related => ?_
    · rfl
    · rfl
    · simp only [pairs, List.countP_append, List.countP_singleton]
      split <;> push_cast <;> rfl

/-- and detaching it moves them back. -/
theorem detach (h : s.Counted) (hOnce : s.AttachedOnce) (mediaId tagId now : Int) :
    (s.detach mediaId tagId now).Counted := by
  unfold Store.detach
  split
  · rename_i hAttached
    show Counted (Store.recount { s with
      attachments := s.attachments.filter (fun a => !(a.mediaId == mediaId && a.tagId == tagId)) }
      mediaId tagId (-1) now)
    refine h.recount ?_ ?_ fun related => ?_
    · rfl
    · rfl
    · obtain ⟨a, hMedia, hTag, hList⟩ := filter_pair_eq_singleton hOnce hAttached
      have hSplit := List.countP_eq_countP_filter_add s.attachments
        (fun a => related a.mediaId a.tagId) fun a => a.mediaId == mediaId && a.tagId == tagId
      rw [hList, List.countP_singleton, hMedia, hTag] at hSplit
      simp only [pairs]
      rw [hSplit]
      split <;> push_cast <;> omega
  · exact h

/-- Tags that are detached one after the other keep the counters right. -/
theorem detachAll (h : s.Counted) (hOnce : s.AttachedOnce) (chosen : Attachment → Bool)
    (now : Int) : (s.detachAll chosen now).Counted :=
  (detachAll_induction s (P := fun s => s.AttachedOnce ∧ s.Counted)
    (fun _ mediaId tagId hs =>
      ⟨hs.1.detach mediaId tagId now, hs.2.detach hs.1 mediaId tagId now⟩)
    chosen ⟨hOnce, h⟩).2

-- ---------------------------------------------------------------------------
-- Media
-- ---------------------------------------------------------------------------

/-- A new medium carries nothing, and so it counts nothing. -/
theorem insertMedia (h : s.Counted) (hSound : s.Sound) {m : NewMedia} {id : Int}
    (hOk : s.insertMedia m now = .ok (id, s')) : s'.Counted := by
  obtain ⟨hId, -, rfl⟩ := insertMedia_ok hOk
  refine quiet ?_ (quiet_markParent _ _)
  have hFree : ∀ a ∈ s.attachments, a.mediaId ≠ id := by
    intro a ha
    obtain ⟨core, hCore, hEq⟩ := hSound.attachedMedia a ha
    have := hSound.outline.mediaBound core hCore
    simp only [Store.outline] at this
    omega
  have hTallies : Store.tallies { s with
      media := s.media ++ [newMediaRow id m now], lastMediaId := id } =
      s.tallies ++ [⟨id, 0, 0, 0, 0⟩] := by
    simp [tallies, MediaRow.tally, newMediaRow]
  refine ⟨?_, ?_, h.usage⟩
  · rw [hTallies]
    intro tally hTally
    rcases List.mem_append.mp hTally with hTally | hTally
    · exact h.all tally hTally
    · obtain rfl := List.mem_singleton.mp hTally
      exact (pairs_eq_zero fun a ha => by simpa using hFree a ha).symm
  · rw [hTallies]
    intro tally hTally c
    rcases List.mem_append.mp hTally with hTally | hTally
    · exact h.byCategory tally hTally c
    · obtain rfl := List.mem_singleton.mp hTally
      have hZero : s.pairs (fun mediaId tagId =>
          mediaId == id && s.category? tagId == some c.code) = 0 :=
        pairs_eq_zero fun a ha => by simp [hFree a ha]
      cases c <;> exact hZero.symm

/-- A medium takes its counters along, and no others count it. -/
theorem filterMedia (h : s.Counted) (keep : MediaRow → Bool) :
    Counted { s with media := s.media.filter keep } := by
  have hMem : ∀ tally ∈ Store.tallies { s with media := s.media.filter keep },
      tally ∈ s.tallies := by
    intro tally hTally
    obtain ⟨row, hRow, rfl⟩ := List.mem_map.mp hTally
    exact List.mem_map_of_mem (List.mem_filter.mp hRow).1
  exact ⟨fun tally hTally => h.all tally (hMem tally hTally),
    fun tally hTally => h.byCategory tally (hMem tally hTally), h.usage⟩

/-- The tags of a medium that goes are used by one medium less. -/
theorem deleteMedia (h : s.Counted) (hSound : s.Sound) (id now : Int) :
    (s.deleteMedia id now).Counted := by
  unfold Store.deleteMedia
  split
  · exact h
  · refine quiet ?_ ((quiet_orphan _ id).trans (quiet_refreshParent _ _))
    have hKept := (h.filterMedia (·.id != id)).detachAll hSound.once (·.mediaId == id) now
    exact hKept.quiet ⟨rfl, rfl, rfl, rfl⟩

/-- Rating moves no counter. -/
theorem setRating (h : s.Counted) (id : Int) (rating : Rating) (now : Int) :
    (s.setRating id rating now).Counted := by
  have hTallies : (s.setRating id rating now).tallies = s.tallies :=
    s.map_changeMedia MediaRow.tally id fun _ => rfl
  refine ⟨?_, ?_, h.usage⟩
  · rw [hTallies]
    exact h.all
  · rw [hTallies]
    exact h.byCategory

-- ---------------------------------------------------------------------------
-- Tags
-- ---------------------------------------------------------------------------

/-- Categories that change only for tags that no medium carries leave the counters right. -/
theorem of_category? (h : s.Counted) (hTallies : s'.tallies = s.tallies)
    (hAttachments : s'.attachments = s.attachments)
    (hCategory : ∀ a ∈ s.attachments, s'.category? a.tagId = s.category? a.tagId)
    (hUsage : ∀ tag ∈ s'.tags, tag.usageCount = s.pairs fun _ tagId => tagId == tag.id) :
    s'.Counted where
  all := by
    rw [hTallies, pairs_of_attachments hAttachments]
    exact h.all
  byCategory := by
    rw [hTallies, pairs_of_attachments hAttachments]
    intro tally hTally c
    rw [h.byCategory tally hTally c]
    exact pairs_congr fun a ha => by rw [hCategory a ha]
  usage := by
    rw [pairs_of_attachments hAttachments]
    exact hUsage

/-- A new tag is carried by no medium, and counts none. -/
theorem insertTag (h : s.Counted) (hSound : s.Sound) {tag : NewTag} {id : Int}
    (hOk : s.insertTag tag now = .ok (id, s')) : s'.Counted := by
  obtain ⟨hId, -, rfl⟩ := insertTag_ok hOk
  refine h.of_category? rfl rfl ?_ ?_
  · intro a ha
    obtain ⟨tag', hTag', hEq⟩ := hSound.attachedTag a ha
    rw [category?_eq_find?, category?_eq_find?, outline_appendTag]
    have hFound : (s.outline.tags.find? (·.id == a.tagId)).isSome = true :=
      List.find?_isSome.mpr ⟨tag', hTag', by simp [hEq]⟩
    rw [List.find?_append, Option.or_of_isSome hFound]
  · intro row hRow
    rcases List.mem_append.mp hRow with hRow | hRow
    · exact h.usage row hRow
    · -- no attachment names the id of a tag that is still to come
      obtain rfl := List.mem_singleton.mp hRow
      refine (pairs_eq_zero fun a ha => ?_).symm
      obtain ⟨tag', hTag', hEq⟩ := hSound.attachedTag a ha
      have := hSound.outline.tagBound tag' hTag'
      simp only [Store.outline] at this
      rw [beq_eq_false_iff_ne]
      show a.tagId ≠ id
      omega

/-- The media of a tag that goes count one tag less. -/
theorem deleteTag (h : s.Counted) (hSound : s.Sound) (id now : Int) :
    (s.deleteTag id now).Counted := by
  have hDetached := h.detachAll hSound.once (·.tagId == id) now
  refine hDetached.of_category? rfl rfl ?_ ?_
  · intro a ha
    have hNe : a.tagId ≠ id := by
      have hLeft := attachments_deleteTag s id now
      rw [Store.deleteTag] at hLeft
      rw [hLeft, List.mem_filter] at ha
      simpa using ha.2
    rw [category?_eq_find?, category?_eq_find?, outline_deleteTag, outline_detachAll,
      List.find?_filter]
    congr 2
    funext tag
    by_cases hTag : tag.id = a.tagId
    · simp [hTag, hNe]
    · simp [hTag]
  · intro tag hTag
    exact hDetached.usage tag (List.mem_filter.mp hTag).1

end Counted

-- ---------------------------------------------------------------------------
-- All changes
-- ---------------------------------------------------------------------------

/-- The new store has nothing to count. -/
theorem counted_fresh (now : Int) : (Store.fresh now).Counted := by
  constructor <;> simp [Store.fresh, tallies]

/-- A change of a sound store keeps its counters right. -/
theorem Change.counted (hChange : Change now s s') (hSound : s.Sound) (h : s.Counted) :
    s'.Counted := by
  cases hChange with
  | insertMedia hOk => exact h.insertMedia hSound hOk
  | deleteMedia id => exact h.deleteMedia hSound id now
  | setFavorite id isFavorite => exact h.quiet (quiet_setFavorite s id isFavorite now)
  | setRating id rating => exact h.setRating id rating now
  | setParent _ _ => exact h.quiet (quiet_setParent s _ _ now)
  | view _ => exact h.quiet (quiet_view s _ now)
  | insertTag _ hOk => exact h.insertTag hSound hOk
  | deleteTag id => exact h.deleteTag hSound id now
  | attach _ _ => exact h.attach _ _ now
  | detach mediaId tagId => exact h.detach hSound.once mediaId tagId now

end Store

end MediaLibrary
