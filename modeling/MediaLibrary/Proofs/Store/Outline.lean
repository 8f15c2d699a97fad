import Mathlib.Tactic.ByContra
import MediaLibrary.Store.Effect

/-!
# Store — what effects leave alone

Most effects move only counters, flags and times. The *outline* of a store is what
such effects leave alone: of every medium what identifies and describes it, of
every tag all but its use count, and the last ids. An effect is *quiet* if it leaves
alone the counters of tags as well.

* `Store.outline` — the outline of a store;
* `Store.Quiet` — one store follows quietly from another;
* `outline_attach`, `outline_detachAll`, … — attaching and detaching keep the outline;
* `attachments_detachAll` — the attachments that are left.
-/

namespace MediaLibrary

-- ---------------------------------------------------------------------------
-- Outlines
-- ---------------------------------------------------------------------------

/-- What identifies and describes a medium. -/
structure MediaCore where
  id : Int
  contentHash : String
  kind : String
  rating : String

/-- What identifies and describes the medium of a row. -/
def MediaRow.core (row : MediaRow) : MediaCore :=
  ⟨row.id, row.contentHash, row.kind, row.rating⟩

@[simp] theorem MediaRow.core_id (row : MediaRow) : row.core.id = row.id := rfl

/-- The tag of a row, as if nothing carried it. -/
def TagRow.unused (tag : TagRow) : TagRow :=
  { tag with usageCount := 0 }

@[simp] theorem TagRow.unused_id (tag : TagRow) : tag.unused.id = tag.id := rfl

@[simp] theorem TagRow.unused_category (tag : TagRow) : tag.unused.category = tag.category := rfl

/-- How many tags a medium counts, in all and by category. -/
structure MediaTally where
  id : Int
  all : Int
  general : Int
  metadata : Int
  artist : Int

/-- How many tags the medium of a row counts. -/
def MediaRow.tally (row : MediaRow) : MediaTally :=
  ⟨row.id, row.tagCount, row.tagCountGeneral, row.tagCountMetadata, row.tagCountArtist⟩

/-- The part of a store that counters, flags and times are about. -/
structure Outline where
  media : List MediaCore
  tags : List TagRow
  lastMediaId : Int
  lastTagId : Int

namespace Store

/-- The outline of a store. -/
def outline (s : Store) : Outline where
  media := s.media.map MediaRow.core
  tags := s.tags.map TagRow.unused
  lastMediaId := s.lastMediaId
  lastTagId := s.lastTagId

/-- The tags that the media of a store count. -/
def tallies (s : Store) : List MediaTally :=
  s.media.map MediaRow.tally

/-- Nothing has happened to the tags of media. -/
structure Quiet (s s' : Store) : Prop where
  outline : s'.outline = s.outline
  tallies : s'.tallies = s.tallies
  tags : s'.tags = s.tags
  attachments : s'.attachments = s.attachments

theorem Quiet.refl (s : Store) : s.Quiet s :=
  ⟨rfl, rfl, rfl, rfl⟩

/-- Two quiet changes are one. -/
theorem Quiet.trans {s s' s'' : Store} (h : s.Quiet s') (h' : s'.Quiet s'') : s.Quiet s'' :=
  ⟨h'.outline.trans h.outline, h'.tallies.trans h.tallies, h'.tags.trans h.tags,
    h'.attachments.trans h.attachments⟩

/-- Which media there are is part of the outline. -/
theorem hasMedia_of_outline {s s' : Store} (h : s'.outline = s.outline) :
    s'.hasMedia = s.hasMedia := by
  funext id
  have hAny (s : Store) : s.hasMedia id = s.outline.media.any (·.id == id) := by
    simp [hasMedia, outline, List.any_map, Function.comp_def]
  rw [hAny, hAny, h]

variable (s : Store)

-- ---------------------------------------------------------------------------
-- Single rows
-- ---------------------------------------------------------------------------

/-- A column that a change of one row keeps is kept in all rows. -/
theorem map_changeMedia {β : Type} (column : MediaRow → β) (id : Int) {f : MediaRow → MediaRow}
    (hf : ∀ row, column (f row) = column row) :
    (s.changeMedia id f).media.map column = s.media.map column := by
  rw [changeMedia, List.map_map]
  apply List.map_congr_left
  intro row _
  simp only [Function.comp_apply]
  split
  · exact hf row
  · rfl

/-- A column that a change of tags leaves alone stays as it is. -/
theorem map_changeTag {β : Type} (column : TagRow → β) (id : Int) {f : TagRow → TagRow}
    (hf : ∀ tag, column (f tag) = column tag) :
    (s.changeTag id f).tags.map column = s.tags.map column := by
  rw [changeTag, List.map_map]
  apply List.map_congr_left
  intro tag _
  simp only [Function.comp_apply]
  split
  · exact hf tag
  · rfl

/-- A change of one medium is quiet if it keeps the core and the tally of its row. -/
theorem quiet_changeMedia (id : Int) {f : MediaRow → MediaRow}
    (hCore : ∀ row, (f row).core = row.core) (hTally : ∀ row, (f row).tally = row.tally) :
    s.Quiet (s.changeMedia id f) where
  outline := by
    have hMap := s.map_changeMedia MediaRow.core id hCore
    simp only [outline, hMap]
    rfl
  tallies := s.map_changeMedia MediaRow.tally id hTally
  tags := rfl
  attachments := rfl

-- ---------------------------------------------------------------------------
-- Parents, flags and views
-- ---------------------------------------------------------------------------

/-- The mark of a parent is not in the outline. -/
theorem quiet_markParent (parent : Option Int) : s.Quiet (s.markParent parent) := by
  cases parent with
  | none => exact .refl s
  | some id => exact s.quiet_changeMedia id (fun _ => rfl) (fun _ => rfl)

/-- Setting this mark right is quiet. -/
theorem quiet_refreshParent (parent : Option Int) : s.Quiet (s.refreshParent parent) := by
  cases parent with
  | none => exact .refl s
  | some id => exact s.quiet_changeMedia id (fun _ => rfl) (fun _ => rfl)

/-- So is taking the parent away from children, -/
theorem quiet_orphan (id : Int) : s.Quiet (s.orphan id) := by
  have hMap : ∀ {β : Type} (column : MediaRow → β),
      (∀ row, column { row with parentId := none } = column row) →
      (s.orphan id).media.map column = s.media.map column := by
    intro β column hColumn
    rw [orphan, List.map_map]
    apply List.map_congr_left
    intro row _
    simp only [Function.comp_apply]
    split
    · exact hColumn row
    · rfl
  refine ⟨?_, hMap MediaRow.tally fun _ => rfl, rfl, rfl⟩
  simp only [outline, hMap MediaRow.core fun _ => rfl]
  rfl

/-- giving a medium another parent, -/
theorem quiet_setParent (id : Int) (parent : Option Int) (now : Int) :
    s.Quiet (s.setParent id parent now) := by
  unfold setParent
  split
  · exact .refl s
  · have hChange := s.quiet_changeMedia id (f := fun row =>
      { row with parentId := parent, updatedAt := now }) (fun _ => rfl) (fun _ => rfl)
    exact (hChange.trans (quiet_markParent _ parent)).trans (quiet_refreshParent _ _)

/-- marking a favourite, -/
theorem quiet_setFavorite (id : Int) (isFavorite : Bool) (now : Int) :
    s.Quiet (s.setFavorite id isFavorite now) :=
  s.quiet_changeMedia id (fun _ => rfl) (fun _ => rfl)

/-- and noting a view. -/
theorem quiet_view (id now : Int) : s.Quiet (s.view id now) := by
  have hViews : s.Quiet { s with
      views := s.views ++ [⟨s.lastViewId + 1, id, now⟩], lastViewId := s.lastViewId + 1 } :=
    ⟨rfl, rfl, rfl, rfl⟩
  exact hViews.trans (quiet_changeMedia _ id (fun _ => rfl) (fun _ => rfl))

-- ---------------------------------------------------------------------------
-- Attaching and detaching
-- ---------------------------------------------------------------------------

@[simp] theorem attachments_recount (mediaId tagId change now : Int) :
    (s.recount mediaId tagId change now).attachments = s.attachments := rfl

/-- Counters are not in the outline. -/
@[simp] theorem outline_recount (mediaId tagId change now : Int) :
    (s.recount mediaId tagId change now).outline = s.outline := by
  have hTags := s.map_changeTag TagRow.unused tagId
    (f := fun tag => { tag with usageCount := tag.usageCount + change }) fun _ => rfl
  have hMedia := map_changeMedia (s.changeTag tagId
    fun tag => { tag with usageCount := tag.usageCount + change }) MediaRow.core mediaId
    (f := recounted ((s.tagRow? tagId).map (·.category)) change now) fun _ => rfl
  have hRest : (s.recount mediaId tagId change now).tags =
      (s.changeTag tagId fun tag => { tag with usageCount := tag.usageCount + change }).tags := rfl
  simp only [outline, hRest, hTags]
  rw [recount, hMedia]
  rfl

/-- Attaching a tag changes attachments and counters alone. -/
@[simp] theorem outline_attach (mediaId tagId now : Int) :
    (s.attach mediaId tagId now).outline = s.outline := by
  unfold attach
  split
  · rfl
  · rw [outline_recount]
    rfl

/-- So does detaching one, -/
@[simp] theorem outline_detach (mediaId tagId now : Int) :
    (s.detach mediaId tagId now).outline = s.outline := by
  unfold detach
  split
  · rw [outline_recount]
    rfl
  · rfl

/-- A tag is attached behind all others, unless it is there already. -/
theorem attachments_attach (mediaId tagId now : Int) :
    (s.attach mediaId tagId now).attachments =
      if s.isAttached mediaId tagId then s.attachments
      else s.attachments ++ [⟨mediaId, tagId, now⟩] := by
  unfold attach
  split <;> rfl

/-- Detaching removes the attachments of the pair, be there any or not. -/
theorem attachments_detach (mediaId tagId now : Int) :
    (s.detach mediaId tagId now).attachments =
      s.attachments.filter fun a => !(a.mediaId == mediaId && a.tagId == tagId) := by
  unfold detach
  split
  · rfl
  · rename_i hAttached
    symm
    rw [List.filter_eq_self]
    intro a ha
    simp only [isAttached, List.any_eq_true, not_exists, not_and, Bool.not_eq_true] at hAttached
    rw [hAttached a ha]
    rfl

-- ---------------------------------------------------------------------------
-- Detaching many
-- ---------------------------------------------------------------------------

/-- What each detaching keeps, detaching many keeps. -/
theorem detachAll_induction {P : Store → Prop} {now : Int}
    (step : ∀ s mediaId tagId, P s → P (s.detach mediaId tagId now))
    (chosen : Attachment → Bool) (h : P s) : P (s.detachAll chosen now) := by
  unfold detachAll
  generalize s.attachments.filter chosen = list
  induction list generalizing s with
  | nil => exact h
  | cons a rest ih => exact ih _ (step s a.mediaId a.tagId h)

/-- and detaching many. -/
@[simp] theorem outline_detachAll (chosen : Attachment → Bool) (now : Int) :
    (s.detachAll chosen now).outline = s.outline := by
  apply detachAll_induction s (P := fun s' => s'.outline = s.outline) _ chosen rfl
  intro s' mediaId tagId h
  rw [outline_detach, h]

/-- Detaching a list of attachments leaves those whose pair is not in the list. -/
private theorem attachments_foldl_detach (now : Int) (list : List Attachment) :
    (list.foldl (fun s a => s.detach a.mediaId a.tagId now) s).attachments =
      s.attachments.filter fun x =>
        list.all fun a => !(x.mediaId == a.mediaId && x.tagId == a.tagId) := by
  induction list generalizing s with
  | nil => exact (List.filter_eq_self.mpr fun _ _ => rfl).symm
  | cons a rest ih =>
    rw [List.foldl_cons, ih, attachments_detach, List.filter_filter]
    apply List.filter_congr
    intro x _
    rw [List.all_cons, Bool.and_comm]

/-- Detaching many leaves the attachments that are not chosen, where the choice looks at nothing
but the medium and the tag. -/
theorem attachments_detachAll {chosen : Attachment → Bool} (now : Int)
    (hChosen : ∀ a b : Attachment,
      a.mediaId = b.mediaId → a.tagId = b.tagId → chosen a = chosen b) :
    (s.detachAll chosen now).attachments = s.attachments.filter fun a => !chosen a := by
  rw [detachAll, attachments_foldl_detach]
  apply List.filter_congr
  intro x hx
  rw [Bool.eq_iff_iff, List.all_eq_true]
  simp only [List.mem_filter, Bool.not_eq_true', and_imp]
  constructor
  · intro hAll
    by_contra hx'
    have := hAll x hx (by simpa using hx')
    simp at this
  · intro hx' a _ ha
    by_contra hPair
    simp only [Bool.not_eq_false, Bool.and_eq_true, beq_iff_eq] at hPair
    rw [hChosen x a hPair.1 hPair.2, ha] at hx'
    cases hx'

-- ---------------------------------------------------------------------------
-- Rows that come, go and are rated
-- ---------------------------------------------------------------------------

/-- A new medium stands last in the outline. -/
theorem outline_appendMedia (row : MediaRow) (lastMediaId : Int) :
    outline { s with media := s.media ++ [row], lastMediaId := lastMediaId } =
      { s.outline with media := s.outline.media ++ [row.core], lastMediaId := lastMediaId } := by
  simp [outline]

theorem outline_appendTag (tag : TagRow) (lastTagId : Int) :
    outline { s with tags := s.tags ++ [tag], lastTagId := lastTagId } =
      { s.outline with tags := s.outline.tags ++ [tag.unused], lastTagId := lastTagId } := by
  simp [outline]

/-- Deleting a medium takes it out of the outline, be it there or not. -/
theorem outline_deleteMedia (id now : Int) :
    (s.deleteMedia id now).outline =
      { s.outline with media := s.outline.media.filter (·.id != id) } := by
  unfold deleteMedia
  split
  · rename_i hNone
    have hKept : s.outline.media.filter (·.id != id) = s.outline.media := by
      rw [List.filter_eq_self]
      intro m hm
      obtain ⟨row, hRow, rfl⟩ := List.mem_map.mp hm
      simpa [bne] using List.find?_eq_none.mp hNone row hRow
    rw [hKept]
  · rw [(quiet_refreshParent _ _).outline, (quiet_orphan _ id).outline]
    show (detachAll _ _ now).outline = _
    rw [outline_detachAll]
    simp only [outline, List.filter_map]
    rfl

/-- Deleting a tag takes it out of the outline, be it there or not. -/
theorem outline_deleteTag (id now : Int) :
    (s.deleteTag id now).outline =
      { s.outline with tags := s.outline.tags.filter (·.id != id) } := by
  rw [← s.outline_detachAll (·.tagId == id) now, deleteTag]
  simp only [outline, List.filter_map]
  rfl

/-- With a tag its attachments go, and no others. -/
theorem attachments_deleteTag (id now : Int) :
    (s.deleteTag id now).attachments = s.attachments.filter (·.tagId != id) :=
  s.attachments_detachAll now fun a b _ hTag => by simp [hTag]

/-- Rating a medium changes its rating in the outline. -/
theorem outline_setRating (id : Int) (rating : Rating) (now : Int) :
    (s.setRating id rating now).outline =
      { s.outline with
        media := s.outline.media.map fun m =>
          if m.id == id then { m with rating := rating.name } else m } := by
  simp only [setRating, changeMedia, outline, List.map_map, Outline.mk.injEq, and_true]
  apply List.map_congr_left
  intro row _
  exact apply_ite MediaRow.core _ _ _

end Store

end MediaLibrary
