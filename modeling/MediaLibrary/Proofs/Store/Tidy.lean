import MediaLibrary.Proofs.Store.Chronicle
import MediaLibrary.Proofs.Text.Trim

/-!
# Store — names and views

Two more constraints that every change keeps. A tag is stored under a name that is
trimmed and not empty, since nothing but the insertion of a tag writes a name. And
what was viewed exists, since a medium that goes takes its views along.

* `Store.Tidy` — names are trimmed, and what was viewed exists;
* `Store.Change.tidy` — a change keeps a store tidy.
-/

namespace MediaLibrary

-- ---------------------------------------------------------------------------
-- Tidy stores
-- ---------------------------------------------------------------------------

namespace Store

/-- Names of tags are trimmed and not empty, and what was viewed exists. -/
structure Tidy (s : Store) : Prop where
  names : ∀ tag ∈ s.outline.tags, tag.name ≠ "" ∧ Text.IsTrimmed tag.name
  viewed : ∀ v ∈ s.views, ∃ m ∈ s.outline.media, m.id = v.mediaId

variable {s s' : Store} {id now : Int}

-- ---------------------------------------------------------------------------
-- All changes
-- ---------------------------------------------------------------------------

namespace Tidy

/-- What has the outline and the chronicle it had is as tidy as before. -/
theorem of_outline (h : s.Tidy) (hOutline : s'.outline = s.outline)
    (hChronicle : s'.chronicle = s.chronicle) : s'.Tidy where
  names := hOutline ▸ h.names
  viewed := by
    have hViews : s'.views = s.views := congrArg Chronicle.views hChronicle
    rw [hViews, hOutline]
    exact h.viewed

/-- A new medium keeps a store tidy: it names a parent that exists, or itself. -/
theorem insertMedia (h : s.Tidy) {m : NewMedia} (hOk : s.insertMedia m now = .ok (id, s')) :
    s'.Tidy := by
  obtain ⟨-, -, rfl⟩ := insertMedia_ok hOk
  refine of_outline ?_ (quiet_markParent _ _).outline (chronicle_markParent _ _)
  refine ⟨h.names, fun v hv => ?_⟩
  obtain ⟨m', hm', hId⟩ := h.viewed v hv
  rw [outline_appendMedia]
  exact ⟨m', List.mem_append_left _ hm', hId⟩

/-- A medium takes its views along. -/
theorem deleteMedia (h : s.Tidy) (id now : Int) : (s.deleteMedia id now).Tidy := by
  constructor
  · rw [outline_deleteMedia]
    exact h.names
  · cases hRow : s.mediaRow? id with
    | none =>
      have hSame : s.deleteMedia id now = s := by rw [Store.deleteMedia, hRow]
      rw [hSame]
      exact h.viewed
    | some row =>
      have hViews : (s.deleteMedia id now).views = s.views.filter (·.mediaId != id) :=
        congrArg Chronicle.views (chronicle_deleteMedia hRow now)
      rw [hViews, outline_deleteMedia]
      intro v hv
      rw [List.mem_filter] at hv
      obtain ⟨m, hm, hId⟩ := h.viewed v hv.1
      exact ⟨m, List.mem_filter.mpr ⟨hm, hId ▸ hv.2⟩, hId⟩

/-- A rating keeps a store tidy. -/
theorem setRating (h : s.Tidy) (id : Int) (rating : Rating) (now : Int) :
    (s.setRating id rating now).Tidy := by
  refine ⟨h.names, fun v hv => ?_⟩
  obtain ⟨m, hm, hId⟩ := h.viewed v hv
  rw [outline_setRating]
  refine ⟨_, List.mem_map_of_mem hm, ?_⟩
  split <;> exact hId

/-- So does a view of a medium that exists, -/
theorem view (h : s.Tidy) (hMedia : s.hasMedia id = true) (now : Int) : (s.view id now).Tidy := by
  have hOutline := (quiet_view s id now).outline
  constructor
  · rw [hOutline]
    exact h.names
  · intro v hv
    rw [hOutline]
    rcases List.mem_append.mp hv with hv | hv
    · exact h.viewed v hv
    · obtain rfl := List.mem_singleton.mp hv
      exact exists_core_of_hasMedia hMedia

/-- a new tag with a name that is trimmed and not empty, -/
theorem insertTag (h : s.Tidy) {tag : NewTag} (hName : (Text.trim tag.name).isEmpty = false)
    (hOk : s.insertTag { tag with name := Text.trim tag.name } now = .ok (id, s')) : s'.Tidy := by
  obtain ⟨-, -, rfl⟩ := insertTag_ok hOk
  refine ⟨fun tag' hTag' => ?_, h.viewed⟩
  rw [outline_appendTag] at hTag'
  rcases List.mem_append.mp hTag' with hTag' | hTag'
  · exact h.names tag' hTag'
  · obtain rfl := List.mem_singleton.mp hTag'
    refine ⟨?_, Text.isTrimmed_trim tag.name⟩
    rintro hEmpty
    have hTrim : Text.trim tag.name = "" := hEmpty
    rw [hTrim] at hName
    cases hName

/-- and the deletion of a tag. -/
theorem deleteTag (h : s.Tidy) (id now : Int) : (s.deleteTag id now).Tidy := by
  constructor
  · intro tag hTag
    rw [outline_deleteTag] at hTag
    exact h.names tag (List.mem_filter.mp hTag).1
  · have hViews : (s.deleteTag id now).views = s.views :=
      congrArg Chronicle.views (s.chronicle_detachAll _ now)
    rw [outline_deleteTag, hViews]
    exact h.viewed

end Tidy

/-- The new store is tidy. -/
theorem tidy_fresh (now : Int) : (Store.fresh now).Tidy := by
  constructor <;> simp [Store.fresh, outline]

/-- A change keeps a store tidy. -/
theorem Change.tidy (hChange : Change now s s') (h : s.Tidy) : s'.Tidy := by
  cases hChange with
  | insertMedia hOk => exact h.insertMedia hOk
  | deleteMedia id => exact h.deleteMedia id now
  | setFavorite id isFavorite =>
    exact h.of_outline (quiet_setFavorite s id isFavorite now).outline
      (s.chronicle_changeMedia id fun _ => rfl)
  | setRating id rating => exact h.setRating id rating now
  | setParent _ _ =>
    exact h.of_outline (quiet_setParent s _ _ now).outline (s.chronicle_setParent ..)
  | view hMedia => exact h.view hMedia now
  | insertTag hName hOk => exact h.insertTag hName hOk
  | deleteTag id => exact h.deleteTag id now
  | attach _ _ => exact h.of_outline (outline_attach ..) (chronicle_attach ..)
  | detach mediaId tagId => exact h.of_outline (outline_detach ..) (chronicle_detach ..)

end Store

end MediaLibrary
