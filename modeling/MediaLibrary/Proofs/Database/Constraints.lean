import MediaLibrary.Proofs.Database.Run
import MediaLibrary.Proofs.Store.Kinship
import MediaLibrary.Proofs.Store.Tidy
import MediaLibrary.Proofs.Text.Collation

/-!
# Database — the constraints of the tables

Some constraints stand in the tables, some are checked by operations, and some follow
from what a deletion takes along. Along a run they hold all together, whatever is
deleted and wherever a batch fails.

* `Database.Reachable.constrained` — every invariant of stores that constraints rest on;
* `constraints_of_reachable` — the constraints hold in every reachable database.
-/

namespace MediaLibrary

open Database (ready)

/-- The tables of a reachable database are sound and tidy, and its parents exist. -/
theorem Database.Reachable.constrained {db : Database} (h : db.Reachable) :
    ∃ s, db = ready s ∧ s.Sound ∧ s.Family ∧ s.Tidy :=
  h.induction (P := fun s => s.Sound ∧ s.Family ∧ s.Tidy)
    (fun now => ⟨Store.sound_fresh now, Store.family_fresh now, Store.tidy_fresh now⟩)
    fun _ _ _ hChange ⟨hSound, hFamily, hTidy⟩ =>
      ⟨hChange.sound hSound, hChange.family hSound hFamily, hChange.tidy hTidy⟩

namespace Store

variable {s : Store} {id : Int}

/-- Whatever the outline knows of a medium, there is a row of it. -/
theorem exists_row_of_core (h : ∃ m ∈ s.outline.media, m.id = id) :
    ∃ row ∈ s.media, row.id = id := by
  obtain ⟨m, hm, hId⟩ := h
  obtain ⟨row, hRow, rfl⟩ := List.mem_map.mp hm
  exact ⟨row, hRow, hId⟩

theorem exists_row_of_unused (h : ∃ tag ∈ s.outline.tags, tag.id = id) :
    ∃ tag ∈ s.tags, tag.id = id := by
  obtain ⟨tag, hTag, hId⟩ := h
  obtain ⟨row, hRow, rfl⟩ := List.mem_map.mp hTag
  exact ⟨row, hRow, hId⟩

end Store

/-- In every reachable database: no two media have one content; the name of a tag is not empty, is
trimmed, and is told from all others by more than the case of `A` to `Z`; a medium carries a tag
once, where both exist; what was viewed exists; and a parent exists. -/
theorem constraints_of_reachable {db : Database} (h : db.Reachable) :
    ∃ s, db.store = some s ∧
      s.media.Pairwise (fun a b => a.contentHash ≠ b.contentHash) ∧
      (∀ tag ∈ s.tags, tag.name ≠ "" ∧ Text.IsTrimmed tag.name) ∧
      s.tags.Pairwise (fun a b => Text.sameFolded a.name b.name = false) ∧
      (∀ a ∈ s.attachments,
        (∃ row ∈ s.media, row.id = a.mediaId) ∧ ∃ tag ∈ s.tags, tag.id = a.tagId) ∧
      s.attachments.Pairwise (fun a b => (a.mediaId, a.tagId) ≠ (b.mediaId, b.tagId)) ∧
      (∀ v ∈ s.views, ∃ row ∈ s.media, row.id = v.mediaId) ∧
      ∀ row ∈ s.media, ∀ p ∈ row.parentId, ∃ parent ∈ s.media, parent.id = p := by
  obtain ⟨s, rfl, hSound, hFamily, hTidy⟩ := h.constrained
  have hHashes := hSound.outline.hashes
  have hNames := hSound.outline.names
  simp only [Store.outline, List.pairwise_map] at hHashes hNames
  refine ⟨s, rfl, hHashes, ?_, ?_, ?_, ?_, ?_, ?_⟩
  · intro tag hTag
    exact hTidy.names tag.unused (List.mem_map_of_mem hTag)
  · exact hNames.imp fun hNot => beq_eq_false_iff_ne.mpr fun hSame => hNot (.of_fold_eq hSame)
  · intro a ha
    exact ⟨Store.exists_row_of_core (hSound.attachedMedia a ha),
      Store.exists_row_of_unused (hSound.attachedTag a ha)⟩
  · exact hSound.once.imp fun hOnce hPair => hOnce (Prod.mk.inj hPair)
  · intro v hv
    exact Store.exists_row_of_core (hTidy.viewed v hv)
  · intro row hRow p hp
    obtain ⟨kin, hKin, hId⟩ := hFamily.closed row.kin (List.mem_map_of_mem hRow) p hp
    obtain ⟨parent, hParent, rfl⟩ := List.mem_map.mp hKin
    exact ⟨parent, hParent, hId⟩

/-- A library with a child whose parent was viewed, tagged and then deleted, and on which a batch
failed at its second item. -/
def Database.orphanedImage : Database :=
  Database.afterAll [
    (.createMediaBatch [.image "a", { NewMedia.image "b" with parentId := some 1 }], 1),
    (.addTags 1 [⟨" Cat ", .general⟩], 2),
    (.addTags 2 [⟨"cAT", .artist⟩, ⟨"dog\t", .general⟩], 3),
    (.recordView 1, 4), (.recordView 2, 5), (.deleteMedia 1, 6),
    (.createMediaBatch [{ NewMedia.image "c" with parentId := some 2 }, .image "b"], 7)]
    ((Database.prepare 0).after {})

/-- The child is left, without a parent, with its view and its tags under trimmed names. -/
theorem constraints_of_orphanedImage :
    Database.orphanedImage.Reachable ∧ ∃ s, Database.orphanedImage.store = some s ∧
      s.media.map (fun row => (row.id, row.parentId)) = [(2, none)] ∧
      s.views.map (·.mediaId) = [2] ∧
      s.attachments.map (fun a => (a.mediaId, a.tagId)) = [(2, 1), (2, 2)] ∧
      (∀ tag ∈ s.tags, tag.name ≠ "" ∧ Text.IsTrimmed tag.name) ∧
      s.tags.map (·.name) = ["Cat", "dog"] := by
  have hReachable : Database.orphanedImage.Reachable := .afterAll (.prepared 0) _
  obtain ⟨s, hStore, -, hNames, -⟩ := constraints_of_reachable hReachable
  have hRows : Database.orphanedImage.store.map (fun s =>
      (s.media.map (fun row => (row.id, row.parentId)), s.views.map (·.mediaId),
        s.attachments.map (fun a => (a.mediaId, a.tagId)), s.tags.map (·.name))) =
      some ([(2, none)], [2], [(2, 1), (2, 2)], ["Cat", "dog"]) := by
    decide +kernel
  rw [hStore, Option.map_some, Option.some_inj] at hRows
  simp only [Prod.mk.injEq] at hRows
  obtain ⟨hMedia, hViews, hAttached, hTags⟩ := hRows
  exact ⟨hReachable, s, hStore, hMedia, hViews, hAttached, hNames, hTags⟩

end MediaLibrary
