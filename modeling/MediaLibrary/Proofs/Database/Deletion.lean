import MediaLibrary.Proofs.Database.Constraints
import MediaLibrary.Proofs.Search.Found
import MediaLibrary.Proofs.Store.Deletion

/-!
# Database — deletions and their footprint

A deletion answers whether there was something to delete. Where there was, the tables are
left without it, and nothing moves but what the deletion of a row entails: what hangs on it
goes along, and who counted it or named it counts or names it no more.

* `Database.deleteMedia_on`, `Database.deleteTag_on` — deletions answer and leave a store;
* `deletion_of_media` — the footprint of deleting a medium;
* `Store.not_carries_withoutTag` — the name of a tag that goes is carried by no medium;
* `deletion_of_tag` — the footprint of deleting a tag.
-/

namespace MediaLibrary

open Database (ready)
open Selection

-- ---------------------------------------------------------------------------
-- Media
-- ---------------------------------------------------------------------------

namespace Database

open Work

/-- Changing a medium tells whether it exists. -/
theorem changeFor_on (s : Store) (id : Int) (change : Store → Store) :
    (changeFor id change).on (ready s) = (.ok (s.hasMedia id), ready (change s)) := by
  simp only [changeFor, on_bind, on_tables, on_put, on_pure]

theorem deleteMedia_on (s : Store) (id now : Int) :
    (deleteMedia id now).on (ready s) = (.ok (s.hasMedia id), ready (s.deleteMedia id now)) := by
  simp only [deleteMedia, on_bind, on_lock, changeFor_on]

end Database

/-- In every reachable database, deleting a medium that exists tells so and leaves the tables
without it: its row is gone with its attachments and views; the tags that it carried are used by one
medium less; its children have no parent, and its parent is marked as one if another medium names
it; no other row has changed in any column, and ids go on as before. Deleting one that does not
exist tells so and changes nothing. -/
theorem deletion_of_media {db : Database} (h : db.Reachable) (id now : Int) :
    ∃ s, db = ready s ∧
      (∀ m ∈ s.media, m.id = id →
        (Database.deleteMedia id now).on db = (.ok true, ready (s.withoutMedia m))) ∧
      ((∀ m ∈ s.media, m.id ≠ id) → (Database.deleteMedia id now).on db = (.ok false, db)) := by
  obtain ⟨s, rfl, hSound⟩ := h.sound
  refine ⟨s, rfl, ?_, ?_⟩
  · rintro m hm rfl
    have hHas : s.hasMedia m.id = true := List.any_eq_true.mpr ⟨m, hm, beq_self_eq_true _⟩
    rw [Database.deleteMedia_on, hHas, hSound.deleteMedia_eq hm]
  · intro hNone
    have hOther : ∀ m ∈ s.media, ¬(m.id == id) = true := by simpa using hNone
    have hHas : s.hasMedia id = false := List.any_eq_false.mpr hOther
    have hRow : s.mediaRow? id = none := List.find?_eq_none.mpr hOther
    rw [Database.deleteMedia_on, hHas, Store.deleteMedia, hRow]

/-- A library with two images that name each other as parents and a third one below the first. The
first two share a tag, and the first was viewed. -/
def Database.circle : Database :=
  Database.afterAll [
    (.createMediaBatch [.image "a", { NewMedia.image "b" with parentId := some 1 },
      { NewMedia.image "c" with parentId := some 1 }], 1),
    (.setParent 1 (some 2), 2), (.recordView 1, 3), (.recordView 2, 4),
    (.addTags 1 [⟨"cat", .general⟩, ⟨"Ada", .artist⟩], 5), (.addTags 2 [⟨"Cat", .general⟩], 6)]
    ((Database.prepare 0).after {})

theorem Database.reachable_circle : Database.circle.Reachable :=
  .afterAll (.prepared 0) _

/-- The second image is left without a parent and as none, the third one without a parent. -/
theorem deletion_of_media_in_circle :
    Database.circle.Reachable ∧ ∃ s m, Database.circle = ready s ∧ m ∈ s.media ∧
      (Database.deleteMedia 1 7).on Database.circle = (.ok true, ready (s.withoutMedia m)) ∧
      (s.withoutMedia m).media.map (fun row =>
        (row.id, row.parentId, row.hasChildren, row.updatedAt)) =
        [(2, none, false, 6), (3, none, false, 1)] ∧
      (s.withoutMedia m).tags.map (fun tag => (tag.name, tag.usageCount)) =
        [("cat", 1), ("Ada", 0)] ∧
      (Database.deleteMedia 4 7).on Database.circle = (.ok false, Database.circle) := by
  obtain ⟨s, hReady, hDelete, -⟩ := deletion_of_media Database.reachable_circle 1 7
  obtain ⟨m, hm, hId, hLeft, hTags⟩ := Database.holds_of_ready hReady (fun s =>
    ∃ m ∈ s.media, m.id = 1 ∧
      (s.withoutMedia m).media.map (fun row =>
        (row.id, row.parentId, row.hasChildren, row.updatedAt)) =
        [(2, none, false, 6), (3, none, false, 1)] ∧
      (s.withoutMedia m).tags.map (fun tag => (tag.name, tag.usageCount)) =
        [("cat", 1), ("Ada", 0)]) (by decide +kernel)
  have hNoFourth := Database.holds_of_ready hReady (fun s => ∀ row ∈ s.media, row.id ≠ 4)
    (by decide +kernel)
  refine ⟨Database.reachable_circle, s, m, hReady, hm, hDelete m hm hId, hLeft, hTags, ?_⟩
  obtain ⟨s', hReady', -, hNone⟩ := deletion_of_media Database.reachable_circle 4 7
  obtain rfl : s' = s := Option.some.inj (congrArg Database.store (hReady'.symm.trans hReady))
  exact hNone hNoFourth

-- ---------------------------------------------------------------------------
-- Tags
-- ---------------------------------------------------------------------------

theorem Database.deleteTag_on (s : Store) (id now : Int) :
    (Database.deleteTag id now).on (ready s) =
      (.ok (s.tagRow? id).isSome, ready (s.deleteTag id now)) := by
  simp only [Database.deleteTag, Work.on_transaction, Work.on_bind, Work.on_tables, Work.on_put,
    Work.on_pure]

/-- The text names the tag, blanks around it and the case of `A` to `Z` aside. -/
def TagRow.IsNamed (tag : TagRow) (name : String) : Prop :=
  Text.fold tag.name = Text.fold (Text.trim name)

namespace Store

variable {s : Store} {tag : TagRow}

/-- No other tag has the name of a tag, so no medium carries the name when the tag is gone. -/
theorem not_carriesSame_withoutTag (h : s.Sound) (hTag : tag ∈ s.tags) {name : String}
    (hName : tag.IsNamed name) (mediaId now : Int) :
    ¬(s.withoutTag tag now).CarriesSame mediaId name := by
  rintro ⟨other, hOther, -, hSame⟩
  obtain ⟨hMem, hId⟩ := List.mem_filter.mp hOther
  have hEq : other = tag :=
    h.eq_of_names hMem hTag (hSame.trans (Text.OneName.of_fold_eq hName).symm)
  simp [hEq] at hId

end Store

/-- In every reachable database, deleting a tag that exists tells so and leaves the tables without
it: its row is gone with its attachments; the media that carried it count one tag less, in all and
of its category, and have changed now; no other row has changed in any column, and ids go on as
before. No medium carries its name any more, so no query selects one for it: a query that includes
the name selects nothing, and one that has it among its optional names selects a medium for another
one of them, which the medium carries, at least to the store. Deleting a tag that does not exist
tells so and changes nothing. -/
theorem deletion_of_tag {db : Database} (h : db.Reachable) (id now : Int) :
    ∃ s, db = ready s ∧
      (∀ tag ∈ s.tags, tag.id = id →
        (Database.deleteTag id now).on db = (.ok true, ready (s.withoutTag tag now)) ∧
        (∀ mediaId name, tag.IsNamed name → ¬(s.withoutTag tag now).Carries mediaId name) ∧
        ∀ q f sel, compile q f = .ok sel → ∀ row ∈ sel.rows (s.withoutTag tag now),
          (∀ name ∈ q.included, ¬tag.IsNamed name) ∧
          (q.optional ≠ [] → ∃ name ∈ q.optional, ¬tag.IsNamed name ∧
            (s.withoutTag tag now).CarriesSame row.id name ∧
            ('\x00' ∉ name.toList → (s.withoutTag tag now).Carries row.id name))) ∧
      ((∀ tag ∈ s.tags, tag.id ≠ id) → (Database.deleteTag id now).on db = (.ok false, db)) := by
  obtain ⟨s, rfl, hSound⟩ := h.sound
  refine ⟨s, rfl, ?_, ?_⟩
  · rintro tag hTag rfl
    have hNot {name : String} (hName : tag.IsNamed name) (mediaId : Int) :=
      Store.not_carriesSame_withoutTag hSound hTag hName mediaId now
    refine ⟨?_, fun mediaId name hName hCarries => hNot hName mediaId hCarries.same, ?_⟩
    · rw [Database.deleteTag_on, Store.tagRow?, Store.find?_of_ids hSound.tags_ids hTag,
        hSound.deleteTag_eq hTag]
      rfl
    · intro q f sel hSel row hRow
      have hAfter : (s.withoutTag tag now).Sound :=
        hSound.deleteTag_eq hTag ▸ hSound.deleteTag tag.id now
      obtain ⟨hMem, hHolds⟩ := List.mem_filter.mp hRow
      obtain ⟨kind, rating, hKind, hRating⟩ := hAfter.exists_words hMem
      obtain ⟨hDemands, -⟩ := (holdsFor_iff_demands hSel hKind hRating).mp hHolds
      refine ⟨fun name hName hNamed => hNot hNamed row.id (hDemands.included name hName), ?_⟩
      intro hOptional
      obtain ⟨name, hName, hCarries⟩ := hDemands.optional hOptional
      exact ⟨name, hName, fun hNamed => hNot hNamed row.id hCarries, hCarries,
        fun hNul => (Store.carriesSame_iff hNul row.id).mp hCarries⟩
  · intro hNone
    have hRow : s.tagRow? id = none := List.find?_eq_none.mpr (by simpa using hNone)
    rw [Database.deleteTag_on, hRow, hSound.deleteTag_eq_self hNone]
    rfl

/-- Deleting the tag that two of the images share leaves them with one and with no tag, and the
third one as it was. -/
theorem deletion_of_tag_in_circle :
    Database.circle.Reachable ∧ ∃ s tag, Database.circle = ready s ∧ tag ∈ s.tags ∧
      (Database.deleteTag 1 7).on Database.circle = (.ok true, ready (s.withoutTag tag 7)) ∧
      (s.withoutTag tag 7).media.map (fun row =>
        (row.tagCount, row.tagCountGeneral, row.tagCountArtist, row.updatedAt)) =
        [(1, 0, 1, 7), (0, 0, 0, 7), (0, 0, 0, 1)] ∧
      ¬(s.withoutTag tag 7).Carries 1 " CAT" := by
  obtain ⟨s, hReady, hDelete, -⟩ := deletion_of_tag Database.reachable_circle 1 7
  obtain ⟨tag, hMem, hId, hName, hMedia⟩ := Database.holds_of_ready hReady (fun s =>
    ∃ tag ∈ s.tags, tag.id = 1 ∧ tag.name = "cat" ∧
      (s.withoutTag tag 7).media.map (fun row =>
        (row.tagCount, row.tagCountGeneral, row.tagCountArtist, row.updatedAt)) =
        [(1, 0, 1, 7), (0, 0, 0, 7), (0, 0, 0, 1)]) (by decide +kernel)
  obtain ⟨hOn, hNot, -⟩ := hDelete tag hMem hId
  have hNamed : tag.IsNamed " CAT" := by
    rw [TagRow.IsNamed, hName]
    cbv
  exact ⟨Database.reachable_circle, s, tag, hReady, hMem, hOn, hMedia, hNot 1 _ hNamed⟩

end MediaLibrary
