import MediaLibrary.Proofs.Database.Run
import MediaLibrary.Proofs.Store.Attached

/-!
# Database — counters along runs

Whatever operations a database goes through, succeed or fail, the counters of its
media and tags say what the attachments say, and the list of the tags of a medium is
as long as its counter promises.

* `Database.Reachable.counted` — counters are right in every reachable database;
* `Database.tagsFor_on` — the tags of a medium, listed;
* `tag_counts_of_reachable` — counters, lists and attachments agree.
-/

namespace MediaLibrary

open Database (ready)

/-- The tables of a reachable database are sound and their counters right. -/
theorem Database.Reachable.counted {db : Database} (h : db.Reachable) :
    ∃ s, db = ready s ∧ s.Sound ∧ s.Counted :=
  h.induction (P := fun s => s.Sound ∧ s.Counted)
    (fun now => ⟨Store.sound_fresh now, Store.counted_fresh now⟩)
    fun _ _ _ hChange hs => ⟨hChange.sound hs.1, hChange.counted hs.1 hs.2⟩

namespace Store

variable {s : Store}

/-- The counters of a medium are the numbers of its tags. -/
theorem Counted.media (h : s.Counted) (hSound : s.Sound) {row : MediaRow} (hRow : row ∈ s.media) :
    row.tagCount = (s.tagsOf row.id).length ∧
      row.tagCountGeneral = (s.tagsIn row.id .general).length ∧
      row.tagCountMetadata = (s.tagsIn row.id .metadata).length ∧
      row.tagCountArtist = (s.tagsIn row.id .artist).length := by
  have hTally : row.tally ∈ s.tallies := List.mem_map_of_mem hRow
  have hIn (c : TagCategory) : row.tally.countOf c = (s.tagsIn row.id c).length := by
    have hPairs := hSound.pairs_of_media row.id fun tagId => s.category? tagId == some c.code
    rw [h.byCategory _ hTally c]
    refine hPairs.trans ?_
    congr 2
    apply List.filter_congr
    intro tag hTag
    rw [hSound.category?_of_mem (mem_tagsOf.mp hTag).1]
    rfl
  refine ⟨?_, hIn .general, hIn .metadata, hIn .artist⟩
  have hPairs := hSound.pairs_of_media row.id fun _ => true
  rw [List.filter_eq_self.mpr fun _ _ => rfl] at hPairs
  simp only [Bool.and_true] at hPairs
  exact (h.all _ hTally).trans hPairs

end Store

/-- Listing the tags of a medium changes nothing and finds all of them. -/
theorem Database.tagsFor_on {s : Store} (h : s.Sound) (mediaId : Int) :
    (Database.tagsFor mediaId).on (ready s) =
      (.ok (((s.tagsOf mediaId).mergeSort Store.listedBefore).map TagRow.read), ready s) := by
  have hDecode : ∀ tag ∈ (s.tagsOf mediaId).mergeSort Store.listedBefore,
      tag.decode = .ok tag.read := by
    intro tag hTag
    have hMem := (List.mergeSort_perm (s.tagsOf mediaId) Store.listedBefore).mem_iff.mp hTag
    obtain ⟨c, hc⟩ := h.exists_category (Store.mem_tagsOf.mp hMem).1
    exact TagRow.decode_of_code hc
  simp only [Database.tagsFor, Work.on_bind, Work.on_lock, Work.on_tables, Work.on_ofExcept,
    mapM_decode hDecode]

/-- In every reachable database the counters of every medium and every tag are the numbers of the
tags that it carries, in all and by category, and of the media that carry it. Listing the tags of a
medium gives just those, each once, by category and then in the order that the store has for names.
-/
theorem tag_counts_of_reachable {db : Database} (h : db.Reachable) :
    ∃ s, db.store = some s ∧
      (∀ row ∈ s.media,
        row.tagCount = (s.tagsOf row.id).length ∧
        row.tagCountGeneral = (s.tagsIn row.id .general).length ∧
        row.tagCountMetadata = (s.tagsIn row.id .metadata).length ∧
        row.tagCountArtist = (s.tagsIn row.id .artist).length ∧
        row.tagCount = row.tagCountGeneral + row.tagCountMetadata + row.tagCountArtist) ∧
      (∀ tag ∈ s.tags, tag.usageCount = (s.mediaOf tag.id).length) ∧
      ∀ mediaId, ∃ tags, (Database.tagsFor mediaId).on db = (.ok tags, db) ∧
        (∀ tag, tag ∈ tags ↔
          ∃ row ∈ s.tags, s.isAttached mediaId row.id = true ∧ row.decode = .ok tag) ∧
        tags.Pairwise Tag.Precedes ∧
        (tags.map (·.id)).Nodup ∧
        ∀ row ∈ s.media, row.id = mediaId → tags.length = row.tagCount := by
  obtain ⟨s, rfl, hSound, hCounted⟩ := h.counted
  refine ⟨s, rfl, ?_, ?_, ?_⟩
  · intro row hRow
    obtain ⟨hAll, hGeneral, hMetadata, hArtist⟩ := hCounted.media hSound hRow
    refine ⟨hAll, hGeneral, hMetadata, hArtist, ?_⟩
    have hSum := hSound.length_tagsOf row.id
    omega
  · intro tag hTag
    exact (hCounted.usage tag hTag).trans (hSound.pairs_of_tag tag.id)
  · intro mediaId
    have hPerm := List.mergeSort_perm (s.tagsOf mediaId) Store.listedBefore
    refine ⟨_, Database.tagsFor_on hSound mediaId, ?_, ?_, ?_, ?_⟩
    · intro tag
      rw [List.mem_map]
      constructor
      · rintro ⟨row, hRow, rfl⟩
        obtain ⟨hMem, hAttached⟩ := Store.mem_tagsOf.mp (hPerm.mem_iff.mp hRow)
        obtain ⟨c, hc⟩ := hSound.exists_category hMem
        exact ⟨row, hMem, hAttached, TagRow.decode_of_code hc⟩
      · rintro ⟨row, hMem, hAttached, hDecode⟩
        exact ⟨row, hPerm.mem_iff.mpr (Store.mem_tagsOf.mpr ⟨hMem, hAttached⟩),
          (TagRow.eq_read hDecode).symm⟩
    · exact List.pairwise_map.mpr (hSound.precedes mediaId)
    · rw [List.map_map]
      refine (hPerm.map _).nodup_iff.mpr (List.pairwise_map.mpr ?_)
      exact (hSound.tags_ids.filter _).imp Int.ne_of_lt
    · rintro row hRow rfl
      rw [List.length_map, hPerm.length_eq]
      exact (hCounted.media hSound hRow).1.symm

/-- Two names in three spellings are two tags, of which one is an artist. -/
theorem tag_counts_of_taggedImage :
    Database.taggedImage.Reachable ∧ ∃ s, Database.taggedImage.store = some s ∧
      (s.tagsOf 1).length = 2 ∧ (s.tagsIn 1 .artist).length = 1 ∧
      ∃ tags, (Database.tagsFor 1).on Database.taggedImage = (.ok tags, Database.taggedImage) ∧
        tags.length = 2 := by
  have hReachable := Database.reachable_taggedImage
  obtain ⟨s, hStore, hMedia, -, hLists⟩ := tag_counts_of_reachable hReachable
  have hCounts : Database.taggedImage.store.map (fun s => s.media.map fun row =>
      (row.id, row.tagCount, row.tagCountArtist)) = some [(1, 2, 1)] := by
    decide +kernel
  rw [hStore, Option.map_some, Option.some_inj] at hCounts
  obtain ⟨row, hRow, hEq⟩ : ∃ row ∈ s.media,
      (row.id, row.tagCount, row.tagCountArtist) = (1, 2, 1) :=
    List.mem_map.mp (hCounts ▸ List.mem_singleton_self _)
  obtain ⟨hId, hCount, hArtist⟩ : row.id = 1 ∧ row.tagCount = 2 ∧ row.tagCountArtist = 1 := by
    simpa using hEq
  obtain ⟨hAll, -, -, hArtists, -⟩ := hMedia row hRow
  obtain ⟨tags, hTags, -, -, -, hLength⟩ := hLists 1
  have hLength := hLength row hRow hId
  rw [hId] at hAll hArtists
  exact ⟨hReachable, s, hStore, by omega, by omega, tags, hTags, by omega⟩

/-- The shorter one of two names with a NUL is listed first, though the other one comes before it in
letters. -/
theorem tags_listed_of_hiddenNames :
    Database.hiddenNames.Reachable ∧ ∃ tags,
      (Database.tagsFor 1).on Database.hiddenNames = (.ok tags, Database.hiddenNames) ∧
      tags.map (fun tag => (tag.name, tag.category)) =
        [("a\x00z", .general), ("a\x00ab", .general)] ∧
      Text.fold "a\x00ab" < Text.fold "a\x00z" := by
  obtain ⟨s, hReady, hSound⟩ := Database.reachable_hiddenNames.sound
  have hTags := Database.holds_of_ready hReady (fun s =>
    s.tagsOf 1 = [⟨1, "a\x00ab", 0, 1, 2⟩, ⟨2, "a\x00z", 0, 1, 2⟩]) (by decide +kernel)
  have hOn := Database.tagsFor_on hSound 1
  rw [hTags, mergeSort_pair, if_neg (by decide +kernel), ← hReady] at hOn
  exact ⟨Database.reachable_hiddenNames, _, hOn, rfl, by decide +kernel⟩

end MediaLibrary
