import MediaLibrary.Proofs.Database.Deletion
import MediaLibrary.Proofs.Store.Writing

/-!
# Database — creating a medium

A medium is created if its content is new and its parent exists or is the medium itself. The
content is looked at first, so a content that is stored already is what a refusal tells. What
was created is read back as it was given, by its id and by its content.

* `NewMedia.record`, `KeepsLength` — the medium that is created, and its length;
* `Database.createMedia_on` — creating answers and leaves a store;
* `Database.getMedia_on`, `Database.getMediaByHash_on` — a medium is read;
* `creation_of_media` — which media are created, and what this leaves.
-/

namespace MediaLibrary

open Database (ready)

-- ---------------------------------------------------------------------------
-- Media as they are created
-- ---------------------------------------------------------------------------

/-- The medium that is created with an id at a time: as it was asked for, viewed by nobody and
without tags. It is a parent only if it is its own one. -/
def NewMedia.record (m : NewMedia) (id now : Int) : Media where
  id := id
  contentHash := m.contentHash
  fileExt := m.fileExt
  kind := m.kind
  mimeType := m.mimeType
  fileSize := m.fileSize
  width := m.width
  height := m.height
  duration := m.duration
  rating := m.rating
  isFavorite := false
  tagCount := 0
  tagCountGeneral := 0
  tagCountMetadata := 0
  tagCountArtist := 0
  parentId := m.parentId
  hasChildren := m.parentId == some id
  viewCount := 0
  createdAt := m.createdAt.getD now
  updatedAt := now
  lastViewedAt := none

/-- What is kept of a length: the number that was given, but of a zero no sign, and nothing of what
is no number. -/
inductive KeepsLength : Option Float → Option Float → Prop
  | absent : KeepsLength none none
  | zero {given : Float} (hZero : (given == 0.0) = true) : KeepsLength (some given) (some 0.0)
  | number {given : Float} (hNumber : given.isNaN = false) (hSome : (given == 0.0) = false) :
      KeepsLength (some given) (some given)
  | notANumber {given : Float} (hNone : given.isNaN = true) : KeepsLength (some given) none

namespace Store

variable {s : Store} {m : NewMedia} {now : Int}

/-- A length is stored as it is, but for the sign of a zero and what is no number. -/
theorem keepsLength_stored (length : Option Float) :
    KeepsLength length (length.bind storedLength) := by
  cases length with
  | none => exact .absent
  | some seconds =>
    rw [Option.bind_some, storedLength]
    split
    · rename_i hNone
      exact .notANumber hNone
    · rename_i hNumber
      split
      · rename_i hZero
        exact .zero hZero
      · rename_i hSome
        exact .number (Bool.eq_false_iff.mpr hNumber) (Bool.eq_false_iff.mpr hSome)

/-- The new row is read as the record that was given, but for its length. -/
theorem read_nextRow (s : Store) (m : NewMedia) (now : Int) :
    (s.nextRow m now).read = { m.record (s.lastMediaId + 1) now with
      duration := m.duration.bind storedLength } := by
  simp [MediaRow.read, nextRow, newMediaRow, NewMedia.record]

/-- The words of a new row are known ones. -/
theorem decode_nextRow (s : Store) (m : NewMedia) (now : Int) :
    (s.nextRow m now).decode = .ok (s.nextRow m now).read := by
  have hKind : (s.nextRow m now).kind = m.kind.name := rfl
  have hRating : (s.nextRow m now).rating = m.rating.name := rfl
  exact MediaRow.decode_of_words hKind hRating

theorem mem_withMedia (s : Store) (m : NewMedia) (now : Int) :
    s.nextRow m now ∈ (s.withMedia m now).media :=
  List.mem_append_right _ (List.mem_singleton_self _)

/-- The new medium is found by its id. -/
theorem mediaRow?_withMedia (h : (s.withMedia m now).Sound) :
    (s.withMedia m now).mediaRow? (s.lastMediaId + 1) = some (s.nextRow m now) :=
  find?_of_ids h.media_ids (s.mem_withMedia m now)

/-- The new medium is found by its content, which no other one has. -/
theorem mediaRowByHash?_withMedia (hNew : ¬s.HasContent m.contentHash) :
    (s.withMedia m now).mediaRowByHash? m.contentHash = some (s.nextRow m now) := by
  refine find?_of_unique (s.mem_withMedia m now) (beq_self_eq_true _) fun row hRow hHash => ?_
  rcases List.mem_append.mp hRow with hOld | hLast
  · obtain ⟨old, hMem, rfl⟩ := List.mem_map.mp hOld
    refine absurd ⟨old, hMem, ?_⟩ hNew
    split at hHash <;> exact beq_iff_eq.mp hHash
  · exact List.mem_singleton.mp hLast

end Store

-- ---------------------------------------------------------------------------
-- Operations
-- ---------------------------------------------------------------------------

namespace Database

open Work

/-- A creation is an insertion into the tables. -/
theorem createMedia_on (s : Store) (m : NewMedia) (now : Int) :
    (createMedia m now).on (ready s) = (inserted (s.insertMedia m now)).on (ready s) := by
  simp only [createMedia, insertMedia, on_bind, on_lock, on_tables]

/-- A row that is found and stands for a medium is answered as this medium. -/
theorem getMedia_on {s : Store} {id : Int} {row : MediaRow} {media : Media}
    (hRow : s.mediaRow? id = some row) (hDecode : row.decode = .ok media) :
    (getMedia id).on (ready s) = (.ok (some media), ready s) := by
  simp only [getMedia, decodeMedia?, on_bind, on_lock, on_tables, on_ofExcept, hRow,
    Option.mapM_some, hDecode]
  rfl

/-- A row that is found by its content is read. -/
theorem getMediaByHash_on {s : Store} {contentHash : String} {row : MediaRow} {media : Media}
    (hRow : s.mediaRowByHash? contentHash = some row) (hDecode : row.decode = .ok media) :
    (getMediaByHash contentHash).on (ready s) = (.ok (some media), ready s) := by
  simp only [getMediaByHash, decodeMedia?, on_bind, on_lock, on_tables, on_ofExcept, hRow,
    Option.mapM_some, hDecode]
  rfl

variable {s : Store} {m : NewMedia}

/-- A medium with new content and a parent that is accepted gets the next id. -/
theorem createMedia_new (hNew : ¬s.HasContent m.contentHash) (hParent : s.AcceptsParent m.parentId)
    (now : Int) : (createMedia m now).on (ready s) =
      (.ok (s.lastMediaId + 1), ready (s.withMedia m now)) := by
  rw [createMedia_on, Store.insertMedia_new hNew hParent, on_inserted]

/-- The new medium is read by its id as it was asked for, but for its length. -/
theorem getMedia_withMedia (h : s.Sound) (hNew : ¬s.HasContent m.contentHash)
    (hParent : s.AcceptsParent m.parentId) (now : Int) :
    (getMedia (s.lastMediaId + 1)).on (ready (s.withMedia m now)) =
      (.ok (some { m.record (s.lastMediaId + 1) now with
        duration := m.duration.bind Store.storedLength }), ready (s.withMedia m now)) := by
  have hAfter : (s.withMedia m now).Sound := h.insertMedia (Store.insertMedia_new hNew hParent)
  rw [getMedia_on (Store.mediaRow?_withMedia hAfter) (s.decode_nextRow m now), s.read_nextRow]

/-- So it is by its content. -/
theorem getMediaByHash_withMedia (hNew : ¬s.HasContent m.contentHash) (now : Int) :
    (getMediaByHash m.contentHash).on (ready (s.withMedia m now)) =
      (.ok (some { m.record (s.lastMediaId + 1) now with
        duration := m.duration.bind Store.storedLength }), ready (s.withMedia m now)) := by
  rw [getMediaByHash_on (Store.mediaRowByHash?_withMedia hNew) (s.decode_nextRow m now),
    s.read_nextRow]

end Database

/-- In every reachable database a medium is created just if no medium has its content and its
parent, if any, exists or is the medium itself. A content that is stored is refused as such,
whatever the parent; otherwise a parent that does not exist is refused, and a refusal changes
nothing. A medium that is created has the next id, and is read by this id and by its content as the
same record: as it was asked for, created at the given time or now, changed now, with all counters
at zero, and as a parent only if it is its own. Its length is the number that was given, but a zero
has no sign, and what is no number is no length. Apart from the new row, the mark of its parent is
all that may have changed. -/
theorem creation_of_media {db : Database} (h : db.Reachable) (m : NewMedia) (now : Int) :
    ∃ s, db = ready s ∧
      ((∃ id db', (Database.createMedia m now).on db = (.ok id, db')) ↔
        ¬s.HasContent m.contentHash ∧ s.AcceptsParent m.parentId) ∧
      (s.HasContent m.contentHash →
        (Database.createMedia m now).on db = (.error (.storage .duplicateHash), db)) ∧
      (¬s.HasContent m.contentHash → ¬s.AcceptsParent m.parentId →
        (Database.createMedia m now).on db = (.error (.storage .missingReference), db)) ∧
      ∀ id db', (Database.createMedia m now).on db = (.ok id, db') →
        id = s.lastMediaId + 1 ∧ db' = ready (s.withMedia m now) ∧
        ∃ length media, KeepsLength m.duration length ∧
          media = { m.record id now with duration := length } ∧
          (Database.getMedia id).on db' = (.ok (some media), db') ∧
          (Database.getMediaByHash m.contentHash).on db' = (.ok (some media), db') := by
  obtain ⟨s, rfl, hSound⟩ := h.sound
  have hKnown (hHas : s.HasContent m.contentHash) :
      (Database.createMedia m now).on (ready s) = (.error (.storage .duplicateHash), ready s) := by
    rw [Database.createMedia_on, Store.insertMedia_known hHas, Work.on_inserted]
  have hOrphan (hNew : ¬s.HasContent m.contentHash) (hParent : ¬s.AcceptsParent m.parentId) :
      (Database.createMedia m now).on (ready s) =
        (.error (.storage .missingReference), ready s) := by
    rw [Database.createMedia_on, Store.insertMedia_orphan hNew hParent, Work.on_inserted]
  have hAccepted {id : Int} {db' : Database}
      (hOn : (Database.createMedia m now).on (ready s) = (.ok id, db')) :
      ¬s.HasContent m.contentHash ∧ s.AcceptsParent m.parentId := by
    by_cases hHas : s.HasContent m.contentHash
    · rw [hKnown hHas] at hOn
      cases hOn
    · by_cases hParent : s.AcceptsParent m.parentId
      · exact ⟨hHas, hParent⟩
      · rw [hOrphan hHas hParent] at hOn
        cases hOn
  refine ⟨s, rfl, ⟨?_, ?_⟩, hKnown, hOrphan, ?_⟩
  · rintro ⟨id, db', hOn⟩
    exact hAccepted hOn
  · rintro ⟨hNew, hParent⟩
    exact ⟨_, _, Database.createMedia_new hNew hParent now⟩
  · intro id db' hOn
    obtain ⟨hNew, hParent⟩ := hAccepted hOn
    rw [Database.createMedia_new hNew hParent] at hOn
    cases hOn
    exact ⟨rfl, rfl, _, _, Store.keepsLength_stored m.duration, rfl,
      Database.getMedia_withMedia hSound hNew hParent now,
      Database.getMediaByHash_withMedia hNew now⟩

/-- An image that is stored is refused for its content, though its parent does not exist either. A
new one is not accepted with this parent; as its own parent it is, and the third image becomes the
parent of another one. -/
theorem creation_of_media_in_circle :
    Database.circle.Reachable ∧
      (Database.createMedia { NewMedia.image "a" with parentId := some 9 } 7).on Database.circle =
        (.error (.storage .duplicateHash), Database.circle) ∧
      (Database.createMedia { NewMedia.image "d" with parentId := some 9 } 7).on Database.circle =
        (.error (.storage .missingReference), Database.circle) ∧
      (∃ db' media,
        (Database.createMedia { NewMedia.image "d" with
          duration := some 2.5, parentId := some 4, createdAt := some 2 } 7).on Database.circle =
            (.ok 4, db') ∧
        (Database.getMedia 4).on db' = (.ok (some media), db') ∧
        (Database.getMediaByHash "d").on db' = (.ok (some media), db') ∧
        media.duration = some 2.5 ∧
        (media.parentId, media.hasChildren, media.createdAt, media.updatedAt) =
          (some 4, true, 2, 7)) ∧
      ∃ s, Database.circle = ready s ∧ s.media.map (·.hasChildren) = [true, true, false] ∧
        (Database.createMedia { NewMedia.image "d" with parentId := some 3 } 7).on
          Database.circle =
            (.ok 4, ready (s.withMedia { NewMedia.image "d" with parentId := some 3 } 7)) ∧
        (s.withMedia { NewMedia.image "d" with parentId := some 3 } 7).media.map (·.hasChildren) =
          [true, true, true, false] := by
  have hCreate := creation_of_media Database.reachable_circle
  refine ⟨Database.reachable_circle, ?_, ?_, ?_, ?_⟩
  · obtain ⟨s, hReady, -, hKnown, -⟩ := hCreate { NewMedia.image "a" with parentId := some 9 } 7
    exact hKnown (Database.holds_of_ready hReady (·.HasContent "a") (by decide +kernel))
  · obtain ⟨s, hReady, -, -, hOrphan, -⟩ :=
      hCreate { NewMedia.image "d" with parentId := some 9 } 7
    exact hOrphan (Database.holds_of_ready hReady (¬·.HasContent "d") (by decide +kernel))
      (Database.holds_of_ready hReady (¬·.AcceptsParent (some 9)) (by decide +kernel))
  · obtain ⟨s, hReady, hIff, -, -, hRead⟩ :=
      hCreate { NewMedia.image "d" with
        duration := some 2.5, parentId := some 4, createdAt := some 2 } 7
    obtain ⟨id, db', hOn⟩ := hIff.mpr
      ⟨Database.holds_of_ready hReady (¬·.HasContent "d") (by decide +kernel),
      Database.holds_of_ready hReady (·.AcceptsParent (some 4)) (by decide +kernel)⟩
    obtain ⟨rfl, -, length, media, hKeeps, rfl, hById, hByHash⟩ := hRead id db' hOn
    have hLength : length = some 2.5 := by
      cases hKeeps with
      | zero hZero => exact absurd hZero (by decide)
      | number => rfl
      | notANumber hNone => exact absurd hNone (by decide)
    have hLast : s.lastMediaId + 1 = 4 :=
      Database.holds_of_ready hReady (·.lastMediaId + 1 = 4) (by decide +kernel)
    rw [hLast] at hOn hById hByHash
    exact ⟨db', _, hOn, hById, hByHash, hLength, rfl⟩
  · obtain ⟨s, hReady, hIff, -, -, hRead⟩ :=
      hCreate { NewMedia.image "d" with parentId := some 3 } 7
    obtain ⟨id, db', hOn⟩ := hIff.mpr
      ⟨Database.holds_of_ready hReady (¬·.HasContent "d") (by decide +kernel),
      Database.holds_of_ready hReady (·.AcceptsParent (some 3)) (by decide +kernel)⟩
    obtain ⟨rfl, rfl, -⟩ := hRead id db' hOn
    have hLast : s.lastMediaId + 1 = 4 :=
      Database.holds_of_ready hReady (·.lastMediaId + 1 = 4) (by decide +kernel)
    rw [hLast] at hOn
    refine ⟨s, hReady, ?_, hOn, ?_⟩
    · exact Database.holds_of_ready hReady
        (fun s => s.media.map (·.hasChildren) = [true, true, false]) (by decide +kernel)
    · exact Database.holds_of_ready hReady (fun s =>
        (s.withMedia { NewMedia.image "d" with parentId := some 3 } 7).media.map (·.hasChildren) =
          [true, true, true, false]) (by decide +kernel)

/-- A length of zero with a sign is read without it, and one that is no number is no length, so that
these are not read as they were given. -/
theorem creation_of_unusualLengths :
    (ready (.fresh 1)).Reachable ∧
      (∃ db' media,
        (Database.createMedia { NewMedia.image "a" with duration := some (-0.0) } 7).on
          (ready (.fresh 1)) = (.ok 1, db') ∧
        (Database.getMedia 1).on db' = (.ok (some media), db') ∧
        media.duration = some 0.0 ∧ media.duration ≠ some (-0.0)) ∧
      ∃ db' media,
        (Database.createMedia { NewMedia.image "a" with duration := some (0.0 / 0.0) } 7).on
          (ready (.fresh 1)) = (.ok 1, db') ∧
        (Database.getMedia 1).on db' = (.ok (some media), db') ∧ media.duration = none := by
  have hRead (length : Option Float) : ∃ db' media,
      (Database.createMedia { NewMedia.image "a" with duration := length } 7).on
        (ready (.fresh 1)) = (.ok 1, db') ∧
      (Database.getMedia 1).on db' = (.ok (some media), db') ∧
      media.duration = length.bind Store.storedLength := by
    have hNew : ¬(Store.fresh 1).HasContent "a" := by decide
    have hParent : (Store.fresh 1).AcceptsParent none := by decide
    exact ⟨_, _, Database.createMedia_new hNew hParent 7,
      Database.getMedia_withMedia (Store.sound_fresh 1) hNew hParent 7, rfl⟩
  refine ⟨Database.Reachable.prepared 1, ?_, ?_⟩
  · obtain ⟨db', media, hOn, hById, hLength⟩ := hRead (some (-0.0))
    have hZero : media.duration = some 0.0 := hLength.trans (by decide)
    exact ⟨db', media, hOn, hById, hZero, by rw [hZero]; decide⟩
  · obtain ⟨db', media, hOn, hById, hLength⟩ := hRead (some (0.0 / 0.0))
    exact ⟨db', media, hOn, hById, hLength.trans (by decide)⟩

end MediaLibrary
