import MediaLibrary.Proofs.Database.AllOrNothing
import MediaLibrary.Proofs.Database.Tagging
import MediaLibrary.Proofs.Selection.Spelling

/-!
# Database — names of tags

Creating a tag, asking for it and looking it up agree on what a name is: a text without the blanks
around it, the case of `A` to `Z` aside, and what stands behind a NUL aside but for its length. So a
name belongs to one tag at most, whichever way it is spelled, and a tag is had by its name from the
moment it exists. Nothing but its deletion ends this, since no other operation takes a row out of
the table of tags or writes a name there.

* `TagRow.IsKnownAs` — the names that are the one of a tag;
* `Store.HasTag`, `Store.withTag` — a name that is stored, and the store with one more tag;
* `Database.createTag_new`, `Database.getOrCreateTag_new`, … — what becomes of a name;
* `Operation.apply_spares` — an operation spares a tag that it does not delete;
* `Database.KeepsTag`, `Database.keepsTag` — a tag is had by its name until it is deleted;
* `tag_names_of_reachable` — which names are created, had and found.
-/

namespace MediaLibrary

open Database (ready)
open Selection (IsSpelling isSpelling_iff)

/-- The name of a new tag is not blank. -/
def NewTag.HasName (tag : NewTag) : Prop :=
  ∃ c ∈ tag.name.toList, Text.isBlank c = false

/-- A tag has a name unless there are only blanks. -/
theorem NewTag.hasName_iff {tag : NewTag} :
    tag.HasName ↔ (Text.trim tag.name).isEmpty = false := by
  rw [← Bool.not_eq_true, Text.trim_isEmpty_iff]
  simp [HasName]

/-- The store takes the name for the one of the tag, without the blanks around it. -/
def TagRow.IsKnownAs (row : TagRow) (name : String) : Prop :=
  Text.OneName row.name (Text.trim name)

instance (row : TagRow) (name : String) : Decidable (row.IsKnownAs name) :=
  inferInstanceAs (Decidable (Text.OneName _ _))

/-- A tag that has a name has it in every spelling. -/
theorem TagRow.IsKnownAs.respelled {row : TagRow} {name spelling : String} (h : row.IsKnownAs name)
    (hSpelling : IsSpelling name spelling) : row.IsKnownAs spelling :=
  h.trans (.of_fold_eq (isSpelling_iff.mp hSpelling))

-- ---------------------------------------------------------------------------
-- Names that are stored
-- ---------------------------------------------------------------------------

namespace Store

variable {s : Store} {tag : NewTag} {now : Int}

/-- Some tag has this name. -/
def HasTag (s : Store) (name : String) : Prop :=
  ∃ row ∈ s.tags, row.IsKnownAs name

/-- The row of the tag that comes next. -/
def nextTag (s : Store) (tag : NewTag) (now : Int) : TagRow :=
  ⟨s.lastTagId + 1, Text.trim tag.name, tag.category.code, 0, now⟩

/-- The store with one more tag. Nothing else has changed. -/
def withTag (s : Store) (tag : NewTag) (now : Int) : Store :=
  { s with tags := s.tags ++ [s.nextTag tag now], lastTagId := s.lastTagId + 1 }

/-- A tag is found by a name just if the store has one of this name. -/
theorem tagRowByName?_isSome_iff {name : String} :
    (s.tagRowByName? (Text.trim name)).isSome = true ↔ s.HasTag name := by
  simp [tagRowByName?, HasTag, List.find?_isSome, TagRow.IsKnownAs]

/-- None is found just if it has none. -/
theorem tagRowByName?_eq_none_iff {name : String} :
    s.tagRowByName? (Text.trim name) = none ↔ ¬s.HasTag name := by
  rw [← tagRowByName?_isSome_iff, Option.not_isSome_iff_eq_none]

instance (s : Store) (name : String) : Decidable (s.HasTag name) :=
  decidable_of_iff _ tagRowByName?_isSome_iff

/-- A name that a tag has cannot be given again. -/
theorem insertTag_known (h : s.HasTag tag.name) :
    s.insertTag { tag with name := Text.trim tag.name } now = .error .duplicateName := by
  simp only [insertTag, tagRowByName?_isSome_iff.mpr h, ↓reduceIte]

/-- A new name gets a row of its own. -/
theorem insertTag_new (hNew : ¬s.HasTag tag.name) :
    s.insertTag { tag with name := Text.trim tag.name } now =
      .ok (s.lastTagId + 1, s.withTag tag now) := by
  simp only [insertTag, tagRowByName?_eq_none_iff.mpr hNew]
  rfl

theorem mem_withTag (s : Store) (tag : NewTag) (now : Int) :
    s.nextTag tag now ∈ (s.withTag tag now).tags :=
  List.mem_append_right _ (List.mem_singleton_self _)

/-- The new row is read as the tag that was given, with its name trimmed and no media. -/
theorem read_nextTag (s : Store) (tag : NewTag) (now : Int) :
    (s.nextTag tag now).read = ⟨s.lastTagId + 1, Text.trim tag.name, tag.category, 0, now⟩ := by
  simp [TagRow.read, nextTag]

/-- No tag is stored under a blank name. -/
theorem Tidy.hasName_of_hasTag (h : s.Tidy) (hHas : s.HasTag tag.name) : tag.HasName := by
  obtain ⟨row, hRow, hNamed⟩ := hHas
  have hFull : row.name ≠ "" := (h.names row.unused (List.mem_map_of_mem hRow)).1
  rw [NewTag.hasName_iff, ← Bool.not_eq_true, String.isEmpty_iff]
  intro hBlank
  rw [TagRow.IsKnownAs, hBlank] at hNamed
  exact hFull (Text.oneName_empty_iff.mp hNamed)

end Store

-- ---------------------------------------------------------------------------
-- What becomes of a name
-- ---------------------------------------------------------------------------

namespace Database

open Work

variable {s : Store} {tag : NewTag}

/-- A blank name is refused before the store is asked. -/
theorem createTag_blank (h : ¬tag.HasName) (s : Store) (now : Int) :
    (createTag tag now).on (ready s) = (.error (.input .blankTagName), ready s) := by
  rw [NewTag.hasName_iff, Bool.not_eq_false] at h
  simp [createTag, insertTag, on_bind, h]

/-- Any other name is left to the store. -/
theorem createTag_on (h : tag.HasName) (s : Store) (now : Int) :
    (createTag tag now).on (ready s) =
      (inserted (s.insertTag { tag with name := Text.trim tag.name } now)).on (ready s) := by
  rw [NewTag.hasName_iff] at h
  simp only [createTag, insertTag, h, on_bind, on_lock, on_tables, Bool.false_eq_true, ↓reduceIte]

/-- A name that a tag has is refused. -/
theorem createTag_known (hName : tag.HasName) (h : s.HasTag tag.name) (now : Int) :
    (createTag tag now).on (ready s) = (.error (.storage .duplicateName), ready s) := by
  rw [createTag_on hName, Store.insertTag_known h, on_inserted]

/-- A new name is created. -/
theorem createTag_new (hName : tag.HasName) (hNew : ¬s.HasTag tag.name) (now : Int) :
    (createTag tag now).on (ready s) = (.ok (s.lastTagId + 1), ready (s.withTag tag now)) := by
  rw [createTag_on hName, Store.insertTag_new hNew, on_inserted]

/-- A tag that has the name is had as it is stored, whatever category it is asked for with. -/
theorem getOrCreateTag_stored (h : s.Sound) {row : TagRow} (hRow : row ∈ s.tags)
    (hNamed : row.IsKnownAs tag.name) (now : Int) :
    (getOrCreateTag tag now).on (ready s) = (.ok row.read, ready s) := by
  have hFound := findOrInsertTag_stored h now (h.tagRowByName?_of_mem hRow hNamed)
  simp only [getOrCreateTag, on_transaction, hFound]

/-- A new name is created and read back. -/
theorem getOrCreateTag_new (h : s.Sound) (hName : tag.HasName) (hNew : ¬s.HasTag tag.name)
    (now : Int) :
    (getOrCreateTag tag now).on (ready s) =
      (.ok (s.nextTag tag now).read, ready (s.withTag tag now)) := by
  have hInsert : s.insertTag { tag with name := Text.trim tag.name } now = _ :=
    Store.insertTag_new hNew
  obtain ⟨s', row, hInsert', hRow, hOn⟩ :=
    findOrInsertTag_new h now (NewTag.hasName_iff.mp hName)
      (Store.tagRowByName?_eq_none_iff.mpr hNew)
  rw [hInsert] at hInsert'
  obtain ⟨hId, rfl⟩ := Prod.mk.inj (Except.ok.inj hInsert')
  obtain rfl : s.nextTag tag now = row :=
    Store.eq_of_ids (h.insertTag hInsert).tags_ids (s.mem_withTag tag now) hRow hId
  simp only [getOrCreateTag, on_transaction, hOn]

/-- A blank name is neither found nor inserted. -/
theorem getOrCreateTag_blank (hNew : ¬s.HasTag tag.name) (h : ¬tag.HasName) (now : Int) :
    (getOrCreateTag tag now).on (ready s) = (.error (.input .blankTagName), ready s) := by
  have hFind := findTag_none (Store.tagRowByName?_eq_none_iff.mpr hNew)
  rw [NewTag.hasName_iff, Bool.not_eq_false] at h
  simp [getOrCreateTag, findOrInsertTag, insertTag, on_bind, hFind, h]

/-- Only a new name that is not blank is created. -/
theorem createTag_ok {now id : Int} {db' : Database}
    (hOn : (createTag tag now).on (ready s) = (.ok id, db')) :
    tag.HasName ∧ ¬s.HasTag tag.name ∧ id = s.lastTagId + 1 ∧ db' = ready (s.withTag tag now) := by
  by_cases hName : tag.HasName
  · by_cases hHas : s.HasTag tag.name
    · rw [createTag_known hName hHas] at hOn
      cases hOn
    · rw [createTag_new hName hHas] at hOn
      cases hOn
      exact ⟨hName, hHas, rfl, rfl⟩
  · rw [createTag_blank hName] at hOn
    cases hOn

/-- What is had is a tag that was stored, or the one that was created for a new name. -/
theorem getOrCreateTag_ok (h : s.Sound) {now : Int} {had : Tag} {db' : Database}
    (hOn : (getOrCreateTag tag now).on (ready s) = (.ok had, db')) :
    (∃ row ∈ s.tags, row.IsKnownAs tag.name ∧ had = row.read ∧ db' = ready s) ∨
      (tag.HasName ∧ ¬s.HasTag tag.name ∧
        had = (s.nextTag tag now).read ∧ db' = ready (s.withTag tag now)) := by
  by_cases hHas : s.HasTag tag.name
  · obtain ⟨row, hRow, hNamed⟩ := hHas
    rw [getOrCreateTag_stored h hRow hNamed] at hOn
    cases hOn
    exact .inl ⟨row, hRow, hNamed, rfl, rfl⟩
  · by_cases hName : tag.HasName
    · rw [getOrCreateTag_new h hName hHas] at hOn
      cases hOn
      exact .inr ⟨hName, hHas, rfl, rfl⟩
    · rw [getOrCreateTag_blank hHas hName] at hOn
      cases hOn

/-- A tag is read by its id. -/
theorem getTag_on (h : s.Sound) {row : TagRow} (hRow : row ∈ s.tags) :
    (getTag row.id).on (ready s) = (.ok (some row.read), ready s) := by
  have hFound : s.tagRow? row.id = some row := Store.find?_of_ids h.tags_ids hRow
  simp only [getTag, on_bind, on_lock, on_tables, hFound, decodeTag?_on h hRow]

/-- A tag is read by every name it is known as. -/
theorem tagByName_on (h : s.Sound) {row : TagRow} (hRow : row ∈ s.tags) {name : String}
    (hNamed : row.IsKnownAs name) :
    (tagByName name).on (ready s) = (.ok (some row.read), ready s) := by
  have hFound : s.tagRowByName? (Text.trim name) = some row := h.tagRowByName?_of_mem hRow hNamed
  simp only [tagByName, findTag, on_bind, on_lock, on_tables, hFound, decodeTag?_on h hRow]

end Database

-- ---------------------------------------------------------------------------
-- Tags that stay
-- ---------------------------------------------------------------------------

namespace Store

variable {s s' : Store} {row : TagRow} {now : Int}

/-- A tag that is had pushes no other one out. -/
theorem Provides.spares {tag : NewTag} {id : Int} (h : s.Provides tag now id s')
    (hRow : row ∈ s.outline.tags) : row ∈ s'.outline.tags := by
  obtain ⟨stored, hStored, rfl⟩ := List.mem_map.mp hRow
  obtain ⟨-, -, hKept, -⟩ := h.exists_row
  exact List.mem_map_of_mem (hKept stored hStored)

/-- A new medium spares every tag. -/
theorem spares_insertMedia {m : NewMedia} {id : Int} (hOk : s.insertMedia m now = .ok (id, s'))
    (hRow : row ∈ s.outline.tags) : row ∈ s'.outline.tags := by
  rwa [(outline_insertMedia hOk).2]

end Store

/-- Every operation spares a tag, but for the one that deletes it. -/
theorem Operation.apply_spares {s : Store} {row : TagRow} (hRow : row ∈ s.outline.tags)
    {op : Operation} (hOp : op ≠ .deleteTag row.id) (now : Int) :
    ∃ s', op.apply now (ready s) = ready s' ∧ row ∈ s'.outline.tags := by
  -- what fails has changed nothing, so only what is told of success matters
  have hOutline {s' : Store} (h : s'.outline = s.outline) : row ∈ s'.outline.tags := h ▸ hRow
  cases op with
  | createMedia m =>
    exact (Database.insertMedia_moves m).lock.after_keeps
      (Database.insertMedia_allOrNothing m now).lock hRow fun _ _ hOk =>
        Store.spares_insertMedia hOk hRow
  | createMediaBatch items =>
    have hEach : (items.mapM fun m => Database.insertMedia m now).Moves now s fun _ s' =>
        row ∈ s'.outline.tags := by
      refine .mapM (fun _ _ s' => row ∈ s'.outline.tags) items (fun _ _ m s' hKept => ?_) hRow
      exact (Database.insertMedia_moves m).weaken fun _ _ hOk =>
        Store.spares_insertMedia hOk hKept
    exact hEach.transaction.after_keeps (Work.transaction_allOrNothing _) hRow
      fun _ _ hKept => hKept
  | deleteMedia id =>
    refine (Database.changeFor_moves id (.deleteMedia s id)).lock.after_keeps
      (Database.changeFor_allOrNothing id _).lock hRow ?_
    rintro _ _ rfl
    rwa [Store.outline_deleteMedia]
  | setFavorite id isFavorite =>
    refine (Database.changeFor_moves id (.setFavorite s id isFavorite)).lock.after_keeps
      (Database.changeFor_allOrNothing id _).lock hRow ?_
    rintro _ _ rfl
    exact hOutline (s.quiet_setFavorite id isFavorite now).outline
  | setRating id rating =>
    refine (Database.changeFor_moves id (.setRating s id rating)).lock.after_keeps
      (Database.changeFor_allOrNothing id _).lock hRow ?_
    rintro _ _ rfl
    rwa [Store.outline_setRating]
  | setParent id parent =>
    refine (Database.setParent_moves id parent).after_keeps
      (Database.setParent_allOrNothing id parent now) hRow ?_
    rintro _ _ rfl
    exact hOutline (s.quiet_setParent id parent now).outline
  | recordView id =>
    refine (Database.recordView_moves id).after_keeps (Work.transaction_allOrNothing _) hRow ?_
    rintro _ _ rfl
    exact hOutline (s.quiet_view id now).outline
  | createTag tag =>
    exact (Database.insertTag_moves tag).lock.after_keeps
      (Database.insertTag_allOrNothing tag now).lock hRow fun _ _ hOk =>
        Store.Provides.spares (.inr hOk) hRow
  | getOrCreateTag tag =>
    exact (Database.findOrInsertTag_moves tag).transaction.after_keeps
      (Work.transaction_allOrNothing _) hRow fun _ _ hHad => hHad.spares hRow
  | deleteTag id =>
    refine (Database.deleteTag_moves id).after_keeps (Work.transaction_allOrNothing _) hRow ?_
    rintro _ _ rfl
    have hOther : row.id ≠ id := fun hSame => hOp (by rw [hSame])
    rw [Store.outline_deleteTag]
    exact List.mem_filter.mpr ⟨hRow, by simpa using hOther⟩
  | addTags mediaId tags =>
    refine (Database.addTags_keeps (fun _ _ s' => row ∈ s'.outline.tags) hRow ?_).after_keeps
      (Work.transaction_allOrNothing _) hRow fun _ _ hKept => hKept
    intro _ _ _ _ _ s₂ hKept hHad _ _
    rw [Store.outline_attach]
    exact hHad.spares hKept
  | removeTag mediaId tagId =>
    refine (Database.removeTag_moves mediaId tagId).after_keeps
      (Database.removeTag_allOrNothing mediaId tagId now) hRow ?_
    rintro _ _ rfl
    exact hOutline (s.outline_detach mediaId tagId now)

/-- A run spares a tag if none of its operations deletes it. -/
theorem Database.afterAll_spares {s : Store} {row : TagRow} (hRow : row ∈ s.outline.tags)
    {run : List (Operation × Int)} (hRun : ∀ step ∈ run, step.1 ≠ .deleteTag row.id) :
    ∃ s', (ready s).afterAll run = ready s' ∧ row ∈ s'.outline.tags := by
  induction run generalizing s with
  | nil => exact ⟨s, rfl, hRow⟩
  | cons step rest ih =>
    obtain ⟨hFirst, hRest⟩ := List.forall_mem_cons.mp hRun
    obtain ⟨s₁, hApply, hRow₁⟩ := step.1.apply_spares hRow hFirst step.2
    obtain ⟨s', hAfter, hRow'⟩ := ih hRow₁ hRest
    refine ⟨s', ?_, hRow'⟩
    rw [← hAfter, ← hApply]
    rfl

-- ---------------------------------------------------------------------------
-- Tags that are had
-- ---------------------------------------------------------------------------

/-- The tag is had by a name: it is found by its id and by the name, and asking for the name in any
category gives it and changes nothing. Only how many media carry it may be another number. -/
def Database.Knows (db : Database) (tag : Tag) (name : String) : Prop :=
  ∃ usageCount,
    (Database.getTag tag.id).on db = (.ok (some { tag with usageCount := usageCount }), db) ∧
    (Database.tagByName name).on db = (.ok (some { tag with usageCount := usageCount }), db) ∧
    ∀ category now, (Database.getOrCreateTag ⟨name, category⟩ now).on db =
      (.ok { tag with usageCount := usageCount }, db)

/-- Until the tag is deleted, it is had by every spelling of a name. -/
def Database.KeepsTag (db : Database) (tag : Tag) (name : String) : Prop :=
  ∀ run : List (Operation × Int), (∀ step ∈ run, step.1 ≠ .deleteTag tag.id) →
    ∀ spelling, IsSpelling name spelling → (db.afterAll run).Knows tag spelling

/-- A tag is read by its id and its names until it is deleted. -/
theorem Database.keepsTag {s : Store} (h : (ready s).Reachable) {row : TagRow}
    (hRow : row ∈ s.tags) {name : String} (hNamed : row.IsKnownAs name) :
    (ready s).KeepsTag row.read name := by
  intro run hRun spelling hSpelling
  have hUnused : row.unused ∈ s.outline.tags := List.mem_map_of_mem hRow
  obtain ⟨s', hAfter, hKept⟩ := Database.afterAll_spares hUnused hRun
  have hReachable := h.afterAll run
  rw [hAfter] at hReachable ⊢
  obtain ⟨s'', hReady, hSound⟩ := hReachable.sound
  obtain rfl : s' = s'' := Option.some.inj (congrArg Database.store hReady)
  obtain ⟨row', hRow', hSame⟩ := List.mem_map.mp hKept
  -- the row is as it was, but for the number of media
  obtain ⟨usageCount, rfl⟩ : ∃ usageCount, row' = { row with usageCount := usageCount } :=
    ⟨row'.usageCount,
      congrArg (fun r : TagRow => { r with usageCount := row'.usageCount }) hSame⟩
  have hNamed' := hNamed.respelled hSpelling
  refine ⟨usageCount, Database.getTag_on hSound hRow', Database.tagByName_on hSound hRow' hNamed',
    fun category now => ?_⟩
  have hNamedTag : row.IsKnownAs (NewTag.mk spelling category).name := hNamed'
  exact Database.getOrCreateTag_stored hSound hRow' hNamedTag now

/-- In every reachable database a tag is created just if its name is not blank and no tag has it,
and a tag is had by any name that is not blank. A tag that has the name is had as it is stored,
whatever category it is asked for with, and nothing changes; otherwise one tag is added, under the
trimmed name and in the category that was asked for. From then on, and until it is deleted, the tag
that was created or had is found by every spelling of the name, and asking for any of them gives it
and changes nothing. -/
theorem tag_names_of_reachable {db : Database} (h : db.Reachable) (tag : NewTag) (now : Int) :
    ∃ s, db = ready s ∧
      ((∃ id db', (Database.createTag tag now).on db = (.ok id, db')) ↔
        tag.HasName ∧ ¬s.HasTag tag.name) ∧
      ((∃ had db', (Database.getOrCreateTag tag now).on db = (.ok had, db')) ↔ tag.HasName) ∧
      (∀ row ∈ s.tags, row.IsKnownAs tag.name → ∃ had, row.decode = .ok had ∧
        (Database.getOrCreateTag tag now).on db = (.ok had, db)) ∧
      (tag.HasName → ¬s.HasTag tag.name →
        (Database.getOrCreateTag tag now).on db =
          (.ok ⟨s.lastTagId + 1, Text.trim tag.name, tag.category, 0, now⟩,
            ready (s.withTag tag now))) ∧
      (∀ id db', (Database.createTag tag now).on db = (.ok id, db') →
        id = s.lastTagId + 1 ∧ db' = ready (s.withTag tag now) ∧
        db'.KeepsTag ⟨id, Text.trim tag.name, tag.category, 0, now⟩ tag.name) ∧
      ∀ had db', (Database.getOrCreateTag tag now).on db = (.ok had, db') →
        db'.KeepsTag had tag.name := by
  obtain ⟨s, rfl, hSound, -, hTidy⟩ := h.constrained
  have hHad {row : TagRow} (hRow : row ∈ s.tags) (hNamed : row.IsKnownAs tag.name) :
      (Database.getOrCreateTag tag now).on (ready s) = (.ok row.read, ready s) :=
    Database.getOrCreateTag_stored hSound hRow hNamed now
  have hAdded (hName : tag.HasName) (hNew : ¬s.HasTag tag.name) :
      (Database.getOrCreateTag tag now).on (ready s) =
        (.ok ⟨s.lastTagId + 1, Text.trim tag.name, tag.category, 0, now⟩,
          ready (s.withTag tag now)) := by
    rw [Database.getOrCreateTag_new hSound hName hNew, Store.read_nextTag]
  have hKept (hName : tag.HasName) (hNew : ¬s.HasTag tag.name) :
      (ready (s.withTag tag now)).KeepsTag (s.nextTag tag now).read tag.name := by
    have hReachable := h.operation (.createTag tag) now
    rw [Operation.apply, Work.after, Database.createTag_new hName hNew] at hReachable
    exact Database.keepsTag hReachable (s.mem_withTag tag now) (.refl _)
  refine ⟨s, rfl, ⟨?_, ?_⟩, ⟨?_, ?_⟩, ?_, hAdded, ?_, ?_⟩
  · rintro ⟨id, db', hOn⟩
    obtain ⟨hName, hNew, -⟩ := Database.createTag_ok hOn
    exact ⟨hName, hNew⟩
  · rintro ⟨hName, hNew⟩
    exact ⟨_, _, Database.createTag_new hName hNew now⟩
  · rintro ⟨had, db', hOn⟩
    obtain ⟨row, hRow, hNamed, -⟩ | ⟨hName, -⟩ := Database.getOrCreateTag_ok hSound hOn
    · exact hTidy.hasName_of_hasTag ⟨row, hRow, hNamed⟩
    · exact hName
  · intro hName
    by_cases hHas : s.HasTag tag.name
    · obtain ⟨row, hRow, hNamed⟩ := hHas
      exact ⟨_, _, hHad hRow hNamed⟩
    · exact ⟨_, _, hAdded hName hHas⟩
  · intro row hRow hNamed
    obtain ⟨category, hCategory⟩ := hSound.exists_category hRow
    exact ⟨_, TagRow.decode_of_code hCategory, hHad hRow hNamed⟩
  · intro id db' hOn
    obtain ⟨hName, hNew, rfl, rfl⟩ := Database.createTag_ok hOn
    exact ⟨rfl, rfl, s.read_nextTag tag now ▸ hKept hName hNew⟩
  · intro had db' hOn
    obtain ⟨row, hRow, hNamed, rfl, rfl⟩ | ⟨hName, hNew, rfl, rfl⟩ :=
      Database.getOrCreateTag_ok hSound hOn
    · exact Database.keepsTag h hRow hNamed
    · exact hKept hName hNew

/-- A name that is stored is not created again, and asking for it as the name of an artist gives
the general tag, also when another tag and the only medium are gone. A new name is trimmed. -/
theorem tag_names_of_taggedImage :
    Database.taggedImage.Reachable ∧
      (¬∃ id db', (Database.createTag ⟨"\tCAT", .artist⟩ 5).on Database.taggedImage =
        (.ok id, db')) ∧
      (∃ had, (Database.getOrCreateTag ⟨"\tCAT", .artist⟩ 5).on Database.taggedImage =
          (.ok had, Database.taggedImage) ∧
        (had.id, had.name, had.category) = (1, "Cat", .general) ∧
        (Database.taggedImage.afterAll [(.deleteTag 2, 6), (.deleteMedia 1, 7)]).Knows had
          "cat ") ∧
      ∃ db', (Database.createTag ⟨" New ", .metadata⟩ 5).on Database.taggedImage = (.ok 3, db') ∧
        (db'.afterAll [(.addTags 1 [⟨"nEw", .artist⟩], 6)]).Knows ⟨3, "New", .metadata, 0, 5⟩
          "NEW" := by
  have hReachable := Database.reachable_taggedImage
  obtain ⟨s, hReady, hCreated, -, hStored, -, -, hKept⟩ :=
    tag_names_of_reachable hReachable ⟨"\tCAT", .artist⟩ 5
  obtain ⟨row, hRow, hId, hName, hCategory⟩ := Database.holds_of_ready hReady (fun s =>
    ∃ row ∈ s.tags, row.id = 1 ∧ row.name = "Cat" ∧ row.category = 0) (by decide +kernel)
  have hNamed : row.IsKnownAs "\tCAT" := by
    rw [TagRow.IsKnownAs, hName]
    decide +kernel
  obtain ⟨had, hDecode, hOn⟩ := hStored row hRow hNamed
  obtain rfl := TagRow.eq_read hDecode
  refine ⟨hReachable, ?_, ⟨row.read, hOn, ?_, ?_⟩, ?_⟩
  · rw [hCreated]
    exact fun hNew => hNew.2 ⟨row, hRow, hNamed⟩
  · have hGeneral : row.read.category = .general := TagRow.read_code hCategory
    rw [TagRow.read_id, hId, hGeneral]
    exact congrArg (fun name => ((1 : Int), name, TagCategory.general)) hName
  · refine hKept _ _ hOn _ (by simp [hId]) "cat " (isSpelling_iff.mpr ?_)
    decide +kernel
  · obtain ⟨s', hReady', hCreated', -, -, -, hKept', -⟩ :=
      tag_names_of_reachable hReachable ⟨" New ", .metadata⟩ 5
    have hNew : ¬s'.HasTag " New " :=
      Database.holds_of_ready hReady' (¬·.HasTag " New ") (by decide +kernel)
    obtain ⟨id, db', hOn'⟩ := hCreated'.mpr ⟨⟨'N', by decide, by decide⟩, hNew⟩
    obtain ⟨rfl, -, hKeeps⟩ := hKept' id db' hOn'
    have hLast : s'.lastTagId + 1 = 3 :=
      Database.holds_of_ready hReady' (·.lastTagId + 1 = 3) (by decide +kernel)
    have hTrim : Text.trim " New " = "New" := by decide +kernel
    rw [hLast] at hOn' hKeeps
    rw [hTrim] at hKeeps
    refine ⟨db', hOn', hKeeps _ (by simp) "NEW" (isSpelling_iff.mpr ?_)⟩
    decide +kernel

/-- A name with a NUL is refused, and asking for it gives a tag with another name, though no tag has
the name in any letter case. -/
theorem tag_names_of_hiddenNames :
    Database.hiddenNames.Reachable ∧ Text.trim "a\x00c" = "a\x00c" ∧ ∃ s,
      Database.hiddenNames = ready s ∧
      (∀ row ∈ s.tags, Text.fold row.name ≠ Text.fold "a\x00c") ∧
      (Database.createTag ⟨"a\x00c", .general⟩ 3).on Database.hiddenNames =
        (.error (.storage .duplicateName), Database.hiddenNames) ∧
      ∃ had, (Database.getOrCreateTag ⟨"a\x00c", .general⟩ 3).on Database.hiddenNames =
          (.ok had, Database.hiddenNames) ∧
        had.name = "a\x00z" := by
  obtain ⟨s, hReady, hSound⟩ := Database.reachable_hiddenNames.sound
  have hOther := Database.holds_of_ready hReady (fun s =>
    ∀ row ∈ s.tags, Text.fold row.name ≠ Text.fold "a\x00c") (by decide +kernel)
  obtain ⟨row, hRow, hName, hKnown⟩ := Database.holds_of_ready hReady (fun s =>
    ∃ row ∈ s.tags, row.name = "a\x00z" ∧ row.IsKnownAs "a\x00c") (by decide +kernel)
  have hHas : s.HasTag "a\x00c" := ⟨row, hRow, hKnown⟩
  have hFull : (NewTag.mk "a\x00c" .general).HasName := ⟨'a', by decide, by decide⟩
  have hRefused := Database.createTag_known hFull hHas 3
  have hHad := Database.getOrCreateTag_stored hSound hRow
    (show row.IsKnownAs (NewTag.mk "a\x00c" .general).name from hKnown) 3
  rw [← hReady] at hRefused hHad
  exact ⟨Database.reachable_hiddenNames, by decide +kernel, s, hReady, hOther, hRefused, row.read,
    hHad, hName⟩

end MediaLibrary
