import Mathlib.Logic.Relation
import MediaLibrary.Database.Media
import MediaLibrary.Database.Tables
import MediaLibrary.Database.Tags
import MediaLibrary.Proofs.Database.Work
import MediaLibrary.Proofs.Store.Ids
import MediaLibrary.Proofs.Store.Row

/-!
# Database — runs of operations

A library lives through a run of operations on a database that was prepared once.
Each of them may fail. Whatever an operation does on a ready database, it does by
changes of the store that are listed in `Store.Change`; so what every change keeps,
every run keeps.

* `Operation`, `Operation.apply` — the operations that change a database;
* `Database.Reachable` — the databases that runs lead to;
* `Work.Moves` — work that makes changes, with rules for its building blocks;
* `insertMedia_moves`, `addTags_moves`, … — what each operation tells where it succeeds;
* `Operation.apply_ready` — an operation is a sequence of changes;
* `Database.afterAll_keeps`, `Database.Reachable.induction` — invariants of stores hold along runs.
-/

namespace MediaLibrary

open Database (ready)

-- ---------------------------------------------------------------------------
-- Operations and runs
-- ---------------------------------------------------------------------------

/-- An operation that changes what is stored. -/
inductive Operation where
  | createMedia (m : NewMedia)
  | createMediaBatch (items : List NewMedia)
  | deleteMedia (id : Int)
  | setFavorite (id : Int) (isFavorite : Bool)
  | setRating (id : Int) (rating : Rating)
  | setParent (id : Int) (parent : Option Int)
  | recordView (id : Int)
  | createTag (tag : NewTag)
  | getOrCreateTag (tag : NewTag)
  | deleteTag (id : Int)
  | addTags (mediaId : Int) (tags : List NewTag)
  | removeTag (mediaId tagId : Int)

/-- The database after work, whether it succeeded or failed. -/
def Work.after {α : Type} (work : Work α) (db : Database) : Database :=
  (work.on db).2

/-- The database after an operation at a time. -/
def Operation.apply (op : Operation) (now : Int) (db : Database) : Database :=
  match op with
  | createMedia m => (Database.createMedia m now).after db
  | createMediaBatch items => (Database.createMediaBatch items now).after db
  | deleteMedia id => (Database.deleteMedia id now).after db
  | setFavorite id isFavorite => (Database.setFavorite id isFavorite now).after db
  | setRating id rating => (Database.setRating id rating now).after db
  | setParent id parent => (Database.setParent id parent now).after db
  | recordView id => (Database.recordView id now).after db
  | createTag tag => (Database.createTag tag now).after db
  | getOrCreateTag tag => (Database.getOrCreateTag tag now).after db
  | deleteTag id => (Database.deleteTag id now).after db
  | addTags mediaId tags => (Database.addTags mediaId tags now).after db
  | removeTag mediaId tagId => (Database.removeTag mediaId tagId now).after db

/-- A database that was prepared from nothing and went through a run of operations, at any
times. -/
inductive Database.Reachable : Database → Prop where
  | prepared (now : Int) : Reachable ((Database.prepare now).after {})
  | operation {db : Database} (op : Operation) (now : Int) :
      Reachable db → Reachable (op.apply now db)

/-- Changes of a store at one time, one after the other. -/
abbrev Store.Changes (now : Int) : Store → Store → Prop :=
  Relation.ReflTransGen (Store.Change now)

namespace Work

variable {α β : Type} {now : Int} {s : Store}

-- ---------------------------------------------------------------------------
-- Work as changes
-- ---------------------------------------------------------------------------

/-- The work leads from one store to another by changes at one time, and where it succeeds its
answer and the new store are as told. -/
def Moves (now : Int) (s : Store) (work : Work α) (told : α → Store → Prop) : Prop :=
  ∃ outcome s', work.on (ready s) = (outcome, ready s') ∧ Store.Changes now s s' ∧
    ∀ a, outcome = .ok a → told a s'

/-- Work that leaves the tables alone moves nothing. -/
theorem Moves.of_on {work : Work α} (outcome : Except Error α) {told : α → Store → Prop}
    (h : work.on (ready s) = (outcome, ready s)) (hTold : ∀ a, outcome = .ok a → told a s) :
    work.Moves now s told :=
  ⟨outcome, s, h, .refl, hTold⟩

/-- Work that makes one change moves by it. -/
theorem Moves.of_change {work : Work α} (outcome : Except Error α) {s' : Store}
    {told : α → Store → Prop} (h : work.on (ready s) = (outcome, ready s'))
    (hChange : Store.Change now s s') (hTold : ∀ a, outcome = .ok a → told a s') :
    work.Moves now s told :=
  ⟨outcome, s', h, .single hChange, hTold⟩

theorem Moves.pure {a : α} {told : α → Store → Prop} (h : told a s) :
    Moves now s (pure a : Work α) told :=
  .of_on (.ok a) (on_pure a (ready s)) fun _ ha => by cases ha; exact h

/-- What work tells may be told with less. -/
theorem Moves.weaken {work : Work α} {told told' : α → Store → Prop} (h : work.Moves now s told)
    (hTold : ∀ a s', told a s' → told' a s') : work.Moves now s told' := by
  obtain ⟨outcome, s', hOn, hChanges, hOk⟩ := h
  exact ⟨outcome, s', hOn, hChanges, fun a ha => hTold a s' (hOk a ha)⟩

/-- Where the work succeeds, the database is ready and as told. -/
theorem Moves.of_ok {work : Work α} {told : α → Store → Prop} (h : work.Moves now s told) {a : α}
    {db : Database} (hOn : work.on (ready s) = (.ok a, db)) : ∃ s', db = ready s' ∧ told a s' := by
  obtain ⟨outcome, s', hOn', -, hTold⟩ := h
  rw [hOn'] at hOn
  obtain ⟨rfl, rfl⟩ := Prod.mk.inj hOn
  exact ⟨s', rfl, hTold a rfl⟩

/-- Work goes on from what was told of the work before it. -/
theorem Moves.bind {work : Work α} {next : α → Work β} {told : α → Store → Prop}
    {told' : β → Store → Prop} (h : work.Moves now s told)
    (hNext : ∀ a s', told a s' → (next a).Moves now s' told') :
    (work >>= next).Moves now s told' := by
  obtain ⟨outcome, s', hOn, hChanges, hTold⟩ := h
  cases outcome with
  | error e => exact ⟨.error e, s', by rw [on_bind, hOn], hChanges, fun _ ha => by cases ha⟩
  | ok a =>
    obtain ⟨outcome', s'', hOn', hChanges', hTold'⟩ := hNext a s' (hTold a rfl)
    exact ⟨outcome', s'', by rw [on_bind, hOn]; exact hOn', hChanges.trans hChanges', hTold'⟩

/-- Work on each item of a list keeps what the work on one more item keeps: of the items done so
far, of their answers, and of the store. -/
theorem Moves.mapM {work : α → Work β} (kept : List α → List β → Store → Prop) (items : List α)
    (hWork : ∀ done answers item s, kept done answers s →
      (work item).Moves now s fun b s' => kept (done ++ [item]) (answers ++ [b]) s')
    (h : kept [] [] s) : (items.mapM work).Moves now s fun answers s' => kept items answers s' := by
  suffices hFrom : ∀ (items done : List α) (answers : List β) (s : Store), kept done answers s →
      (items.mapM work).Moves now s fun more s' => kept (done ++ items) (answers ++ more) s' from
    hFrom items [] [] s h
  intro items
  induction items with
  | nil =>
    intro done answers s h
    rw [List.mapM_nil]
    exact .pure (by simpa using h)
  | cons item rest ih =>
    intro done answers s h
    rw [List.mapM_cons]
    refine (hWork done answers item s h).bind fun b s' h' => ?_
    refine (ih _ _ s' h').bind fun more s'' h'' => ?_
    exact .pure (by simpa using h'')

/-- A transaction makes the changes of its work, or none. -/
theorem Moves.transaction {work : Work α} {told : α → Store → Prop} (h : work.Moves now s told) :
    (transaction work).Moves now s told := by
  obtain ⟨outcome, s', hOn, hChanges, hTold⟩ := h
  cases outcome with
  | error e => exact .of_on (.error e) (by simp [hOn]) fun _ ha => by cases ha
  | ok a => exact ⟨.ok a, s', by simp [hOn], hChanges, hTold⟩

theorem Moves.throw (e : Error) {told : α → Store → Prop} :
    Moves now s (throw e : Work α) told :=
  .of_on (.error e) (on_throw e (ready s)) fun _ ha => by cases ha

/-- Work goes on after a check if the check does not fail. -/
theorem Moves.check {failing : Bool} {e : Error} {work : Work α} {told : α → Store → Prop}
    (h : failing = false → work.Moves now s told) :
    (if failing = true then do MonadExcept.throw e; work else work).Moves now s told := by
  cases failing with
  | true =>
    have hThrow : Moves now s (MonadExcept.throw e : Work Unit) fun _ _ => False := .throw e
    exact hThrow.bind fun _ _ => False.elim
  | false => exact h rfl

/-- To take the lock moves nothing. -/
theorem Moves.lock {work : Work α} {told : α → Store → Prop} (h : work.Moves now s told) :
    (do Work.lock; work).Moves now s told := by
  have hLock : Work.lock.Moves now s fun _ s' => s' = s :=
    .of_on (.ok ()) (on_lock s) fun _ _ => rfl
  exact hLock.bind fun _ _ hSame => hSame ▸ h

/-- To look at the tables moves nothing. -/
theorem Moves.tables {next : Store → Work β} {told : β → Store → Prop} (table : String)
    (h : (next s).Moves now s told) : (Work.tables table >>= next).Moves now s told := by
  have hTables : (Work.tables table).Moves now s fun a s' => a = s ∧ s' = s := by
    refine .of_on (.ok s) (on_tables table s) ?_
    rintro _ ⟨⟩
    exact ⟨rfl, rfl⟩
  refine hTables.bind ?_
  rintro _ _ ⟨rfl, rfl⟩
  exact h

/-- Tables that come from a change may be put. -/
theorem Moves.put {s' : Store} (hChange : Store.Change now s s') :
    (Work.put s').Moves now s fun _ s'' => s'' = s' :=
  .of_change (.ok ()) (on_put s s') hChange fun _ _ => rfl

/-- An insertion moves by the change that its row makes. -/
theorem Moves.inserted {outcome : Except StorageFault (Int × Store)}
    (h : ∀ id s', outcome = .ok (id, s') → Store.Change now s s') :
    (Work.inserted outcome).Moves now s fun id s' => outcome = .ok (id, s') := by
  cases outcome with
  | error e => exact .of_on (.error (.storage e)) (by simp) fun _ ha => by cases ha
  | ok made =>
    obtain ⟨id, s'⟩ := made
    refine .of_change (.ok id) (by simp) (h id s' rfl) ?_
    rintro _ ⟨⟩
    rfl

end Work

namespace Database

open Work

variable {now : Int} {s : Store}

-- ---------------------------------------------------------------------------
-- Media
-- ---------------------------------------------------------------------------

/-- A new medium is one change. -/
theorem insertMedia_moves (m : NewMedia) :
    (insertMedia m now).Moves now s fun id s' => s.insertMedia m now = .ok (id, s') :=
  .tables "media" (.inserted fun _ _ => .insertMedia)

/-- A batch is given as many ids as it has items, one after the other, and each item gets its
own. -/
theorem createMediaBatch_moves (items : List NewMedia) :
    (createMediaBatch items now).Moves now s fun ids s' =>
      ids = (List.range items.length).map (fun i : Nat => s.lastMediaId + 1 + i) ∧
        s'.lastMediaId = s.lastMediaId + items.length ∧
        s'.hashes = s.hashes ++ ids.zip (items.map (·.contentHash)) := by
  refine .transaction (.mapM (fun done ids s' =>
    ids = (List.range done.length).map (fun i : Nat => s.lastMediaId + 1 + i) ∧
      s'.lastMediaId = s.lastMediaId + done.length ∧
      s'.hashes = s.hashes ++ ids.zip (done.map (·.contentHash))) items ?_ (by simp))
  rintro done ids m s' ⟨hIds, hLast, hHashes⟩
  refine (insertMedia_moves m).weaken fun id s'' hOk => ?_
  obtain ⟨hId, -, -⟩ := Store.insertMedia_ok hOk
  have hLast' : s''.lastMediaId = s'.lastMediaId + 1 :=
    congrArg Ids.last (Store.mediaIds_insertMedia hOk)
  have hLength : ids.length = (done.map NewMedia.contentHash).length := by
    rw [hIds, List.length_map, List.length_range, List.length_map]
  refine ⟨?_, ?_, ?_⟩
  · rw [hId, hLast, hIds, List.length_append, List.length_singleton, List.range_succ,
      List.map_append, List.map_singleton]
    congr 2
    omega
  · rw [List.length_append, List.length_singleton]
    omega
  · rw [Store.hashes_insertMedia hOk, hHashes, List.map_append, List.zip_append hLength,
      List.append_assoc]
    rfl

/-- A change of a medium that is there is one change. -/
theorem changeFor_moves (id : Int) {change : Store → Store} (h : Store.Change now s (change s)) :
    (changeFor id change).Moves now s fun _ s' => s' = change s := by
  refine .tables "media" (.bind (.put h) fun _ s' hAfter => ?_)
  exact .pure hAfter

/-- A new parent is one change. -/
theorem setParent_moves (id : Int) (parent : Option Int) :
    (setParent id parent now).Moves now s fun _ s' => s' = s.setParent id parent now := by
  refine .check fun hSelf => ?_
  rw [beq_eq_false_iff_ne] at hSelf
  cases parent with
  | none => exact .transaction (changeFor_moves id (.setParent hSelf (by simp)))
  | some p =>
    refine .transaction (.tables "media" (.check fun hMedia => ?_))
    exact changeFor_moves id (.setParent hSelf (by simpa using hMedia))

/-- A view is one change. -/
theorem recordView_moves (id : Int) :
    (recordView id now).Moves now s fun _ s' => s' = s.view id now := by
  refine .transaction (.tables "media" (.check fun hMedia => ?_))
  exact .put (.view (by simpa using hMedia))

-- ---------------------------------------------------------------------------
-- Tags
-- ---------------------------------------------------------------------------

/-- Reading a row changes nothing, and the tag that is read has the id of the row. -/
theorem decodeTag?_moves (row : Option TagRow) :
    (decodeTag? row).Moves now s fun found s' =>
      s' = s ∧ ∀ tag ∈ found, ∃ r ∈ row, r.id = tag.id := by
  refine .of_on _ (on_ofExcept _ _) fun found hFound => ⟨rfl, ?_⟩
  rintro tag rfl
  cases row with
  | none => cases hFound
  | some r =>
    refine ⟨r, rfl, ?_⟩
    rw [Option.mapM_some] at hFound
    cases hDecode : r.decode with
    | error e => rw [hDecode] at hFound; cases hFound
    | ok tag' =>
      rw [hDecode] at hFound
      cases hFound
      rw [TagRow.eq_read hDecode, TagRow.read_id]

/-- A new tag is one change, with its name trimmed. -/
theorem insertTag_moves (tag : NewTag) :
    (insertTag tag now).Moves now s fun id s' =>
      s.insertTag { tag with name := Text.trim tag.name } now = .ok (id, s') :=
  .check fun hName => .tables "tags" (.inserted fun _ _ => .insertTag hName)

/-- A tag is found in the table, or it is inserted. -/
theorem findOrInsertTag_moves (tag : NewTag) :
    (findOrInsertTag tag now).Moves now s fun found s' =>
      s.Provides { tag with name := Text.trim tag.name } now found.id s' := by
  have hFind : (findTag tag.name).Moves now s fun found s' =>
      s' = s ∧ ∀ tag' ∈ found, ∃ r ∈ s.tagRowByName? (Text.trim tag.name), r.id = tag'.id :=
    .tables "tags" (decodeTag?_moves _)
  refine hFind.bind ?_
  rintro (_ | found) _ ⟨rfl, hFound⟩
  · refine (insertTag_moves tag).bind fun id s' hOk => .tables "tags" ?_
    refine (decodeTag?_moves _).bind ?_
    rintro (_ | created) _ ⟨rfl, hCreated⟩
    · exact .throw _
    · -- the row that is read back is the one with the new id
      obtain ⟨row, hRow, hSame⟩ := hCreated created rfl
      have hId : row.id = id := by simpa using List.find?_some hRow
      exact .pure (.inr (hSame ▸ hId ▸ hOk))
  · exact .pure (.inl ⟨rfl, hFound found rfl⟩)

/-- A deleted tag is one change. -/
theorem deleteTag_moves (id : Int) :
    (deleteTag id now).Moves now s fun _ s' => s' = s.deleteTag id now := by
  refine .transaction (.tables "media_tags" (.bind (.put (.deleteTag s id)) fun _ _ hAfter => ?_))
  exact .pure hAfter

/-- The tag is had, and then it is attached. -/
theorem addTag_moves {mediaId : Int} (tag : NewTag) (hMedia : s.hasMedia mediaId = true) :
    (addTag mediaId now tag).Moves now s fun found s'' =>
      ∃ s', s.Provides { tag with name := Text.trim tag.name } now found.id s' ∧
        s'' = s'.attach mediaId found.id now := by
  refine (findOrInsertTag_moves tag).bind fun found s' hHad => ?_
  obtain ⟨hKept, -, -, row, hRow, hId, -⟩ := hHad.exists_row
  have hMedia' : s'.hasMedia mediaId = true := by rwa [Store.hasMedia, hKept]
  refine .tables "media_tags" (.bind (.put (.attach hMedia' ⟨row, hRow, hId⟩)) ?_)
  rintro - _ rfl
  exact .pure ⟨s', hHad, rfl⟩

/-- Tags are had and attached one after the other. What holds of those done so far, of those that
were answered and of the store, and is kept by one more, holds in the end. -/
theorem addTags_keeps {mediaId : Int} {tags : List NewTag}
    (kept : List NewTag → List Tag → Store → Prop) (hStart : kept [] [] s)
    (hStep : ∀ done found tag id' (s₁ s₂ : Store), kept done found s₁ →
      s₁.Provides { tag with name := Text.trim tag.name } now id' s₂ →
      ∀ tag' : Tag, tag'.id = id' →
        kept (done ++ [tag]) (found ++ [tag']) (s₂.attach mediaId id' now)) :
    (addTags mediaId tags now).Moves now s fun found s' => kept tags found s' := by
  refine .transaction (.tables "media" (.check fun hMedia => ?_))
  have hEach : (tags.mapM (addTag mediaId now)).Moves now s fun found s' =>
      s'.hasMedia mediaId = true ∧ kept tags found s' := by
    refine .mapM (fun done found s' => s'.hasMedia mediaId = true ∧ kept done found s') tags ?_
      ⟨by simpa using hMedia, hStart⟩
    rintro done found tag s₁ ⟨hMedia, hKept⟩
    refine (addTag_moves tag hMedia).weaken ?_
    rintro found' _ ⟨s₂, hHad, rfl⟩
    refine ⟨?_, hStep done found tag _ s₁ s₂ hKept hHad found' rfl⟩
    rwa [Store.hasMedia_of_outline (Store.outline_attach ..), Store.hasMedia, hHad.exists_row.1]
  exact hEach.weaken fun _ _ hTold => hTold.2

/-- The tags were in the table, or their ids are given now. -/
theorem addTags_moves (mediaId : Int) (tags : List NewTag) :
    (addTags mediaId tags now).Moves now s fun found s' =>
      s.tagIds.Answers (found.map (·.id)) s'.tagIds := by
  refine addTags_keeps (fun _ found s' => s.tagIds.Answers (found.map (·.id)) s'.tagIds) .nil ?_
  rintro - found tag id s₁ s₂ hAnswers hHad tag' rfl
  rw [List.map_append, Store.tagIds_eq (s₂.attach ..), Store.outline_attach, ← Store.tagIds_eq]
  exact hAnswers.append hHad.answers

/-- A detached tag is one change. -/
theorem removeTag_moves (mediaId tagId : Int) :
    (removeTag mediaId tagId now).Moves now s fun _ s' => s' = s.detach mediaId tagId now := by
  refine .lock (.tables "media_tags" (.bind (.put (.detach s mediaId tagId)) fun _ _ hAfter => ?_))
  exact .pure hAfter

end Database

-- ---------------------------------------------------------------------------
-- Runs
-- ---------------------------------------------------------------------------

/-- An operation on a ready database makes changes of its store, and leaves it ready. -/
theorem Operation.apply_ready (op : Operation) (now : Int) (s : Store) :
    ∃ s', op.apply now (ready s) = ready s' ∧ Store.Changes now s s' := by
  have hAfter {α : Type} {work : Work α} {told : α → Store → Prop}
      (h : work.Moves now s told) :
      ∃ s', work.after (ready s) = ready s' ∧ Store.Changes now s s' := by
    obtain ⟨outcome, s', hOn, hChanges, -⟩ := h
    exact ⟨s', by rw [Work.after, hOn], hChanges⟩
  cases op with
  | createMedia m => exact hAfter (.lock (Database.insertMedia_moves m))
  | createMediaBatch items => exact hAfter (Database.createMediaBatch_moves items)
  | deleteMedia id => exact hAfter (.lock (Database.changeFor_moves id (.deleteMedia s id)))
  | setFavorite id isFavorite =>
    exact hAfter (.lock (Database.changeFor_moves id (.setFavorite s id isFavorite)))
  | setRating id rating =>
    exact hAfter (.lock (Database.changeFor_moves id (.setRating s id rating)))
  | setParent id parent => exact hAfter (Database.setParent_moves id parent)
  | recordView id => exact hAfter (Database.recordView_moves id)
  | createTag tag => exact hAfter (.lock (Database.insertTag_moves tag))
  | getOrCreateTag tag => exact hAfter (.transaction (Database.findOrInsertTag_moves tag))
  | deleteTag id => exact hAfter (Database.deleteTag_moves id)
  | addTags mediaId tags => exact hAfter (Database.addTags_moves mediaId tags)
  | removeTag mediaId tagId => exact hAfter (Database.removeTag_moves mediaId tagId)

/-- What every change keeps, an operation on a ready database keeps. -/
theorem Operation.apply_keeps {P : Store → Prop}
    (change : ∀ now s s', Store.Change now s s' → P s → P s') (op : Operation) (now : Int)
    {s : Store} (hs : P s) : ∃ s', op.apply now (ready s) = ready s' ∧ P s' := by
  obtain ⟨s', hApply, hChanges⟩ := op.apply_ready now s
  refine ⟨s', hApply, ?_⟩
  -- along the changes that the operation makes
  clear hApply
  induction hChanges with
  | refl => exact hs
  | tail _ hChange ih => exact change now _ _ hChange ih

/-- The database after operations, each at its time. -/
def Database.afterAll (operations : List (Operation × Int)) (db : Database) : Database :=
  operations.foldl (fun db step => step.1.apply step.2 db) db

/-- What every change keeps is kept by every run. -/
theorem Database.afterAll_keeps {P : Store → Prop}
    (change : ∀ now s s', Store.Change now s s' → P s → P s')
    (operations : List (Operation × Int)) {s : Store} (hs : P s) :
    ∃ s', (ready s).afterAll operations = ready s' ∧ P s' := by
  induction operations generalizing s with
  | nil => exact ⟨s, rfl, hs⟩
  | cons step rest ih =>
    obtain ⟨s₁, hApply, hs₁⟩ := step.1.apply_keeps change step.2 hs
    obtain ⟨s', hRest, hs'⟩ := ih hs₁
    refine ⟨s', ?_, hs'⟩
    rw [← hRest, ← hApply]
    rfl

/-- A run leads from reachable databases to reachable ones. -/
theorem Database.Reachable.afterAll {db : Database} (h : db.Reachable)
    (operations : List (Operation × Int)) : (db.afterAll operations).Reachable := by
  unfold Database.afterAll
  induction operations generalizing db with
  | nil => exact h
  | cons step rest ih => exact ih (.operation step.1 step.2 h)

/-- What new tables have and every change keeps, the tables of a reachable database have. -/
theorem Database.Reachable.induction {P : Store → Prop} (fresh : ∀ now, P (.fresh now))
    (change : ∀ now s s', Store.Change now s s' → P s → P s') {db : Database}
    (h : db.Reachable) : ∃ s, db = ready s ∧ P s := by
  induction h with
  | prepared now => exact ⟨.fresh now, rfl, fresh now⟩
  | operation op now _ ih =>
    obtain ⟨s, rfl, hs⟩ := ih
    exact op.apply_keeps change now hs

/-- The tables of a reachable database are sound. -/
theorem Database.Reachable.sound {db : Database} (h : db.Reachable) :
    ∃ s, db = ready s ∧ s.Sound :=
  h.induction Store.sound_fresh fun _ _ _ => Store.Change.sound

/-- A library with one image, tagged with two names in three spellings. -/
def Database.taggedImage : Database :=
  (Operation.addTags 1 [⟨"Cat", .general⟩, ⟨" cAT ", .artist⟩, ⟨"Ada", .artist⟩]).apply 2
    ((Operation.createMedia (.image "a")).apply 1 ((Database.prepare 0).after {}))

theorem Database.reachable_taggedImage : taggedImage.Reachable :=
  .operation _ 2 (.operation _ 1 (.prepared 0))

/-- A library with one image, tagged with two names of which the store reads the same, and leaves
more of the first one unread. -/
def Database.hiddenNames : Database :=
  (Operation.addTags 1 [⟨"a\x00ab", .general⟩, ⟨"a\x00z", .general⟩]).apply 2
    ((Operation.createMedia (.image "a")).apply 1 ((Database.prepare 0).after {}))

theorem Database.reachable_hiddenNames : hiddenNames.Reachable :=
  .operation _ 2 (.operation _ 1 (.prepared 0))

end MediaLibrary
