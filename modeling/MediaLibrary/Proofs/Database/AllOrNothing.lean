import MediaLibrary.Proofs.Database.Run

/-!
# Database — all or nothing

An operation that fails has changed nothing, on any database: the tables may be
missing, the lock may be broken, and the operation may have inserted rows and moved
counters before it came to what it cannot do. Work that only looks at the database can
be followed by anything; a change comes last, where nothing can fail any more; and
whatever makes several changes runs in a transaction.

* `Work.AllOrNothing` — work that changes nothing where it fails;
* `Work.transaction_allOrNothing`, `Work.AllOrNothing.after_look` — how operations come to be such;
* `Operation.apply_eq_self_of_fault` — every operation is.
-/

namespace MediaLibrary

namespace Work

open Database (ready)

variable {α β : Type}

/-- Why work fails on a database, if it does. -/
def fault? (work : Work α) (db : Database) : Option Error :=
  match (work.on db).1 with
  | .ok _ => none
  | .error e => some e

/-- Work that changes nothing where it fails. -/
def AllOrNothing (work : Work α) : Prop :=
  ∀ db e db', work.on db = (.error e, db') → db' = db

/-- Work that changes nothing at all. -/
def Looks (work : Work α) : Prop :=
  ∀ db, (work.on db).2 = db

-- ---------------------------------------------------------------------------
-- Work that looks
-- ---------------------------------------------------------------------------

theorem looks_throw (e : Error) : (throw e : Work α).Looks :=
  fun _ => rfl

/-- To take the lock is only a look. -/
theorem looks_lock : lock.Looks := by
  rintro ⟨store, lockBroken⟩
  cases lockBroken <;> rfl

theorem looks_tables (table : String) : (tables table).Looks := by
  rintro ⟨store, lockBroken⟩
  cases store <;> rfl

-- ---------------------------------------------------------------------------
-- Work that changes
-- ---------------------------------------------------------------------------

/-- Work that changes nothing may come before any work. -/
theorem AllOrNothing.after_look {work : Work α} {next : α → Work β} (hLook : work.Looks)
    (h : ∀ a, (next a).AllOrNothing) : (work >>= next).AllOrNothing := by
  intro db e db' hOn
  have hSame := hLook db
  rw [on_bind] at hOn
  cases hWork : work.on db with
  | mk outcome db₁ =>
    rw [hWork] at hOn hSame
    obtain rfl : db₁ = db := hSame
    cases outcome with
    | error e' =>
      cases hOn
      rfl
    | ok a => exact h a db₁ e db' hOn

/-- Work under the lock is as safe as without it. -/
theorem AllOrNothing.lock {work : Work α} (h : work.AllOrNothing) :
    (do Work.lock; work : Work α).AllOrNothing :=
  .after_look looks_lock fun _ => h

/-- A check may come before any work. -/
theorem AllOrNothing.check {failing : Bool} {e : Error} {work : Work α} (h : work.AllOrNothing) :
    (if failing = true then do MonadExcept.throw e; work else work).AllOrNothing := by
  cases failing with
  | true => exact .after_look (looks_throw (α := PUnit) e) fun _ => h
  | false => exact h

/-- Nothing fails any more once the tables are changed. -/
theorem put_allOrNothing (s : Store) (a : α) : (do put s; return a : Work α).AllOrNothing := by
  intro db e db' hOn
  cases hOn

/-- An insertion that the store refuses changes nothing. -/
theorem inserted_allOrNothing (outcome : Except StorageFault (Int × Store)) :
    (inserted outcome).AllOrNothing := by
  intro db e db' hOn
  cases outcome with
  | error fault =>
    cases hOn
    rfl
  | ok made => cases hOn

/-- Whatever its work does, a transaction that fails leaves nothing of it behind. -/
theorem transaction_allOrNothing (work : Work α) : (transaction work).AllOrNothing := by
  refine .lock ?_
  intro db e db' hOn
  have hGet : (get : Work Database).on db = (.ok db, db) := rfl
  rw [on_bind, hGet] at hOn
  simp only [on_tryCatch] at hOn
  cases hWork : work.on db with
  | mk outcome db₁ =>
    rw [hWork] at hOn
    cases outcome with
    | error e' =>
      cases hOn
      rfl
    | ok a => cases hOn

/-- Work that fails leaves the database as it was. -/
theorem AllOrNothing.after_of_fault {work : Work α} (h : work.AllOrNothing) {db : Database}
    {e : Error} (hFault : work.fault? db = some e) : work.after db = db := by
  cases hWork : work.on db with
  | mk outcome db' =>
    rw [fault?, hWork] at hFault
    cases outcome with
    | error e' =>
      rw [after, hWork]
      exact h db e' db' hWork
    | ok a => cases hFault

/-- What holds of a store holds after work that is all or nothing, if it holds where the work
succeeds. -/
theorem Moves.after_keeps {now : Int} {s : Store} {work : Work α} {told : α → Store → Prop}
    (h : work.Moves now s told) (hFails : work.AllOrNothing) {P : Store → Prop} (hs : P s)
    (hTold : ∀ a s', told a s' → P s') : ∃ s', work.after (ready s) = ready s' ∧ P s' := by
  obtain ⟨outcome, s', hOn, -, hOk⟩ := h
  cases outcome with
  | error e => exact ⟨s, by rw [after, hOn, hFails _ e _ hOn], hs⟩
  | ok a => exact ⟨s', by rw [after, hOn], hTold a s' (hOk a rfl)⟩

/-- Work that is all or nothing fails and leaves the store as it was, or it succeeds as told. -/
theorem Moves.fails_or_told {now : Int} {s : Store} {work : Work α} {told : α → Store → Prop}
    (h : work.Moves now s told) (hFails : work.AllOrNothing) :
    (∃ e, work.on (ready s) = (.error e, ready s)) ∨
      ∃ a s', work.on (ready s) = (.ok a, ready s') ∧ told a s' := by
  obtain ⟨outcome, s', hOn, -, hOk⟩ := h
  cases outcome with
  | error e => exact .inl ⟨e, by rw [hOn, hFails _ e _ hOn]⟩
  | ok a => exact .inr ⟨a, s', hOn, hOk a rfl⟩

end Work

-- ---------------------------------------------------------------------------
-- Operations
-- ---------------------------------------------------------------------------

namespace Database

open Work

/-- A medium is inserted or nothing is changed. -/
theorem insertMedia_allOrNothing (m : NewMedia) (now : Int) : (insertMedia m now).AllOrNothing :=
  .after_look (looks_tables "media") fun _ => inserted_allOrNothing _

theorem insertTag_allOrNothing (tag : NewTag) (now : Int) : (insertTag tag now).AllOrNothing :=
  .check (.after_look (looks_tables "tags") fun _ => inserted_allOrNothing _)

/-- A medium is changed or nothing is. -/
theorem changeFor_allOrNothing (id : Int) (change : Store → Store) :
    (changeFor id change).AllOrNothing :=
  .after_look (looks_tables "media") fun _ => put_allOrNothing _ _

/-- A parent is set or nothing is changed. -/
theorem setParent_allOrNothing (id : Int) (parent : Option Int) (now : Int) :
    (setParent id parent now).AllOrNothing :=
  .check (transaction_allOrNothing _)

/-- A tag is detached or nothing is changed. -/
theorem removeTag_allOrNothing (mediaId tagId now : Int) :
    (removeTag mediaId tagId now).AllOrNothing :=
  .lock (.after_look (looks_tables "media_tags") fun _ => put_allOrNothing _ _)

end Database

/-- Why an operation fails on a database, if it does. -/
def Operation.fault? (op : Operation) (now : Int) (db : Database) : Option Error :=
  match op with
  | createMedia m => (Database.createMedia m now).fault? db
  | createMediaBatch items => (Database.createMediaBatch items now).fault? db
  | deleteMedia id => (Database.deleteMedia id now).fault? db
  | setFavorite id isFavorite => (Database.setFavorite id isFavorite now).fault? db
  | setRating id rating => (Database.setRating id rating now).fault? db
  | setParent id parent => (Database.setParent id parent now).fault? db
  | recordView id => (Database.recordView id now).fault? db
  | createTag tag => (Database.createTag tag now).fault? db
  | getOrCreateTag tag => (Database.getOrCreateTag tag now).fault? db
  | deleteTag id => (Database.deleteTag id now).fault? db
  | addTags mediaId tags => (Database.addTags mediaId tags now).fault? db
  | removeTag mediaId tagId => (Database.removeTag mediaId tagId now).fault? db

/-- An operation that fails leaves any database as it was: all rows, all versions, and the last id
of every table. -/
theorem Operation.apply_eq_self_of_fault {op : Operation} {now : Int} {db : Database} {e : Error}
    (h : op.fault? now db = some e) : op.apply now db = db := by
  cases op with
  | createMedia m => exact (Database.insertMedia_allOrNothing m now).lock.after_of_fault h
  | createMediaBatch items => exact (Work.transaction_allOrNothing _).after_of_fault h
  | deleteMedia id => exact (Database.changeFor_allOrNothing id _).lock.after_of_fault h
  | setFavorite id isFavorite => exact (Database.changeFor_allOrNothing id _).lock.after_of_fault h
  | setRating id rating => exact (Database.changeFor_allOrNothing id _).lock.after_of_fault h
  | setParent id parent => exact (Database.setParent_allOrNothing id parent now).after_of_fault h
  | recordView id => exact (Work.transaction_allOrNothing _).after_of_fault h
  | createTag tag => exact (Database.insertTag_allOrNothing tag now).lock.after_of_fault h
  | getOrCreateTag tag => exact (Work.transaction_allOrNothing _).after_of_fault h
  | deleteTag id => exact (Work.transaction_allOrNothing _).after_of_fault h
  | addTags mediaId tags => exact (Work.transaction_allOrNothing _).after_of_fault h
  | removeTag mediaId tagId =>
    exact (Database.removeTag_allOrNothing mediaId tagId now).after_of_fault h

/-- A blank name at the end of a list spoils the new tag before it. -/
theorem Operation.apply_eq_self_of_blank_name :
    (addTags 1 [⟨"new", .general⟩, ⟨" ", .general⟩]).fault? 3 Database.taggedImage =
        some (.input .blankTagName) ∧
      (addTags 1 [⟨"new", .general⟩, ⟨" ", .general⟩]).apply 3 Database.taggedImage =
        Database.taggedImage := by
  have hFault : (addTags 1 [⟨"new", .general⟩, ⟨" ", .general⟩]).fault? 3 Database.taggedImage =
      some (.input .blankTagName) := by
    decide +kernel
  exact ⟨hFault, apply_eq_self_of_fault hFault⟩

end MediaLibrary
