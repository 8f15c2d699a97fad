import MediaLibrary.Store.Effect

/-!
# Database — work on the store

Work on the store takes the lock, looks at the tables and changes them. The lock
breaks for good if a task fails inside it; the tables may not have been created
yet. Work that fails keeps what it has done so far: only a transaction takes it
back.

* `Work` — a step that may change the database, and may fail;
* `Work.transaction` — all or nothing.
-/

namespace MediaLibrary

/-- The store behind its lock. -/
structure Database where
  /-- The tables, once they are created. -/
  store : Option Store := none
  lockBroken : Bool := false
deriving DecidableEq

/-- Work on the database. -/
abbrev Work (α : Type) := ExceptT Error (StateM Database) α

namespace Work

variable {α : Type}

/-- The outcome of work, and the database after it. -/
def on (work : Work α) (db : Database) : Except Error α × Database :=
  (ExceptT.run work).run db

/-- Takes the lock. -/
def lock : Work Unit := do
  if (← get).lockBroken then throw (Error.defect .brokenLock)

/-- The tables, for work that looks first at this one. -/
def tables (table : String) : Work Store := do
  match (← get).store with
  | some s => return s
  | none => throw (Error.storage (.missingTable table))

/-- The tables after a change. -/
def put (s : Store) : Work Unit :=
  modify fun db => { db with store := some s }

/-- The input of work, or the fault of it. -/
def ofInput (outcome : Except InputFault α) : Work α :=
  ofExcept (outcome.mapError Error.input)

/-- An insertion: its id, and the tables after it. -/
def inserted (outcome : Except StorageFault (Int × Store)) : Work Int := do
  let (id, s) ← ofExcept (outcome.mapError Error.storage)
  put s
  return id

/-- Work behind the lock that is done as a whole or not at all. -/
def transaction (work : Work α) : Work α := do
  lock
  let before ← get
  try work
  catch e =>
    set before
    throw e

end Work

end MediaLibrary
