import MediaLibrary.Database.Basic

/-!
# Database — laws of work

Work is a function of the database it is done on. The laws here say what each of
its building blocks answers and leaves behind, so that operations are understood
step by step and never opened as functions. Most of them speak of a database that
is *ready*: its tables exist and its lock works.

* `Work.on_bind` — work one after the other;
* `Work.on_transaction` — work that fails in a transaction leaves nothing behind;
* `Work.on_lock`, `Work.on_tables`, `Work.on_put` — the steps on a ready database.
-/

namespace MediaLibrary

/-- A database whose tables exist and whose lock works. -/
def Database.ready (s : Store) : Database where
  store := some s

/-- What is decided of the tables of a database holds of the store that it is ready with. -/
theorem Database.holds_of_ready {db : Database} {s : Store} (hReady : db = ready s)
    (P : Store → Prop) [DecidablePred P]
    (h : db.store.map (fun s => decide (P s)) = some true) : P s := by
  rw [hReady, ready, Option.map_some, Option.some_inj] at h
  exact of_decide_eq_true h

namespace Work

open Database (ready)

variable {α β : Type}

-- ---------------------------------------------------------------------------
-- Any database
-- ---------------------------------------------------------------------------

@[simp] theorem on_pure (a : α) (db : Database) : (pure a : Work α).on db = (.ok a, db) := rfl

@[simp] theorem on_throw (e : Error) (db : Database) :
    (throw e : Work α).on db = (.error e, db) := rfl

/-- An outcome that is known already is told, and the database is as it was. -/
@[simp] theorem on_ofExcept (outcome : Except Error α) (db : Database) :
    Work.on (ofExcept outcome) db = (outcome, db) := by
  cases outcome <;> rfl

/-- Work that fails is not followed by other work. -/
theorem on_bind (work : Work α) (next : α → Work β) (db : Database) :
    (work >>= next).on db =
      match work.on db with
      | (.ok a, db) => (next a).on db
      | (.error e, db) => (.error e, db) := by
  simp only [on, ExceptT.run, bind, ExceptT.bind, ExceptT.mk, StateT.run, StateT.bind]
  rcases (work db : Except Error α × Database) with ⟨_ | a, db⟩ <;> rfl

/-- An error is handled where the database is by then. -/
theorem on_tryCatch (work : Work α) (handler : Error → Work α) (db : Database) :
    (tryCatch work handler).on db =
      match work.on db with
      | (.ok a, db) => (.ok a, db)
      | (.error e, db) => (handler e).on db := by
  simp only [on, tryCatch, tryCatchThe, MonadExceptOf.tryCatch, ExceptT.tryCatch, ExceptT.run,
    ExceptT.mk, StateT.run, bind, StateT.bind]
  rcases (work db : Except Error α × Database) with ⟨_ | a, db⟩ <;> rfl

-- ---------------------------------------------------------------------------
-- A ready database
-- ---------------------------------------------------------------------------

@[simp] theorem on_lock (s : Store) : lock.on (ready s) = (.ok (), ready s) := rfl

@[simp] theorem on_tables (table : String) (s : Store) :
    (tables table).on (ready s) = (.ok s, ready s) := rfl

@[simp] theorem on_put (s s' : Store) : (put s').on (ready s) = (.ok (), ready s') := rfl

/-- An insertion answers with the new id, or with the fault and nothing changed. -/
@[simp] theorem on_inserted (outcome : Except StorageFault (Int × Store)) (s : Store) :
    (inserted outcome).on (ready s) =
      match outcome with
      | .ok (id, s') => (.ok id, ready s')
      | .error e => (.error (.storage e), ready s) := by
  cases outcome <;> rfl

/-- A transaction keeps the database of work that succeeds and restores it after work that
fails. -/
@[simp] theorem on_transaction (work : Work α) (s : Store) :
    (transaction work).on (ready s) =
      match work.on (ready s) with
      | (.ok a, db) => (.ok a, db)
      | (.error e, _) => (.error e, ready s) := by
  have hGet : (get : Work Database).on (ready s) = (.ok (ready s), ready s) := rfl
  simp only [transaction, on_bind, on_lock, hGet, on_tryCatch]
  rcases work.on (ready s) with ⟨_ | a, db⟩ <;> rfl

end Work

end MediaLibrary
