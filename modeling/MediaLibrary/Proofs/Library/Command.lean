import MediaLibrary.Library.Commands

/-!
# Library — laws of commands

A command is a function of the library it is given to. The laws here say what each of the
building blocks of commands answers and leaves behind. Work on the database leaves all
else in the library alone.

* `Command.on_bind` — one command after the other;
* `Command.on_work` — work on the database of the library.
-/

namespace MediaLibrary

namespace Command

variable {α β : Type}

@[simp] theorem on_pure (a : α) (l : Library) : (pure a : Command α).on l = (.ok a, l) := rfl

@[simp] theorem on_get (l : Library) : (get : Command Library).on l = (.ok l, l) := rfl

@[simp] theorem on_ofExcept (outcome : Except Error α) (l : Library) :
    Command.on (ofExcept outcome) l = (outcome, l) := by
  cases outcome <;> rfl

/-- A command that fails is not followed by another one. -/
theorem on_bind (command : Command α) (next : α → Command β) (l : Library) :
    (command >>= next).on l =
      match command.on l with
      | (.ok a, l) => (next a).on l
      | (.error e, l) => (.error e, l) := by
  simp only [on, ExceptT.run, bind, ExceptT.bind, ExceptT.mk, StateT.run, StateT.bind]
  rcases (command l : Except Error α × Library) with ⟨_ | a, l⟩ <;> rfl

theorem on_work (work : Work α) (l : Library) :
    (Command.work work).on l =
      ((work.on l.database).1, { l with database := (work.on l.database).2 }) := by
  have hWork : (Command.work work).on l = (Command.on (ofExcept (work.on l.database).1)
      { l with database := (work.on l.database).2 }) := rfl
  rw [hWork, on_ofExcept]

end Command

end MediaLibrary
