import MediaLibrary.Proofs.Database.AllOrNothing
import MediaLibrary.Proofs.Database.Updates
import MediaLibrary.Proofs.Store.Kinship

/-!
# Database — media that are their own parents

A medium is never moved below itself. But a request for a new medium may name the id that the
medium is given, and nobody looks at this: the medium exists when its parent is looked for. So a
medium may come as its own parent. There is no other way to become one, and it stays one until it
is deleted or moved.

* `Store.IsOwnParent` — a medium names itself as its parent;
* `Database.steps` — the operations of a run, each with the database that it finds;
* `Step.CreatesOwnParent`, `Step.Parts` — how such a medium comes, and how it ceases to be one;
* `Operation.isOwnParent_apply`, `Database.isOwnParent_afterAll` — one operation, and a run;
* `own_parents_of_run` — who is its own parent after a run, and when nobody ever is.
-/

namespace MediaLibrary

open Database (ready)

-- ---------------------------------------------------------------------------
-- Kinship
-- ---------------------------------------------------------------------------

namespace Kinship

variable {k : Kinship} {id : Int}

/-- A medium names itself as its parent. -/
def IsOwnParent (k : Kinship) (id : Int) : Prop :=
  ∃ kin ∈ k, kin.id = id ∧ kin.parentId = some id

/-- Entries that keep their ids are their own parents where their new parents say so. -/
theorem isOwnParent_map {f : Kin → Kin} (hf : ∀ kin, (f kin).id = kin.id) :
    IsOwnParent (k.map f) id ↔ ∃ kin ∈ k, kin.id = id ∧ (f kin).parentId = some id := by
  simp [IsOwnParent, hf]

/-- Own parents are looked for entry by entry. -/
theorem isOwnParent_append {l : Kinship} :
    IsOwnParent (k ++ l) id ↔ k.IsOwnParent id ∨ l.IsOwnParent id := by
  simp only [IsOwnParent, List.mem_append, or_and_right, exists_or]

/-- Marks do not matter. -/
theorem isOwnParent_refresh (parent : Option Int) :
    (k.refresh parent).IsOwnParent id ↔ k.IsOwnParent id := by
  cases parent with
  | none => rfl
  | some p =>
    have hKept (kin : Kin) :
        (if kin.id == p then { kin with hasChildren := k.isParent p } else kin).id = kin.id ∧
        (if kin.id == p then { kin with hasChildren := k.isParent p } else kin).parentId =
          kin.parentId := by
      split <;> exact ⟨rfl, rfl⟩
    rw [refresh, isOwnParent_map fun kin => (hKept kin).1]
    simp only [hKept, IsOwnParent]

/-- A medium that is moved below another one is not its own parent. -/
theorem isOwnParent_reparent {moved : Int} {parent : Option Int} (hOther : parent ≠ some moved) :
    (k.reparent moved parent).IsOwnParent id ↔ k.IsOwnParent id ∧ moved ≠ id := by
  rw [reparent, isOwnParent_map fun kin => by split <;> rfl]
  constructor
  · rintro ⟨kin, hKin, rfl, hParent⟩
    by_cases hMoved : kin.id = moved
    · rw [if_pos (beq_iff_eq.mpr hMoved), hMoved] at hParent
      exact absurd hParent hOther
    · rw [if_neg (by simpa using hMoved)] at hParent
      exact ⟨⟨kin, hKin, rfl, hParent⟩, Ne.symm hMoved⟩
  · rintro ⟨⟨kin, hKin, rfl, hParent⟩, hMoved⟩
    refine ⟨kin, hKin, rfl, ?_⟩
    rwa [if_neg (by simpa using hMoved.symm)]

/-- A medium that goes is nobody's parent, and for the others it makes no difference. -/
theorem isOwnParent_remove {gone : Int} :
    (orphan (k.filter (·.id != gone)) gone).IsOwnParent id ↔ k.IsOwnParent id ∧ gone ≠ id := by
  rw [orphan, isOwnParent_map fun kin => by split <;> rfl]
  constructor
  · rintro ⟨kin, hKin, rfl, hParent⟩
    obtain ⟨hKin, hStays⟩ := List.mem_filter.mp hKin
    split at hParent
    · cases hParent
    · exact ⟨⟨kin, hKin, rfl, hParent⟩, Ne.symm (bne_iff_ne.mp hStays)⟩
  · rintro ⟨⟨kin, hKin, rfl, hParent⟩, hStays⟩
    refine ⟨kin, List.mem_filter.mpr ⟨hKin, bne_iff_ne.mpr hStays.symm⟩, rfl, ?_⟩
    rw [if_neg (by simpa [hParent] using hStays.symm), hParent]

end Kinship

-- ---------------------------------------------------------------------------
-- Stores
-- ---------------------------------------------------------------------------

namespace Store

variable {s s' : Store} {id now : Int}

/-- A medium names itself as its parent. -/
def IsOwnParent (s : Store) (id : Int) : Prop :=
  ∃ row ∈ s.media, row.id = id ∧ row.parentId = some id

/-- The kinship knows who is its own parent. -/
theorem isOwnParent_iff : s.IsOwnParent id ↔ s.kinship.IsOwnParent id := by
  simp [IsOwnParent, Kinship.IsOwnParent, kinship, MediaRow.kin]

theorem isOwnParent_of_kinship (h : s'.kinship = s.kinship) :
    s'.IsOwnParent id ↔ s.IsOwnParent id := by
  rw [isOwnParent_iff, h, ← isOwnParent_iff]

/-- A medium that does not exist is another one. -/
theorem ne_of_isOwnParent {missing : Int} (hRow : s.mediaRow? missing = none)
    (h : s.IsOwnParent id) : missing ≠ id := by
  obtain ⟨row, hMem, rfl, -⟩ := h
  rintro rfl
  simpa using List.find?_eq_none.mp hRow row hMem

/-- A new medium is its own parent just if it was asked for so. -/
theorem isOwnParent_insertMedia {m : NewMedia} {given : Int}
    (h : s.insertMedia m now = .ok (given, s')) :
    s'.IsOwnParent id ↔ s.IsOwnParent id ∨ (given = id ∧ m.parentId = some id) := by
  rw [isOwnParent_iff, kinship_insertMedia h, Kinship.isOwnParent_refresh,
    Kinship.isOwnParent_append, ← isOwnParent_iff]
  simp [Kinship.IsOwnParent]

/-- A medium that gets another parent is no longer its own. -/
theorem isOwnParent_setParent {moved : Int} {parent : Option Int} (hOther : parent ≠ some moved)
    (now : Int) :
    (s.setParent moved parent now).IsOwnParent id ↔ s.IsOwnParent id ∧ moved ≠ id := by
  cases hRow : s.mediaRow? moved with
  | none =>
    rw [setParent, hRow]
    exact (and_iff_left_of_imp (ne_of_isOwnParent hRow)).symm
  | some row =>
    rw [isOwnParent_iff, kinship_setParent hRow, Kinship.isOwnParent_refresh,
      Kinship.isOwnParent_refresh, Kinship.isOwnParent_reparent hOther, ← isOwnParent_iff]

/-- A medium that is deleted is no longer its own parent. -/
theorem isOwnParent_deleteMedia {gone : Int} (now : Int) :
    (s.deleteMedia gone now).IsOwnParent id ↔ s.IsOwnParent id ∧ gone ≠ id := by
  cases hRow : s.mediaRow? gone with
  | none =>
    rw [deleteMedia, hRow]
    exact (and_iff_left_of_imp (ne_of_isOwnParent hRow)).symm
  | some row =>
    rw [isOwnParent_iff, kinship_deleteMedia hRow, Kinship.isOwnParent_refresh,
      Kinship.isOwnParent_remove, ← isOwnParent_iff]

/-- To provide a tag does not touch the kinship. -/
theorem Provides.kinship {tag : NewTag} (h : s.Provides tag now id s') :
    s'.kinship = s.kinship := by
  rw [Store.kinship, h.exists_row.1, Store.kinship]

end Store

-- ---------------------------------------------------------------------------
-- Steps
-- ---------------------------------------------------------------------------

namespace Database

/-- An operation at a time, and the database that it finds. -/
structure Step where
  found : Database
  operation : Operation
  time : Int

/-- The operations of a run, each with the database that it finds. -/
def steps (db : Database) : List (Operation × Int) → List Step
  | [] => []
  | (op, now) :: rest => ⟨db, op, now⟩ :: (op.apply now db).steps rest

/-- The first operations of a run are its first steps. -/
theorem steps_take (db : Database) (run : List (Operation × Int)) (n : Nat) :
    db.steps (run.take n) = (db.steps run).take n := by
  induction run generalizing db n with
  | nil => simp [steps]
  | cons first rest ih =>
    cases n with
    | zero => rfl
    | succ n => rw [List.take_succ_cons, steps, steps, List.take_succ_cons, ih]

namespace Step

/-- A medium is created with this id, and the request for it names the id as the parent. -/
def CreatesOwnParent (step : Step) (id : Int) : Prop :=
  match step.operation with
  | .createMedia m => m.parentId = some id ∧
    ∃ db, (createMedia m step.time).on step.found = (.ok id, db)
  | .createMediaBatch items => ∃ m, m.parentId = some id ∧
    ∃ ids db, (createMediaBatch items step.time).on step.found = (.ok ids, db) ∧
      (m, id) ∈ items.zip ids
  | _ => False

/-- A medium is deleted, or it is given another parent or none. -/
def Parts (step : Step) (id : Int) : Prop :=
  match step.operation with
  | .deleteMedia gone => gone = id
  | .setParent moved parent => moved = id ∧
    ∃ answer db, (setParent moved parent step.time).on step.found = (.ok answer, db)
  | _ => False

/-- One of the steps creates a medium as its own parent, and none of those that follow parts the
medium from itself. -/
def LeaveOwnParent (steps : List Step) (id : Int) : Prop :=
  ∃ earlier step later, steps = earlier ++ step :: later ∧ step.CreatesOwnParent id ∧
    ∀ step' ∈ later, ¬step'.Parts id

variable {id : Int}

theorem not_leaveOwnParent_nil : ¬LeaveOwnParent [] id := by
  rintro ⟨earlier, step, later, hSteps, -⟩
  simp at hSteps

/-- The first step makes an own parent that the rest leaves alone, or the rest does it. -/
theorem leaveOwnParent_cons {step : Step} {rest : List Step} :
    LeaveOwnParent (step :: rest) id ↔
      (step.CreatesOwnParent id ∧ ∀ step' ∈ rest, ¬step'.Parts id) ∨ LeaveOwnParent rest id := by
  constructor
  · rintro ⟨earlier, made, later, hSteps, hLeft⟩
    cases earlier with
    | nil =>
      obtain ⟨rfl, rfl⟩ := List.cons.inj hSteps
      exact .inl hLeft
    | cons first earlier =>
      obtain ⟨-, rfl⟩ := List.cons.inj hSteps
      exact .inr ⟨earlier, made, later, rfl, hLeft⟩
  · rintro (hLeft | ⟨earlier, made, later, rfl, hLeft⟩)
    · exact ⟨[], step, rest, rfl, hLeft⟩
    · exact ⟨step :: earlier, made, later, rfl, hLeft⟩

end Step

end Database

-- ---------------------------------------------------------------------------
-- Operations
-- ---------------------------------------------------------------------------

namespace Database

open Work

/-- A batch adds those of its items that were asked for so. -/
theorem createMediaBatch_ownParents (items : List NewMedia) {now : Int} {s : Store} :
    (createMediaBatch items now).Moves now s fun ids s' => ∀ id, s'.IsOwnParent id ↔
      s.IsOwnParent id ∨ ∃ m, m.parentId = some id ∧ (m, id) ∈ items.zip ids := by
  have hEach : (items.mapM fun m => insertMedia m now).Moves now s fun ids s' =>
      ids.length = items.length ∧ ∀ id, s'.IsOwnParent id ↔
        s.IsOwnParent id ∨ ∃ m, m.parentId = some id ∧ (m, id) ∈ items.zip ids := by
    refine .mapM (fun done ids s' => ids.length = done.length ∧ ∀ id, s'.IsOwnParent id ↔
      s.IsOwnParent id ∨ ∃ m, m.parentId = some id ∧ (m, id) ∈ done.zip ids) items ?_ ?_
    · rintro done ids m s₁ ⟨hLength, hOwn⟩
      refine (insertMedia_moves m).weaken fun given s₂ hOk => ⟨by simp [hLength], fun id => ?_⟩
      rw [Store.isOwnParent_insertMedia hOk, hOwn, List.zip_append hLength.symm, or_assoc]
      refine or_congr_right ?_
      simp only [List.zip_cons_cons, List.zip_nil_right, List.mem_append, List.mem_singleton,
        Prod.mk.injEq, and_or_left, exists_or]
      refine or_congr_right ⟨?_, ?_⟩
      · rintro ⟨rfl, hParent⟩
        exact ⟨m, hParent, rfl, rfl⟩
      · rintro ⟨_, hParent, rfl, rfl⟩
        exact ⟨rfl, hParent⟩
    · simp
  exact (hEach.weaken fun _ _ hTold => hTold.2).transaction

end Database

namespace Operation

open Database

variable {now : Int} {s : Store} {op : Operation}

/-- What an operation leaves: media are their own parents as before, but for one that is parted from
itself and for those that are created so. -/
def LeavesOwnParents (op : Operation) (now : Int) (s : Store) : Prop :=
  ∃ s', op.apply now (ready s) = ready s' ∧ ∀ id, s'.IsOwnParent id ↔
    Step.CreatesOwnParent ⟨ready s, op, now⟩ id ∨
      (s.IsOwnParent id ∧ ¬Step.Parts ⟨ready s, op, now⟩ id)

/-- A medium that is created is its own parent just if it names its own id. -/
theorem createMedia_leavesOwnParents (m : NewMedia) (now : Int) (s : Store) :
    (createMedia m).LeavesOwnParents now s := by
  rcases (insertMedia_moves m).lock.fails_or_told (insertMedia_allOrNothing m now).lock with
    ⟨e, hOn⟩ | ⟨given, s', hOn, hOk⟩
  · refine ⟨s, congrArg Prod.snd hOn, fun id => ?_⟩
    simp [Step.CreatesOwnParent, Step.Parts, Database.createMedia, hOn]
  · refine ⟨s', congrArg Prod.snd hOn, fun id => ?_⟩
    rw [Store.isOwnParent_insertMedia hOk]
    simp [Step.CreatesOwnParent, Step.Parts, Database.createMedia, hOn, and_comm, or_comm]

/-- A batch leaves the own parents that its items name. -/
theorem createMediaBatch_leavesOwnParents (items : List NewMedia) (now : Int) (s : Store) :
    (createMediaBatch items).LeavesOwnParents now s := by
  rcases (createMediaBatch_ownParents items).fails_or_told (Work.transaction_allOrNothing _) with
    ⟨e, hOn⟩ | ⟨ids, s', hOn, hOwn⟩
  · refine ⟨s, congrArg Prod.snd hOn, fun id => ?_⟩
    simp [Step.CreatesOwnParent, Step.Parts, hOn]
  · refine ⟨s', congrArg Prod.snd hOn, fun id => ?_⟩
    rw [hOwn]
    simp [Step.CreatesOwnParent, Step.Parts, hOn, or_comm]

/-- A deletion leaves no new own parent. -/
theorem deleteMedia_leavesOwnParents (gone now : Int) (s : Store) :
    (deleteMedia gone).LeavesOwnParents now s := by
  refine ⟨s.deleteMedia gone now, congrArg Prod.snd (deleteMedia_on s gone now), fun id => ?_⟩
  rw [Store.isOwnParent_deleteMedia]
  simp [Step.CreatesOwnParent, Step.Parts]

/-- A move that is refused parts nobody, and one that is accepted does not lead below itself. -/
theorem setParent_leavesOwnParents (moved : Int) (parent : Option Int) (now : Int) (s : Store) :
    (setParent moved parent).LeavesOwnParents now s := by
  by_cases hMove : s.AcceptsMove moved parent
  · have hOn := setParent_accepted hMove now
    refine ⟨s.setParent moved parent now, congrArg Prod.snd hOn, fun id => ?_⟩
    rw [Store.isOwnParent_setParent hMove.1]
    simp [Step.CreatesOwnParent, Step.Parts, hOn]
  · obtain ⟨e, hOn⟩ := setParent_refused hMove now
    refine ⟨s, congrArg Prod.snd hOn, fun id => ?_⟩
    simp [Step.CreatesOwnParent, Step.Parts, hOn]

/-- An operation that changes neither media nor parents. -/
theorem leavesOwnParents_of_moves {α : Type} {work : Work α} {told : α → Store → Prop}
    (h : work.Moves now s told) (hFails : work.AllOrNothing)
    (hApply : op.apply now (ready s) = work.after (ready s))
    (hCreates : ∀ id, ¬Step.CreatesOwnParent ⟨ready s, op, now⟩ id)
    (hParts : ∀ id, ¬Step.Parts ⟨ready s, op, now⟩ id)
    (hTold : ∀ a s', told a s' → s'.kinship = s.kinship) : op.LeavesOwnParents now s := by
  obtain ⟨s', hAfter, hKinship⟩ := h.after_keeps hFails (P := (·.kinship = s.kinship)) rfl hTold
  refine ⟨s', hApply.trans hAfter, fun id => ?_⟩
  rw [Store.isOwnParent_of_kinship hKinship]
  simp [hCreates, hParts]

/-- Every operation, on any store. -/
theorem isOwnParent_apply (op : Operation) (now : Int) (s : Store) :
    op.LeavesOwnParents now s := by
  -- an operation that leaves kinship alone neither creates a medium nor parts one
  have hNever (_ : Int) : ¬False := not_false
  cases op with
  | createMedia m => exact createMedia_leavesOwnParents m now s
  | createMediaBatch items => exact createMediaBatch_leavesOwnParents items now s
  | deleteMedia id => exact deleteMedia_leavesOwnParents id now s
  | setParent id parent => exact setParent_leavesOwnParents id parent now s
  | setFavorite id isFavorite =>
    refine leavesOwnParents_of_moves (changeFor_moves id (.setFavorite s id isFavorite)).lock
      (changeFor_allOrNothing id _).lock rfl hNever hNever ?_
    rintro _ _ rfl
    exact Store.kinship_changeMedia id fun _ => rfl
  | setRating id rating =>
    refine leavesOwnParents_of_moves (changeFor_moves id (.setRating s id rating)).lock
      (changeFor_allOrNothing id _).lock rfl hNever hNever ?_
    rintro _ _ rfl
    exact Store.kinship_changeMedia id fun _ => rfl
  | recordView id =>
    refine leavesOwnParents_of_moves (recordView_moves id) (Work.transaction_allOrNothing _) rfl
      hNever hNever ?_
    rintro _ _ rfl
    exact Store.kinship_changeMedia id fun _ => rfl
  | createTag tag =>
    refine leavesOwnParents_of_moves (insertTag_moves tag).lock
      (insertTag_allOrNothing tag now).lock rfl hNever hNever fun id _ hOk => ?_
    exact Store.Provides.kinship (.inr hOk)
  | getOrCreateTag tag =>
    exact leavesOwnParents_of_moves (findOrInsertTag_moves tag).transaction
      (Work.transaction_allOrNothing _) rfl hNever hNever fun _ _ hHad => hHad.kinship
  | deleteTag id =>
    refine leavesOwnParents_of_moves (deleteTag_moves id) (Work.transaction_allOrNothing _) rfl
      hNever hNever ?_
    rintro _ _ rfl
    exact Store.kinship_detachAll _ now
  | addTags mediaId tags =>
    refine leavesOwnParents_of_moves
      (addTags_keeps (fun _ _ s' => s'.kinship = s.kinship) rfl ?_)
      (Work.transaction_allOrNothing _) rfl hNever hNever fun _ _ hKept => hKept
    intro _ _ _ _ s₁ s₂ hKept hHad _ _
    rw [Store.kinship_attach, hHad.kinship, hKept]
  | removeTag mediaId tagId =>
    refine leavesOwnParents_of_moves (removeTag_moves mediaId tagId)
      (removeTag_allOrNothing mediaId tagId now) rfl hNever hNever ?_
    rintro _ _ rfl
    exact Store.kinship_detach ..

end Operation

-- ---------------------------------------------------------------------------
-- Runs
-- ---------------------------------------------------------------------------

/-- Who is its own parent after a run was so before and was never parted from itself, or came so
and was not parted since. -/
theorem Database.isOwnParent_afterAll (s : Store) (run : List (Operation × Int)) :
    ∃ s', (ready s).afterAll run = ready s' ∧ ∀ id, s'.IsOwnParent id ↔
      (s.IsOwnParent id ∧ ∀ step ∈ (ready s).steps run, ¬step.Parts id) ∨
        Step.LeaveOwnParent ((ready s).steps run) id := by
  induction run generalizing s with
  | nil => exact ⟨s, rfl, fun id => by simp [steps, Step.not_leaveOwnParent_nil]⟩
  | cons first rest ih =>
    obtain ⟨op, now⟩ := first
    obtain ⟨s₁, hApply, hFirst⟩ := op.isOwnParent_apply now s
    obtain ⟨s', hRest, hOwn⟩ := ih s₁
    rw [← hApply] at hRest hOwn
    refine ⟨s', hRest, fun id => ?_⟩
    rw [hOwn, hFirst, steps, Step.leaveOwnParent_cons, List.forall_mem_cons]
    tauto

/-- A medium is its own parent after a run just if it was created by a request that names the id it
is given, and since then has neither been deleted nor moved. So nobody is its own parent at any time
of a run just if the run has no such request. -/
theorem own_parents_of_run (start : Int) (run : List (Operation × Int)) :
    let db := (Database.prepare start).after {}
    (∃ s, db.afterAll run = ready s ∧ ∀ id, s.IsOwnParent id ↔
      Database.Step.LeaveOwnParent (db.steps run) id) ∧
    ((∀ n, ∃ s, db.afterAll (run.take n) = ready s ∧
        ∀ row ∈ s.media, row.parentId ≠ some row.id) ↔
      ∀ step ∈ db.steps run, ∀ id, ¬step.CreatesOwnParent id) := by
  intro db
  have hRun (run : List (Operation × Int)) : ∃ s, db.afterAll run = ready s ∧
      ∀ id, s.IsOwnParent id ↔ Database.Step.LeaveOwnParent (db.steps run) id := by
    obtain ⟨s, hAfter, hOwn⟩ := Database.isOwnParent_afterAll (.fresh start) run
    refine ⟨s, hAfter, fun id => (hOwn id).trans (or_iff_right ?_)⟩
    rintro ⟨⟨row, hRow, -⟩, -⟩
    cases hRow
  refine ⟨hRun run, ?_, ?_⟩
  · -- the step that creates such a medium is the last one of a shorter run
    intro hNever step hStep id hCreates
    obtain ⟨earlier, later, hSteps⟩ := List.append_of_mem hStep
    obtain ⟨s, hAfter, hNone⟩ := hNever (earlier.length + 1)
    obtain ⟨s', hAfter', hOwn⟩ := hRun (run.take (earlier.length + 1))
    obtain rfl : s' = s := Option.some.inj (congrArg Database.store (hAfter'.symm.trans hAfter))
    have hTaken : db.steps (run.take (earlier.length + 1)) = earlier ++ [step] := by
      rw [Database.steps_take, hSteps, List.take_length_add_append, List.take_succ_cons,
        List.take_zero]
    obtain ⟨row, hRow, rfl, hParent⟩ :=
      (hOwn id).mpr ⟨earlier, step, [], hTaken, hCreates, by simp⟩
    exact hNone row hRow hParent
  · intro hNever n
    obtain ⟨s, hAfter, hOwn⟩ := hRun (run.take n)
    refine ⟨s, hAfter, fun row hRow hParent => ?_⟩
    obtain ⟨earlier, step, later, hSteps, hCreates, -⟩ := (hOwn row.id).mp ⟨row, hRow, rfl, hParent⟩
    rw [Database.steps_take] at hSteps
    have hStep : step ∈ (db.steps run).take n := hSteps ▸ List.mem_append_cons_self
    exact hNever step (List.mem_of_mem_take hStep) row.id hCreates

/-- A library with one image. It was asked for as a child of the first medium, and it is the
first. -/
def Database.selfNamed : Database :=
  (Operation.createMedia { NewMedia.image "a" with parentId := some 1 }).apply 1
    ((Database.prepare 0).after {})

/-- The image is its own parent. To be moved below itself would be refused. -/
theorem own_parent_in_selfNamed :
    Database.selfNamed.Reachable ∧
      (∃ s, Database.selfNamed = ready s ∧ ∃ row ∈ s.media, row.parentId = some row.id) ∧
      (Database.setParent 1 (some 1) 2).on Database.selfNamed =
        (.error (.input .parentOfItself), Database.selfNamed) := by
  have hReachable : Database.selfNamed.Reachable := .operation _ 1 (.prepared 0)
  obtain ⟨s, hReady, -⟩ := hReachable.sound
  refine ⟨hReachable, ⟨s, hReady, ?_⟩, rfl⟩
  exact Database.holds_of_ready hReady (fun s => ∃ row ∈ s.media, row.parentId = some row.id)
    (by decide +kernel)

end MediaLibrary
