import MediaLibrary.Proofs.Database.Deletion

/-!
# Database — lists as calls in turn

An operation on a list of items does what a caller would do with one call for each item:
later items see what earlier ones have left. But where such a caller stops at the first call
that fails, with the calls before it done, the operation takes everything back.

* `Work.inTurn`, `Work.asWhole` — calls one after the other, and what a whole makes of them;
* `Work.Alike` — work that goes as a call goes;
* `Work.on_transaction_mapM` — work on each item in a transaction is calls in turn as a whole;
* `lists_are_calls_in_turn` — batches of media and lists of tags.
-/

namespace MediaLibrary

open Database (ready)

namespace Work

variable {α β γ δ : Type}

-- ---------------------------------------------------------------------------
-- Calls in turn
-- ---------------------------------------------------------------------------

/-- The outcome of calls that are made one after the other until one of them fails, and the
database after them. -/
def inTurn : List (Work α) → Database → Except Error (List α) × Database
  | [], db => (.ok [], db)
  | call :: calls, db =>
    match call.on db with
    | (.error e, db) => (.error e, db)
    | (.ok a, db) => ((inTurn calls db).1.map (a :: ·), (inTurn calls db).2)

/-- The answers of calls in turn, put together; or the database as it was, where one of them
fails. -/
def asWhole (join : List α → β) (calls : List (Work α)) (db : Database) :
    Except Error β × Database :=
  match (inTurn calls db).1 with
  | .ok answers => (.ok (join answers), (inTurn calls db).2)
  | .error e => (.error e, db)

/-- Work goes as a call goes: both fail for the same reason, or both succeed and leave the same
store, in which the invariant holds. What the call answers is made of what the work answers. -/
inductive Alike (one : β → γ) (kept : Store → Prop) :
    Except Error β × Database → Except Error γ × Database → Prop
  | ok {b : β} {s : Store} : kept s → Alike one kept (.ok b, ready s) (.ok (one b), ready s)
  | error {e : Error} {db db' : Database} : Alike one kept (.error e, db) (.error e, db')

/-- Work on each item goes as calls in turn go, if the work on one item goes as its call does. -/
theorem Alike.mapM {work : α → Work β} {call : α → Work γ} {one : β → γ} {kept : Store → Prop}
    (hOne : ∀ item s, kept s →
      Alike one kept ((work item).on (ready s)) ((call item).on (ready s)))
    (items : List α) {s : Store} (h : kept s) :
    Alike (List.map one) kept ((items.mapM work).on (ready s))
      (inTurn (items.map call) (ready s)) := by
  induction items generalizing s with
  | nil =>
    rw [List.mapM_nil, on_pure]
    exact .ok h
  | cons item rest ih =>
    rw [List.mapM_cons, List.map_cons, inTurn, on_bind]
    have hItem := hOne item s h
    revert hItem
    generalize (work item).on (ready s) = worked
    generalize (call item).on (ready s) = called
    rintro (@⟨b, s₁, h₁⟩ | -)
    · -- the other items go on from what the first one has left
      have hRest := ih h₁
      simp only [on_bind]
      revert hRest
      generalize (rest.mapM work).on (ready s₁) = worked
      generalize inTurn (rest.map call) (ready s₁) = called
      rintro (hKept | -)
      · exact .ok hKept
      · exact .error
    · exact .error

/-- Work on each item in a transaction is calls in turn as a whole. -/
theorem on_transaction_mapM {work : α → Work β} {call : α → Work γ} {one : β → γ}
    {kept : Store → Prop}
    (hOne : ∀ item s, kept s →
      Alike one kept ((work item).on (ready s)) ((call item).on (ready s)))
    {join : List γ → List β} (hJoin : ∀ answers : List β, join (answers.map one) = answers)
    (items : List α) {s : Store} (h : kept s) :
    (transaction (items.mapM work)).on (ready s) = asWhole join (items.map call) (ready s) := by
  rw [on_transaction, asWhole]
  have hAll := Alike.mapM hOne items h
  revert hAll
  generalize (items.mapM work).on (ready s) = worked
  generalize inTurn (items.map call) (ready s) = called
  rintro (hKept | -)
  · simp only [hJoin]
  · rfl

end Work

-- ---------------------------------------------------------------------------
-- Lists of items
-- ---------------------------------------------------------------------------

namespace Database

open Work

variable {s : Store} {now : Int}

/-- A medium is inserted as it is created. -/
theorem insertMedia_alike (m : NewMedia) (s : Store) :
    Alike id (fun _ => True) ((insertMedia m now).on (ready s))
      ((createMedia m now).on (ready s)) := by
  simp only [createMedia, insertMedia, on_bind, on_lock, on_tables, on_inserted]
  cases s.insertMedia m now with
  | error e => exact .error
  | ok made => exact .ok trivial

/-- Tagging a medium that exists is one transaction of its tags. -/
theorem addTags_eq {mediaId : Int} (hMedia : s.hasMedia mediaId = true) (tags : List NewTag) :
    (addTags mediaId tags now).on (ready s) =
      (transaction (tags.mapM (addTag mediaId now))).on (ready s) := by
  simp only [addTags, on_transaction, on_bind, on_tables, hMedia, Bool.not_true, Bool.false_eq_true,
    ↓reduceIte]

/-- A tag is attached as a list of one tag is. -/
theorem addTag_alike {mediaId : Int} (tag : NewTag) (hMedia : s.hasMedia mediaId = true) :
    Alike ([·]) (·.hasMedia mediaId = true) ((addTag mediaId now tag).on (ready s))
      ((addTags mediaId [tag] now).on (ready s)) := by
  have hMoves : (addTag mediaId now tag).Moves now s _ := addTag_moves tag hMedia
  obtain ⟨outcome, s', hOn, -, hTold⟩ := hMoves
  rw [addTags_eq hMedia, on_transaction, List.mapM_cons, List.mapM_nil, on_bind, hOn]
  cases outcome with
  | error e => exact .error
  | ok found =>
    obtain ⟨s₁, hHad, rfl⟩ := hTold found rfl
    refine .ok ?_
    rwa [Store.hasMedia_of_outline (Store.outline_attach ..), Store.hasMedia, hHad.exists_row.1]

end Database

/-- In every reachable database and at any time, creating a batch of media is creating them one by
one, as a whole: where all of these calls succeed, the batch answers their ids and leaves the same
database, and where one fails, the batch fails as the first one that does and leaves the database as
it was. The same holds of attaching a list of tags to a medium that exists, which answers the tags
of calls for one tag each. -/
theorem lists_are_calls_in_turn {db : Database} (h : db.Reachable) (now : Int) :
    (∀ items : List NewMedia, (Database.createMediaBatch items now).on db =
      Work.asWhole id (items.map fun m => Database.createMedia m now) db) ∧
    ∃ s, db.store = some s ∧ ∀ mediaId, s.hasMedia mediaId = true → ∀ tags : List NewTag,
      (Database.addTags mediaId tags now).on db =
        Work.asWhole List.flatten (tags.map fun tag => Database.addTags mediaId [tag] now) db := by
  obtain ⟨s, rfl, -⟩ := h.sound
  refine ⟨fun items => ?_, s, rfl, fun mediaId hMedia tags => ?_⟩
  · exact Work.on_transaction_mapM (fun m s _ => Database.insertMedia_alike m s) List.map_id items
      trivial
  · rw [Database.addTags_eq hMedia]
    exact Work.on_transaction_mapM (fun tag s hMedia => Database.addTag_alike tag hMedia)
      (fun answers => List.flatMap_singleton' answers) tags hMedia

/-- A later image names the one before it as its parent, and a later name is that of a tag which the
list itself has created. Where two images of a batch have the same content, the first one is not
kept. -/
theorem lists_in_turn_on_circle :
    let batch := [.image "d", { NewMedia.image "e" with parentId := some 4 }]
    let twice := [.image "d", .image "d", { NewMedia.image "e" with parentId := some 9 }]
    let tags : List NewTag := [⟨" aDA", .general⟩, ⟨"New", .artist⟩, ⟨"nEW ", .metadata⟩]
    Database.circle.Reachable ∧
      ((Database.createMediaBatch batch 7).on Database.circle).1.toOption = some [4, 5] ∧
      (Database.createMediaBatch batch 7).on Database.circle =
        Work.asWhole id (batch.map fun m => Database.createMedia m 7) Database.circle ∧
      Work.asWhole id (twice.map fun m => Database.createMedia m 7) Database.circle =
        (.error (.storage .duplicateHash), Database.circle) ∧
      ∃ s, Database.circle.store = some s ∧ s.hasMedia 2 = true ∧
        Work.asWhole List.flatten (tags.map fun tag => Database.addTags 2 [tag] 7)
          Database.circle = (Database.addTags 2 tags 7).on Database.circle ∧
        ((Database.addTags 2 tags 7).on Database.circle).1.toOption.map (·.map (·.id)) =
          some [2, 3, 3] := by
  intro batch twice tags
  obtain ⟨hBatch, s, hStore, hTags⟩ := lists_are_calls_in_turn Database.reachable_circle 7
  have hHas : Database.circle.store.map (·.hasMedia 2) = some true := by decide +kernel
  rw [hStore, Option.map_some, Option.some_inj] at hHas
  refine ⟨Database.reachable_circle, by decide +kernel, hBatch batch, ?_, s, hStore, hHas,
    (hTags 2 hHas tags).symm, by decide +kernel⟩
  rw [← hBatch twice]
  decide +kernel

end MediaLibrary
