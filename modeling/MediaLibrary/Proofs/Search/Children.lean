import MediaLibrary.Filter.Directive
import MediaLibrary.Proofs.Search.Found
import MediaLibrary.Proofs.Store.Kinship

/-!
# Search — parents

The mark of a medium is a note that some medium names it as the parent. In a reachable
database the note is right, however media were inserted, moved and deleted; so a search
for marked media finds parents, and a search for media without a mark finds all others.

* `Database.Reachable.family` — parents and marks are right in every reachable database;
* `Store.Family.hasChildren_iff` — a mark says that there is a child;
* `Store.Sound.rows_hasChildren` — asking for a mark keeps the rows that have it;
* `parents_of_reachable` — asking for a mark finds parents.
-/

namespace MediaLibrary

open Database (ready)
open Selection

/-- The tables of a reachable database are sound, and parents and marks are right. -/
theorem Database.Reachable.family {db : Database} (h : db.Reachable) :
    ∃ s, db = ready s ∧ s.Sound ∧ s.Family :=
  h.induction (P := fun s => s.Sound ∧ s.Family)
    (fun now => ⟨Store.sound_fresh now, Store.family_fresh now⟩)
    fun _ _ _ hChange hs => ⟨hChange.sound hs.1, hChange.family hs.1 hs.2⟩

/-- Asking for a mark is one more demand on a medium. -/
theorem Media.matches_hasChildren (m : Media) (s : Store) (q : Query) (f : Filters) (b : Bool) :
    m.Matches s q { f with hasChildren := some b } ↔
      m.hasChildren = b ∧ m.Matches s q { f with hasChildren := none } := by
  have hAdmits : Filters.Admits { f with hasChildren := some b } m ↔
      m.hasChildren = b ∧ Filters.Admits { f with hasChildren := none } m := by
    simp only [Filters.admits_iff, Option.mem_def, Option.some.injEq, forall_eq', reduceCtorEq,
      false_implies, implies_true, true_and]
    tauto
  rw [Media.matches_iff, Media.matches_iff, hAdmits]
  tauto

namespace Store

variable {s : Store} {q : Query} {f : Filters}

/-- Some medium names this one as its parent. -/
def HasChild (s : Store) (id : Int) : Prop :=
  ∃ child ∈ s.media, child.parentId = some id

instance (s : Store) (id : Int) : Decidable (s.HasChild id) := by
  unfold HasChild
  infer_instance

theorem isParent_iff {id : Int} : s.isParent id = true ↔ s.HasChild id := by
  simp [isParent, HasChild]

/-- Where parents and marks are right, a mark says that there is a child. -/
theorem Family.hasChildren_iff (h : s.Family) {row : MediaRow} (hRow : row ∈ s.media) :
    row.hasChildren = true ↔ s.HasChild row.id := by
  have hMark : row.hasChildren = s.kinship.isParent row.id :=
    h.marked row.kin (List.mem_map_of_mem hRow) (by simp)
  rw [hMark, ← isParent_eq, isParent_iff]

/-- Of the rows that are selected without a look at marks, asking for a mark keeps those that
have it. -/
theorem Sound.rows_hasChildren (h : s.Sound) (hq : q.IsReadable) {b : Bool}
    {sel all : Selection Condition}
    (hSel : compile q { f with hasChildren := some b } = .ok sel)
    (hAll : compile q { f with hasChildren := none } = .ok all) :
    sel.rows s = (all.rows s).filter fun row => row.hasChildren == b := by
  rw [rows, rows, List.filter_filter]
  apply List.filter_congr
  intro row hRow
  obtain ⟨kind, rating, hKind, hRating⟩ := h.exists_words hRow
  rw [Bool.eq_iff_iff, Bool.and_eq_true, beq_iff_eq]
  exact (holdsFor_iff_matches hSel hq hKind hRating).trans <|
    (row.read.matches_hasChildren s q f b).trans <|
    and_congr_right' (holdsFor_iff_matches hAll hq hKind hRating).symm

end Store

/-- In every reachable database the marked media are the parents. A query that was read from a
text, asked with the filter of marks, finds the parents among what it finds without, or the others;
and asked with no other demand, the filter finds all of them. -/
theorem parents_of_reachable {db : Database} (h : db.Reachable) :
    ∃ s, db.store = some s ∧
      (∀ row ∈ s.media, row.hasChildren = true ↔ s.HasChild row.id) ∧
      (∀ (text : String) (q : Query) (f : Filters) (b : Bool), Query.parse text = .ok q →
        ∃ sel all, compile q { f with hasChildren := some b } = .ok sel ∧
          compile q { f with hasChildren := none } = .ok all ∧
          sel.rows s = (all.rows s).filter fun row => decide (s.HasChild row.id) == b) ∧
      ∀ b, ∃ sel, compile {} { hasChildren := some b } = .ok sel ∧
        sel.rows s = s.media.filter fun row => decide (s.HasChild row.id) == b := by
  obtain ⟨s, rfl, hSound, hFamily⟩ := h.family
  have hMarked : ∀ row ∈ s.media, row.hasChildren = decide (s.HasChild row.id) := by
    intro row hRow
    rw [Bool.eq_iff_iff, decide_eq_true_iff]
    exact hFamily.hasChildren_iff hRow
  have hKept {q : Query} (hq : q.IsReadable) (f : Filters) (b : Bool)
      {sel all : Selection Condition}
      (hSel : compile q { f with hasChildren := some b } = .ok sel)
      (hAll : compile q { f with hasChildren := none } = .ok all) :
      sel.rows s = (all.rows s).filter fun row => decide (s.HasChild row.id) == b := by
    rw [hSound.rows_hasChildren hq hSel hAll]
    apply List.filter_congr
    intro row hRow
    rw [hMarked row (List.mem_filter.mp hRow).1]
  refine ⟨s, rfl, fun row hRow => hFamily.hasChildren_iff hRow, ?_, ?_⟩
  · intro text q f b hQuery
    obtain ⟨sel, hSel⟩ := exists_compile_of_parse hQuery { f with hasChildren := some b }
    obtain ⟨all, hAll⟩ := exists_compile_of_parse hQuery { f with hasChildren := none }
    exact ⟨sel, all, hSel, hAll, hKept (Query.isReadable_of_parse hQuery) f b hSel hAll⟩
  · intro b
    -- nothing else is demanded, so without a look at marks every row is selected
    have hAll : compile {} {} = .ok ⟨[]⟩ := rfl
    have hRows : rows ⟨[]⟩ s = s.media := List.filter_eq_self.mpr fun _ _ => rfl
    obtain ⟨sel, hSel⟩ : ∃ sel, compile {} { hasChildren := some b } = .ok sel := ⟨_, rfl⟩
    refine ⟨sel, hSel, ?_⟩
    rw [hKept Query.isReadable_empty {} b hSel hAll, hRows]

/-- A library with three images. The second one is inserted as a child of the first and moves to the
third, which is its own parent. -/
def Database.movedImage : Database :=
  (Operation.setParent 2 (some 3)).apply 2
    ((Operation.createMediaBatch [.image "a", { NewMedia.image "b" with parentId := some 1 },
      { NewMedia.image "c" with parentId := some 3 }]).apply 1 ((Database.prepare 0).after {}))

/-- Only the third image is a parent, and the filter that a text asks for finds it. -/
theorem parents_of_movedImage :
    Database.movedImage.Reachable ∧ Filters.ofText "children:true" = { hasChildren := some true } ∧
      ∃ s sel, Database.movedImage.store = some s ∧
        compile {} (Filters.ofText "children:true") = .ok sel ∧
        (sel.rows s).map (·.id) = [3] := by
  have hReachable : Database.movedImage.Reachable := .operation _ 2 (.operation _ 1 (.prepared 0))
  have hFilters : Filters.ofText "children:true" = { hasChildren := some true } := by cbv
  obtain ⟨s, hStore, -, -, hFound⟩ := parents_of_reachable hReachable
  obtain ⟨sel, hSel, hRows⟩ := hFound true
  have hParents : Database.movedImage.store.map (fun s =>
      (s.media.filter fun row => decide (s.HasChild row.id) == true).map (·.id)) = some [3] := by
    decide +kernel
  rw [hStore, Option.map_some, Option.some_inj] at hParents
  exact ⟨hReachable, hFilters, s, sel, hStore, hFilters ▸ hSel, hRows ▸ hParents⟩

end MediaLibrary
