import Mathlib.Data.List.Basic
import Mathlib.Data.List.Induction

/-!
# Basic — runs, first places, outcomes and folds

What readers rely on: they take a run of characters up to the first other one, they
do one step after another, and they stop at the first fault.

* `takeWhile_run`, `dropWhile_run` — a run in front of something else;
* `takeWhile_ne`, `takeWhile_ne_all` — a run in which one character is missing;
* `pairwise_eraseDups`, `eraseDups_append_cons` — a list with each of its members once;
* `find?_entry` — what is entered under a word;
* `mergeSort_pair` — two members in order;
* `exists_of_bind`, `fault_of_bind`, `exists_of_map` — the steps of what succeeds or fails;
* `foldlM_keeps`, `mapM_keeps`, `length_of_mapM` — what each step keeps, the outcome has;
* `mapM_eq_error_iff` — the first faulty item;
* `foldlM_checked_eq_ok_iff`, `foldlM_checked_eq_error_iff` — steps that are checked first.
-/

namespace MediaLibrary

-- ---------------------------------------------------------------------------
-- Runs
-- ---------------------------------------------------------------------------

section Runs

variable {α : Type} {p : α → Bool} {run rest : List α}

/-- A run in front of something else is all that is taken. -/
theorem takeWhile_run (hRun : ∀ a ∈ run, p a = true) (hRest : ∀ a ∈ rest.head?, p a = false) :
    (run ++ rest).takeWhile p = run := by
  rw [List.takeWhile_append_of_pos hRun]
  cases rest with
  | nil => simp
  | cons a rest => simp [hRest a rfl]

theorem takeWhile_all (hRun : ∀ a ∈ run, p a = true) : run.takeWhile p = run := by
  have hTake : (run ++ []).takeWhile p = run := takeWhile_run hRun (by simp)
  rwa [List.append_nil] at hTake

/-- Up to its first place, a character is not met. -/
theorem takeWhile_ne {run : List Char} {c : Char} (hRun : c ∉ run) (rest : List Char) :
    (run ++ c :: rest).takeWhile (· != c) = run :=
  takeWhile_run (fun _ hd => bne_iff_ne.mpr (ne_of_mem_of_not_mem hd hRun)) (by simp)

theorem takeWhile_ne_all {run : List Char} {c : Char} (hRun : c ∉ run) :
    run.takeWhile (· != c) = run :=
  takeWhile_all fun _ hd => bne_iff_ne.mpr (ne_of_mem_of_not_mem hd hRun)

/-- A run in front of something else is all that is dropped. -/
theorem dropWhile_run (hRun : ∀ a ∈ run, p a = true) (hRest : ∀ a ∈ rest.head?, p a = false) :
    (run ++ rest).dropWhile p = rest := by
  rw [List.dropWhile_append_of_pos hRun]
  cases rest with
  | nil => rfl
  | cons a rest => simp [hRest a rfl]

end Runs

-- ---------------------------------------------------------------------------
-- First places
-- ---------------------------------------------------------------------------

section Firsts

variable {α : Type} [BEq α] [LawfulBEq α]

/-- One more item is kept if it is new. -/
theorem eraseDups_concat (as : List α) (a : α) :
    (as ++ [a]).eraseDups = if as.contains a then as.eraseDups else as.eraseDups ++ [a] := by
  by_cases hMem : a ∈ as <;>
    simp [List.eraseDups_append, List.removeAll, List.eraseDups_cons, hMem]

/-- A member that comes again changes nothing. -/
theorem eraseDups_append_cons {before : List α} {a : α} (h : a ∈ before) (after : List α) :
    (before ++ a :: after).eraseDups = (before ++ after).eraseDups := by
  have hAgain : (a :: after).removeAll before = after.removeAll before := by
    simp [List.removeAll, h]
  rw [List.eraseDups_append, List.eraseDups_append, hAgain]

/-- Members that are left once stand in the order of their first places. -/
theorem pairwise_eraseDups (as : List α) :
    as.eraseDups.Pairwise fun a b =>
      a ≠ b ∧ ∃ before after, as = before ++ a :: after ∧ b ∉ before := by
  induction as using List.reverseRecOn with
  | nil => exact .nil
  | append_singleton as c ih =>
    have hLeft : as.eraseDups.Pairwise fun a b =>
        a ≠ b ∧ ∃ before after, as ++ [c] = before ++ a :: after ∧ b ∉ before := by
      refine ih.imp fun {a b} hFirst => ?_
      obtain ⟨hNe, before, after, rfl, hNot⟩ := hFirst
      exact ⟨hNe, before, after ++ [c], by simp, hNot⟩
    rw [eraseDups_concat]
    split
    · exact hLeft
    · rename_i hNew
      rw [List.contains_iff_mem] at hNew
      rw [List.pairwise_append]
      refine ⟨hLeft, List.pairwise_singleton _ _, fun a ha b hb => ?_⟩
      obtain rfl := List.mem_singleton.mp hb
      have hMem := List.mem_eraseDups.mp ha
      obtain ⟨before, after, rfl⟩ := List.append_of_mem hMem
      refine ⟨ne_of_mem_of_not_mem hMem hNew, before, after ++ [b], by simp, ?_⟩
      exact fun hIn => hNew (List.mem_append_left _ hIn)

theorem nodup_eraseDups (as : List α) : as.eraseDups.Nodup :=
  (pairwise_eraseDups as).imp And.left

/-- Where nothing comes again, everything is left. -/
theorem eraseDups_of_nodup {as : List α} (h : as.Nodup) : as.eraseDups = as := by
  induction as using List.reverseRecOn with
  | nil => rfl
  | append_singleton as a ih =>
    obtain ⟨hRest, -, hNew⟩ := List.nodup_append.mp h
    have hFirst : ¬as.contains a = true := fun hMem =>
      hNew a (List.contains_iff_mem.mp hMem) a (List.mem_singleton_self a) rfl
    rw [eraseDups_concat, if_neg hFirst, ih hRest]

end Firsts

-- ---------------------------------------------------------------------------
-- Entries
-- ---------------------------------------------------------------------------

/-- What is found under a word is what is entered there, if no word has two entries. -/
theorem find?_entry {α : Type} {entries : List (String × α)} {word : String} {a : α}
    (h : (entries.map Prod.fst).Nodup) :
    (entries.find? fun entry => entry.1 == word).map Prod.snd = some a ↔ (word, a) ∈ entries := by
  induction entries with
  | nil => simp
  | cons entry rest ih =>
    obtain ⟨hFirst, hRest⟩ := List.nodup_cons.mp h
    rw [List.find?_cons, List.mem_cons]
    split
    · rename_i hWord
      have hWord : entry.1 = word := beq_iff_eq.mp hWord
      have hNot : (word, a) ∉ rest := fun hMem => hFirst (hWord ▸ List.mem_map_of_mem hMem)
      simp [Prod.ext_iff, hWord, hNot, eq_comm]
    · rename_i hWord
      have hWord : word ≠ entry.1 := fun hSame => by simp [hSame] at hWord
      rw [ih hRest]
      simp [Prod.ext_iff, hWord]

-- ---------------------------------------------------------------------------
-- Sorted lists
-- ---------------------------------------------------------------------------

/-- Of two members the one that comes first is first, and the other one if it does not. -/
theorem mergeSort_pair {α : Type} (le : α → α → Bool) (a b : α) :
    [a, b].mergeSort le = if le a b then [a, b] else [b, a] := by
  rw [List.mergeSort]
  simp [List.MergeSort.Internal.splitInTwo, List.merge]

-- ---------------------------------------------------------------------------
-- Outcomes
-- ---------------------------------------------------------------------------

section Outcomes

variable {ε α β : Type}

/-- Where two steps succeed, the first one does, and the second one after it. -/
theorem exists_of_bind {x : Except ε α} {f : α → Except ε β} {b : β} (h : (x >>= f) = .ok b) :
    ∃ a, x = .ok a ∧ f a = .ok b := by
  cases x with
  | error e => cases h
  | ok a => exact ⟨a, rfl, h⟩

/-- Where two steps fail, the first one does, or the second one after it. -/
theorem fault_of_bind {x : Except ε α} {f : α → Except ε β} {e : ε} (h : (x >>= f) = .error e) :
    x = .error e ∨ ∃ a, x = .ok a ∧ f a = .error e := by
  cases x with
  | error e' =>
    cases h
    exact .inl rfl
  | ok a => exact .inr ⟨a, rfl, h⟩

theorem exists_of_map {x : Except ε α} {f : α → β} {b : β} (h : x.map f = .ok b) :
    ∃ a, x = .ok a ∧ f a = b := by
  cases x with
  | error e => cases h
  | ok a => exact ⟨a, rfl, Except.ok.inj h⟩

/-- Outcomes that succeed can be compared where faults cannot. -/
theorem eq_ok_of_toOption {x : Except ε α} {a : α} (h : x.toOption = some a) : x = .ok a := by
  cases x with
  | error e => cases h
  | ok a' => exact congrArg Except.ok (Option.some.inj h)

end Outcomes

-- ---------------------------------------------------------------------------
-- Folds
-- ---------------------------------------------------------------------------

section Folds

variable {ε α β : Type}

/-- What holds in the beginning and is kept by every step that succeeds holds in the end. -/
theorem foldlM_keeps {f : β → α → Except ε β} {P : β → Prop}
    (hStep : ∀ b a b', P b → f b a = .ok b' → P b') {items : List α} {b b' : β} (hb : P b)
    (h : items.foldlM f b = .ok b') : P b' := by
  induction items generalizing b with
  | nil =>
    cases h
    exact hb
  | cons item rest ih =>
    rw [List.foldlM_cons] at h
    obtain ⟨b₁, hItem, hRest⟩ := exists_of_bind h
    exact ih (hStep b item b₁ hb hItem) hRest

/-- What every item that is read has, all of them have. -/
theorem mapM_keeps {f : α → Except ε β} {P : β → Prop} (hItem : ∀ a b, f a = .ok b → P b)
    {items : List α} {bs : List β} (h : items.mapM f = .ok bs) : ∀ b ∈ bs, P b := by
  induction items generalizing bs with
  | nil =>
    cases h
    exact fun b hb => absurd hb List.not_mem_nil
  | cons item rest ih =>
    rw [List.mapM_cons] at h
    obtain ⟨b, hFirst, hRest⟩ := exists_of_bind h
    obtain ⟨bs', hRead, hAll⟩ := exists_of_bind hRest
    cases hAll
    exact List.forall_mem_cons.mpr ⟨hItem item b hFirst, ih hRead⟩

/-- As many come out as go in. -/
theorem length_of_mapM {f : α → Except ε β} {items : List α} {bs : List β}
    (h : items.mapM f = .ok bs) : bs.length = items.length := by
  induction items generalizing bs with
  | nil =>
    cases h
    rfl
  | cons item rest ih =>
    rw [List.mapM_cons] at h
    obtain ⟨b, -, hRest⟩ := exists_of_bind h
    obtain ⟨bs', hRead, hAll⟩ := exists_of_bind hRest
    cases hAll
    rw [List.length_cons, List.length_cons, ih hRead]

/-- What is made of an outcome has its fault. -/
theorem return_eq_error_iff {x : Except ε α} {g : α → β} {e : ε} :
    (do let a ← x; return g a) = .error e ↔ x = .error e := by
  cases x <;> simp [bind, Except.bind, pure, Except.pure]

/-- Items are read up to the first one that is faulty, and its fault is the outcome. -/
theorem mapM_eq_error_iff {f : α → Except ε β} {items : List α} {e : ε} :
    items.mapM f = .error e ↔
      ∃ before a after, items = before ++ a :: after ∧ (∀ a' ∈ before, ∃ b, f a' = .ok b) ∧
        f a = .error e := by
  induction items with
  | nil => simp [pure, Except.pure]
  | cons item rest ih =>
    rw [List.mapM_cons]
    cases hItem : f item with
    | error e' =>
      constructor
      · intro h
        cases h
        exact ⟨[], item, rest, rfl, by simp, hItem⟩
      · rintro ⟨before, a, after, hSplit, hBefore, hFault⟩
        cases before with
        | nil =>
          cases hSplit
          rw [hItem] at hFault
          cases hFault
          rfl
        | cons first before =>
          cases hSplit
          obtain ⟨b, hFirst⟩ := hBefore _ (List.mem_cons_self ..)
          rw [hItem] at hFirst
          cases hFirst
    | ok b =>
      refine return_eq_error_iff.trans (ih.trans ⟨?_, ?_⟩)
      · rintro ⟨before, a, after, rfl, hBefore, hFault⟩
        exact ⟨item :: before, a, after, rfl,
          List.forall_mem_cons.mpr ⟨⟨b, hItem⟩, hBefore⟩, hFault⟩
      · rintro ⟨before, a, after, hSplit, hBefore, hFault⟩
        cases before with
        | nil =>
          cases hSplit
          rw [hItem] at hFault
          cases hFault
        | cons first before =>
          cases hSplit
          exact ⟨before, a, after, rfl, (List.forall_mem_cons.mp hBefore).2, hFault⟩

/-- Steps that come after a check succeed if all checks do, and come out as without them. -/
theorem foldlM_checked_eq_ok_iff {check : α → Except ε Unit} {step : β → α → β} {items : List α}
    {b b' : β} :
    items.foldlM (fun b a => do check a; return step b a) b = .ok b' ↔
      (∀ a ∈ items, check a = .ok ()) ∧ items.foldl step b = b' := by
  induction items generalizing b with
  | nil => simp [pure, Except.pure]
  | cons item rest ih =>
    rw [List.foldlM_cons, List.forall_mem_cons, List.foldl_cons, and_assoc]
    cases hCheck : check item with
    | error e =>
      constructor
      · intro h
        cases h
      · rintro ⟨hItem, -⟩
        cases hItem
    | ok _ => exact ih.trans (and_iff_right rfl).symm

/-- Steps that come after a check fail as the checks alone do. -/
theorem foldlM_checked_eq_mapM {check : α → Except ε Unit} {step : β → α → β} {items : List α}
    {b : β} {e : ε} :
    items.foldlM (fun b a => do check a; return step b a) b = .error e ↔
      items.mapM check = .error e := by
  induction items generalizing b with
  | nil => simp [pure, Except.pure]
  | cons item rest ih =>
    rw [List.foldlM_cons, List.mapM_cons]
    cases check item with
    | error e' => exact Iff.of_eq (by simp [bind, Except.bind])
    | ok _ => exact ih.trans return_eq_error_iff.symm

/-- Steps that come after a check fail as the first check that does. -/
theorem foldlM_checked_eq_error_iff {check : α → Except ε Unit} {step : β → α → β}
    {items : List α} {b : β} {e : ε} :
    items.foldlM (fun b a => do check a; return step b a) b = .error e ↔
      ∃ before a after, items = before ++ a :: after ∧ (∀ a' ∈ before, check a' = .ok ()) ∧
        check a = .error e := by
  have hPassed (a : α) : (∃ passed, check a = .ok passed) ↔ check a = .ok () := by
    constructor
    · rintro ⟨⟨⟩, h⟩
      exact h
    · exact fun h => ⟨(), h⟩
  rw [foldlM_checked_eq_mapM, mapM_eq_error_iff]
  simp only [hPassed]

end Folds

end MediaLibrary
