import Mathlib.Data.List.TakeWhile
import MediaLibrary.Proofs.Text.LowerCase
import MediaLibrary.Text.Blank
import MediaLibrary.Text.Fold

/-!
# Text — trimming

Trimming leaves a text that begins and ends with no blank, and it does not matter how many blanks
there were. Nor does it matter whether letters are lowered before or after, since no letter is a
blank in any case.

* `IsTrimmed`, `isTrimmed_trim` — a text begins and ends with no blank;
* `Surrounds`, `trim_of_surrounds` — blanks around a text are left out;
* `fold_trim` — trimming and lowering letters.
-/

namespace MediaLibrary.Text

-- ---------------------------------------------------------------------------
-- Trimmed texts
-- ---------------------------------------------------------------------------

/-- The text neither begins nor ends with a blank. -/
def IsTrimmed (s : String) : Prop :=
  (∀ c ∈ s.toList.head?, isBlank c = false) ∧ ∀ c ∈ s.toList.getLast?, isBlank c = false

/-- What is left begins with no blank. -/
theorem isBlank_head?_trimStart {cs : List Char} {c : Char} (h : c ∈ (trimStart cs).head?) :
    isBlank c = false := by
  have hHead := List.head?_dropWhile_not isBlank cs
  rw [trimStart] at h
  rw [Option.mem_def.mp h] at hHead
  simpa using hHead

/-- The end is trimmed as the beginning is, of the characters the other way round. -/
theorem trimEnd_eq (cs : List Char) : trimEnd cs = (trimStart cs.reverse).reverse := rfl

/-- Trimming the end leaves the beginning alone, if anything is left. -/
theorem head?_trimEnd {cs : List Char} {c : Char} (h : c ∈ (trimEnd cs).head?) :
    c ∈ cs.head? := by
  have hPrefix : trimEnd cs <+: cs := by
    rw [← List.reverse_suffix, trimEnd_eq, List.reverse_reverse]
    exact List.dropWhile_suffix isBlank
  obtain ⟨rest, hRest⟩ := hPrefix
  rw [← hRest, List.head?_append, Option.mem_def.mp h]
  rfl

/-- A trimmed text has no blanks around it. -/
theorem isTrimmed_trim (s : String) : IsTrimmed (trim s) := by
  rw [IsTrimmed, trim, String.toList_ofList]
  constructor
  · intro c hc
    exact isBlank_head?_trimStart (head?_trimEnd hc)
  · intro c hc
    rw [trimEnd_eq, List.getLast?_reverse] at hc
    exact isBlank_head?_trimStart hc

/-- Nothing is left of a text that is trimmed if it consists of blanks. -/
theorem trim_isEmpty_iff {s : String} :
    (trim s).isEmpty = true ↔ ∀ c ∈ s.toList, isBlank c = true := by
  have hNil {cs : List Char} : trimStart cs = [] ↔ ∀ c ∈ cs, isBlank c = true :=
    List.dropWhile_eq_nil_iff
  rw [← hNil, String.isEmpty_iff, trim, String.ofList_eq_empty_iff, trimEnd_eq,
    List.reverse_eq_nil_iff]
  constructor
  · intro hEnd
    -- what is left behind the blanks in front would not begin with one
    cases hLeft : trimStart s.toList with
    | nil => rfl
    | cons c rest =>
      have hHead : c ∈ (trimStart s.toList).head? := by simp [hLeft]
      have hBlank : isBlank c = true := hNil.mp hEnd c (by simp [hLeft])
      rw [isBlank_head?_trimStart hHead] at hBlank
      cases hBlank
  · intro hNone
    rw [hNone]
    rfl

-- ---------------------------------------------------------------------------
-- Blanks around a text
-- ---------------------------------------------------------------------------

/-- The text is some characters with blanks before and behind them, if any. -/
def Surrounds (s : String) (core : List Char) : Prop :=
  ∃ before after, s.toList = before ++ core ++ after ∧
    (∀ c ∈ before, isBlank c = true) ∧ ∀ c ∈ after, isBlank c = true

/-- Blanks in front are trimmed with those that follow them. -/
theorem trimStart_append {before : List Char} (h : ∀ c ∈ before, isBlank c = true)
    (cs : List Char) : trimStart (before ++ cs) = trimStart cs :=
  List.dropWhile_append_of_pos h

theorem trimEnd_append {after : List Char} (h : ∀ c ∈ after, isBlank c = true)
    (cs : List Char) : trimEnd (cs ++ after) = trimEnd cs := by
  rw [trimEnd_eq, trimEnd_eq, List.reverse_append,
    trimStart_append fun c hc => h c (List.mem_reverse.mp hc)]

/-- Blanks around a text are left out when it is trimmed. -/
theorem trim_of_surrounds {s : String} {core : List Char} (h : Surrounds s core) :
    trim s = trim (String.ofList core) := by
  obtain ⟨before, after, hText, hBefore, hAfter⟩ := h
  rw [trim, trim, hText, String.toList_ofList, List.append_assoc, trimStart_append hBefore]
  congr 1
  by_cases hBlank : trimStart core = []
  · -- nothing but blanks, so all that comes before their end goes
    have hNone : trimStart (core ++ after) = [] := by
      rw [trimStart_append (List.dropWhile_eq_nil_iff.mp hBlank)]
      exact List.dropWhile_eq_nil_iff.mpr hAfter
    rw [hBlank, hNone]
  · have hSome : trimStart (core ++ after) = trimStart core ++ after := by
      rw [trimStart, List.dropWhile_append, if_neg (by simpa [trimStart] using hBlank)]
      rfl
    rw [hSome, trimEnd_append hAfter]

/-- What is trimmed in front, and what is left, make up the text. -/
theorem takeWhile_append_trimStart (cs : List Char) :
    cs.takeWhile isBlank ++ trimStart cs = cs :=
  List.takeWhile_append_dropWhile

/-- A text is what is left of it when it is trimmed, with blanks around it. -/
theorem surrounds_trim (s : String) : Surrounds s (trim s).toList := by
  refine ⟨s.toList.takeWhile isBlank, ((trimStart s.toList).reverse.takeWhile isBlank).reverse,
    ?_, ?_, ?_⟩
  · rw [trim, String.toList_ofList, List.append_assoc, trimEnd_eq, ← List.reverse_append,
      takeWhile_append_trimStart, List.reverse_reverse, takeWhile_append_trimStart]
  · exact List.all_eq_true.mp List.all_takeWhile
  · intro c hc
    exact List.all_eq_true.mp List.all_takeWhile c (List.mem_reverse.mp hc)

/-- Trimming once is enough. -/
theorem trim_trim (s : String) : trim (trim s) = trim s := by
  have h := trim_of_surrounds (surrounds_trim s)
  rw [String.ofList_toList] at h
  exact h.symm

/-- Trimming adds no character. -/
theorem mem_of_mem_trim {s : String} {c : Char} (h : c ∈ (trim s).toList) : c ∈ s.toList := by
  rw [trim, String.toList_ofList, trimEnd_eq, List.mem_reverse] at h
  have hInner := (List.dropWhile_suffix _).subset h
  exact (List.dropWhile_suffix _).subset (List.mem_reverse.mp hInner)

-- ---------------------------------------------------------------------------
-- Letter case
-- ---------------------------------------------------------------------------

/-- A letter is no blank, in lower case or not. -/
theorem isBlank_toLower (c : Char) : isBlank c.toLower = isBlank c := by
  cases h : c.isUpper with
  | false => rw [toLower_of_not_isUpper h]
  | true =>
    have hUpper : 0x41 ≤ c.toNat ∧ c.toNat ≤ 0x5a := of_decide_eq_true h
    have hNot (d : Char) (hd : 0x41 ≤ d.toNat ∧ d.toNat ≤ 0x7a) : isBlank d = false := by
      simp only [isBlank, Bool.or_eq_false_iff, Bool.and_eq_false_iff, decide_eq_false_iff_not,
        beq_eq_false_iff_ne]
      omega
    rw [hNot c (by omega), hNot c.toLower (by rw [toNat_toLower_of_isUpper h]; omega)]

theorem map_toLower_trimStart (cs : List Char) :
    (trimStart cs).map Char.toLower = trimStart (cs.map Char.toLower) := by
  have hSame : isBlank ∘ Char.toLower = isBlank := funext isBlank_toLower
  rw [trimStart, trimStart, List.dropWhile_map, hSame]

/-- It does not matter whether letters are lowered before or after trimming. -/
theorem fold_trim (s : String) : fold (trim s) = trim (fold s) := by
  apply String.toList_injective
  rw [toList_fold, trim, trim, String.toList_ofList, String.toList_ofList, toList_fold, trimEnd_eq,
    trimEnd_eq, List.map_reverse, map_toLower_trimStart, List.map_reverse, map_toLower_trimStart]

/-- Lowering letters once is enough. -/
theorem fold_fold (s : String) : fold (fold s) = fold s := by
  apply String.toList_injective
  rw [toList_fold, toList_fold, List.map_map]
  exact List.map_congr_left fun c _ => toLower_of_not_isUpper (not_isUpper_toLower c)

/-- No text becomes empty by its letter case. -/
theorem fold_eq_empty_iff {s : String} : fold s = "" ↔ s = "" := by
  rw [← String.toList_eq_nil_iff, toList_fold, List.map_eq_nil_iff, String.toList_eq_nil_iff]

/-- No capital from `A` to `Z` is left. -/
theorem not_isUpper_of_mem_fold {s : String} {c : Char} (h : c ∈ (fold s).toList) :
    c.isUpper = false := by
  rw [toList_fold] at h
  obtain ⟨d, -, rfl⟩ := List.mem_map.mp h
  exact not_isUpper_toLower d

end MediaLibrary.Text
