import Mathlib.Data.List.Basic
import MediaLibrary.Text.LowerCase

/-!
# Text — lower case and ASCII

Lower case knows the letters of every script, and names are written in ASCII. Where the two
meet, no capital from `A` to `Z` is left, whatever letter of whatever script it might come
from, and an ASCII text without these capitals is in lower case already.

* `not_isUpper_of_mem_lowerCase` — what has no place in lower case;
* `lowerCase_eq_self` — what stays as it is.
-/

namespace MediaLibrary.Text

/-- The capitals from `A` to `Z` are the 26 from 41 on, in hexadecimal. -/
theorem not_isUpper_iff {c : Char} : c.isUpper = false ↔ c.toNat < 0x41 ∨ 0x5a < c.toNat := by
  have hUpper : c.isUpper = true ↔ 0x41 ≤ c.toNat ∧ c.toNat ≤ 0x5a := decide_eq_true_iff
  rw [Bool.eq_false_iff, ne_eq, hUpper]
  omega

/-- What is no such capital stays as it is. -/
theorem toLower_of_not_isUpper {c : Char} (h : c.isUpper = false) : c.toLower = c :=
  dif_neg (of_decide_eq_false h)

theorem toNat_toLower_of_isUpper {c : Char} (h : c.isUpper = true) :
    c.toLower.toNat = c.toNat + 32 := by
  have hUpper : 0x41 ≤ c.toNat ∧ c.toNat ≤ 0x5a := of_decide_eq_true h
  have hLower : c.toLower.toNat = (c.val + 32).toNat :=
    congrArg Char.toNat (dif_pos (of_decide_eq_true h))
  rw [hLower, UInt32.toNat_add, Char.toNat_val]
  simp only [seval]
  omega

/-- What is made small is no capital any more. -/
theorem not_isUpper_toLower (c : Char) : c.toLower.isUpper = false := by
  cases h : c.isUpper with
  | false => rwa [toLower_of_not_isUpper h]
  | true =>
    have hUpper : 0x41 ≤ c.toNat ∧ c.toNat ≤ 0x5a := of_decide_eq_true h
    rw [not_isUpper_iff, toNat_toLower_of_isUpper h]
    omega

/-- A number that is no code point stands for the first one. -/
theorem toNat_ofNat (n : Nat) : (Char.ofNat n).toNat = if n.isValidChar then n else 0 := by
  by_cases hValid : n.isValidChar
  · have hChar : Char.ofNat n = Char.ofNatAux n hValid := dif_pos hValid
    rw [hChar, if_pos hValid]
    rfl
  · have hZero : Char.ofNat n = '\x00' := dif_neg hValid
    rw [hZero, if_neg hValid]
    rfl

/-- The small letters of all scripts come after the capitals of ASCII. -/
theorem caseRuns_distance : ∀ run ∈ caseRuns, 0x5a < run.first + run.distance := by
  decide +kernel

/-- This holds of each character that a character is made of. -/
theorem not_isUpper_of_mem_lowerChar {c d : Char} (h : d ∈ lowerChar c) : d.isUpper = false := by
  unfold lowerChar at h
  split at h
  · rw [List.mem_singleton.mp h]
    exact not_isUpper_toLower c
  · split at h
    · rcases List.mem_pair.mp h with rfl | rfl <;> rfl
    · split at h
      · rename_i run hRun
        rw [caseRunOf?] at hRun
        have hMem := caseRuns_distance run (List.mem_of_find?_eq_some hRun)
        have hFound := List.find?_some hRun
        simp only [Bool.and_eq_true, decide_eq_true_eq] at hFound
        rw [List.mem_singleton.mp h, not_isUpper_iff, toNat_ofNat]
        split <;> omega
      · rename_i hAscii _ _ _
        rw [List.mem_singleton.mp h, not_isUpper_iff]
        omega

theorem not_isUpper_of_mem_lowerFrom {before cs : List Char} {d : Char}
    (h : d ∈ lowerFrom before cs) : d.isUpper = false := by
  induction cs generalizing before with
  | nil => cases h
  | cons c cs ih =>
    rw [lowerFrom, List.mem_append] at h
    rcases h with h | h
    · split at h
      · rw [List.mem_singleton.mp h, lowerSigma]
        split <;> rfl
      · exact not_isUpper_of_mem_lowerChar h
    · exact ih h

/-- No capital of ASCII is left in lower case. -/
theorem not_isUpper_of_mem_lowerCase {s : String} {c : Char} (h : c ∈ (lowerCase s).toList) :
    c.isUpper = false := by
  rw [lowerCase, String.toList_ofList] at h
  exact not_isUpper_of_mem_lowerFrom h

/-- Texts of ASCII without capitals stay as they are. -/
theorem lowerFrom_eq_self {cs : List Char} (h : ∀ c ∈ cs, c.toNat < 0x80 ∧ c.isUpper = false)
    (before : List Char) : lowerFrom before cs = cs := by
  induction cs generalizing before with
  | nil => rfl
  | cons c cs ih =>
    obtain ⟨⟨hAscii, hSmall⟩, hRest⟩ := List.forall_mem_cons.mp h
    have hSigma : ¬(c == 'Σ') = true := by
      intro hc
      obtain rfl := beq_iff_eq.mp hc
      exact absurd hAscii (by decide)
    rw [lowerFrom, if_neg hSigma, lowerChar, if_pos hAscii, toLower_of_not_isUpper hSmall,
      ih hRest, List.singleton_append]

/-- An ASCII text without capitals is in lower case. -/
theorem lowerCase_eq_self {s : String} (h : ∀ c ∈ s.toList, c.toNat < 0x80 ∧ c.isUpper = false) :
    lowerCase s = s := by
  rw [lowerCase, lowerFrom_eq_self h, String.ofList_toList]

end MediaLibrary.Text
