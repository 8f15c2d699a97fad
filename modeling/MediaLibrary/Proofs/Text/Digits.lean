import Mathlib
import MediaLibrary.Text.Integer

/-!
# Text — numbers are read as they are written

The digits of a number have it as their value, with zeros in front of them or
without, and a number without zeros in front begins with one only if it is zero.
So whoever takes the digits in front of something that is no digit has the number.

* `digitsValue_toDigits`, `readNat?_padded` — the number of written digits;
* `length_padded` — how many digits a padded number has;
* `toDigits_ne_zero_cons` — no zero stands in front of other digits;
* `IsNumber`, `IsInteger` — texts of numbers;
* `readNat?_eq_some_iff`, `readInt64?_eq_some_iff` — what is read of them.
-/

namespace MediaLibrary.Text

-- ---------------------------------------------------------------------------
-- Digits
-- ---------------------------------------------------------------------------

theorem isDigit_of_mem_toDigits {n : Nat} {c : Char} (hc : c ∈ Nat.toDigits 10 n) :
    c.isDigit = true :=
  Nat.isDigit_of_mem_toDigits (by decide) (by decide) hc

/-- The digits of a number have its value. -/
theorem digitsValue_toDigits (n : Nat) : digitsValue (Nat.toDigits 10 n) = n :=
  Nat.ofDigitChars_ten_toDigits

/-- The digits of a number begin with a zero only if it is zero. -/
theorem head?_toDigits_ne_zero {n : Nat} (hn : 0 < n) : (Nat.toDigits 10 n).head? ≠ some '0' := by
  induction n using Nat.strongRecOn with
  | ind n ih =>
    rw [Nat.toDigits_eq_if (by decide)]
    split
    · simpa using Nat.ne_of_gt hn
    · rw [List.head?_append_of_ne_nil _ Nat.toDigits_ne_nil]
      exact ih (n / 10) (by omega) (by omega)

/-- No zero stands in front of other digits. -/
theorem toDigits_ne_zero_cons (n : Nat) (d : Char) (ds : List Char) :
    Nat.toDigits 10 n ≠ '0' :: d :: ds := by
  intro h
  rcases Nat.eq_zero_or_pos n with rfl | hn
  · simp at h
  · exact head?_toDigits_ne_zero hn (by rw [h]; rfl)

-- ---------------------------------------------------------------------------
-- Padded numbers
-- ---------------------------------------------------------------------------

theorem isDigit_of_mem_padded {width n : Nat} {c : Char} (hc : c ∈ padded width n) :
    c.isDigit = true := by
  rcases List.mem_append.mp hc with hc | hc
  · rw [List.eq_of_mem_replicate hc]
    decide
  · exact isDigit_of_mem_toDigits hc

theorem padded_ne_nil (width n : Nat) : padded width n ≠ [] := by
  simp [padded]

/-- Zeros in front do not change the value. -/
theorem digitsValue_padded (width n : Nat) : digitsValue (padded width n) = n := by
  calc digitsValue (padded width n)
      = Nat.ofDigitChars 10 (Nat.toDigits 10 n)
          (Nat.ofDigitChars 10 (List.replicate (width - (Nat.toDigits 10 n).length) '0') 0) :=
        Nat.ofDigitChars_append 0
    _ = Nat.ofDigitChars 10 (Nat.toDigits 10 n) 0 := by
        rw [Nat.ofDigitChars_replicate_zero, Nat.mul_zero]
    _ = n := Nat.ofDigitChars_ten_toDigits

/-- A padded number is read as itself. -/
theorem readNat?_padded (width n : Nat) : readNat? (padded width n) = some n := by
  have hAll : (padded width n).all Char.isDigit = true :=
    List.all_eq_true.mpr fun _ => isDigit_of_mem_padded
  have hNonempty : (padded width n).isEmpty = false := by simpa using padded_ne_nil width n
  rw [readNat?, hAll, hNonempty, digitsValue_padded]
  rfl

/-- A number has the width that it is padded to, if it has no more digits than that. -/
theorem length_padded {width n : Nat} (hWidth : 0 < width) (hn : n < 10 ^ width) :
    (padded width n).length = width := by
  have hLength : (Nat.toDigits 10 n).length ≤ width :=
    (Nat.length_toDigits_le_iff (by decide) hWidth).mpr hn
  simp only [padded, List.length_append, List.length_replicate]
  omega

-- ---------------------------------------------------------------------------
-- Texts of numbers
-- ---------------------------------------------------------------------------

/-- The text of a number: digits, at least one of them. -/
structure IsNumber (n : Nat) (cs : List Char) : Prop where
  ne_nil : cs ≠ []
  digits : ∀ c ∈ cs, c.isDigit = true
  value : Nat.ofDigitChars 10 cs 0 = n

/-- The text of an integer: a number with a sign in front or without one. -/
inductive IsInteger : Int → List Char → Prop
  | unsigned {n : Nat} {cs : List Char} (h : IsNumber n cs) : IsInteger n cs
  | positive {n : Nat} {cs : List Char} (h : IsNumber n cs) : IsInteger n ('+' :: cs)
  | negative {n : Nat} {cs : List Char} (h : IsNumber n cs) : IsInteger (-n) ('-' :: cs)

variable {cs : List Char}

/-- A number is read just from the texts that write it. -/
theorem readNat?_eq_some_iff {n : Nat} : readNat? cs = some n ↔ IsNumber n cs := by
  have hValue : digitsValue cs = Nat.ofDigitChars 10 cs 0 := rfl
  rw [readNat?, Option.ite_none_right_eq_some, Bool.and_eq_true, List.all_eq_true, hValue,
    Option.some_inj]
  constructor
  · rintro ⟨⟨hFull, hDigits⟩, hEq⟩
    exact ⟨by simpa using hFull, hDigits, hEq⟩
  · rintro ⟨hFull, hDigits, hEq⟩
    exact ⟨⟨by simpa using hFull, hDigits⟩, hEq⟩

/-- A number begins with no sign. -/
theorem IsNumber.head?_ne {n : Nat} (h : IsNumber n cs) {sign : Char} (hSign : sign.isDigit = false)
    (rest : List Char) : cs ≠ sign :: rest := by
  rintro rfl
  have hDigit := h.digits sign (List.mem_cons_self ..)
  rw [hSign] at hDigit
  cases hDigit

/-- An integer has a digit. -/
theorem IsInteger.exists_digit {n : Int} (h : IsInteger n cs) : ∃ c ∈ cs, c.isDigit = true := by
  have hNumber {n : Nat} {ds : List Char} (h : IsNumber n ds) : ∃ c ∈ ds, c.isDigit = true := by
    obtain ⟨d, ds, rfl⟩ := List.exists_cons_of_ne_nil h.ne_nil
    exact ⟨d, List.mem_cons_self .., h.digits d (List.mem_cons_self ..)⟩
  cases h with
  | unsigned h => exact hNumber h
  | positive h =>
    obtain ⟨c, hc, hDigit⟩ := hNumber h
    exact ⟨c, List.mem_cons_of_mem _ hc, hDigit⟩
  | negative h =>
    obtain ⟨c, hc, hDigit⟩ := hNumber h
    exact ⟨c, List.mem_cons_of_mem _ hc, hDigit⟩

/-- Integers of 64 bits are read, however they are written. -/
theorem readInt64?_eq_some_iff {n : Int} :
    readInt64? cs = some n ↔
      IsInteger n cs ∧ -9223372036854775808 ≤ n ∧ n ≤ 9223372036854775807 := by
  have hFits : fitsInt64 n = true ↔ -9223372036854775808 ≤ n ∧ n ≤ 9223372036854775807 := by
    rw [fitsInt64, Bool.and_eq_true, decide_eq_true_iff, decide_eq_true_iff]
    rfl
  unfold readInt64?
  rw [Option.filter_eq_some_iff, hFits]
  refine and_congr_left fun _ => ?_
  constructor
  · intro hValue
    split at hValue
    all_goals
      obtain ⟨_, hRead, rfl⟩ := Option.map_eq_some_iff.mp hValue
      obtain ⟨k, hDigits, hCast⟩ := Option.bind_eq_some_iff.mp hRead
      cases hCast
      have hNumber := readNat?_eq_some_iff.mp hDigits
    · exact .negative hNumber
    · exact .positive hNumber
    · exact .unsigned hNumber
  · rintro (hNumber | hNumber | hNumber)
    · split
      · exact absurd rfl (hNumber.head?_ne (by decide) _)
      · exact absurd rfl (hNumber.head?_ne (by decide) _)
      · rw [readNat?_eq_some_iff.mpr hNumber]
        rfl
    · simp only [readNat?_eq_some_iff.mpr hNumber]
      rfl
    · simp only [readNat?_eq_some_iff.mpr hNumber]
      rfl

end MediaLibrary.Text
