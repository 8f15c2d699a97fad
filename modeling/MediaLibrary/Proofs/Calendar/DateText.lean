import Mathlib
import MediaLibrary.Proofs.Calendar.InstantText

/-!
# Calendar — the texts of a date

A date can be written in more than one way: its month and its day with one digit or two, its year
with up to four digits or behind a sign, and each of the three with blanks in front of it. These are
all the texts that are read as a date.

* `IsShort`, `IsYear`, `Date.IsTyped` — numbers, years and dates as they can be written;
* `scanNumber_of_isShort`, `isShort_of_scanNumber` — what is read of a number, and of a year;
* `Date.read?_eq_some_iff` — what is read of a date.
-/

namespace MediaLibrary.Calendar

open MediaLibrary.Text

-- ---------------------------------------------------------------------------
-- Dates as they can be written
-- ---------------------------------------------------------------------------

/-- The text of a number with a few digits, and with blanks in front of it or without. -/
def IsShort (width n : Nat) (cs : List Char) : Prop :=
  ∃ blanks digits, cs = blanks ++ digits ∧ (∀ c ∈ blanks, isBlank c = true) ∧
    IsNumber n digits ∧ digits.length ≤ width

/-- The text of a year: four digits at most, or any number of them behind a sign. -/
inductive IsYear : Int → List Char → Prop
  | short {n : Nat} {cs : List Char} (h : IsShort 4 n cs) : IsYear n cs
  | positive {n : Nat} {blanks digits : List Char} (hBlanks : ∀ c ∈ blanks, isBlank c = true)
      (h : IsNumber n digits) : IsYear n (blanks ++ '+' :: digits)
  | negative {n : Nat} {blanks digits : List Char} (hBlanks : ∀ c ∈ blanks, isBlank c = true)
      (h : IsNumber n digits) : IsYear (-n) (blanks ++ '-' :: digits)

/-- The text of a date: its year, its month and its day with dashes between them. -/
def Date.IsTyped (date : Date) (cs : List Char) : Prop :=
  ∃ year month day, cs = year ++ '-' :: (month ++ '-' :: day) ∧ IsYear date.year year ∧
    IsShort 2 date.month month ∧ IsShort 2 date.day day

-- ---------------------------------------------------------------------------
-- Numbers
-- ---------------------------------------------------------------------------

section Numbers

variable {width n : Nat} {cs front rest : List Char}

/-- A mark is read just from itself. -/
theorem scanMark_iff {mark : Char} {u : Unit} :
    scanMark mark cs = some (u, rest) ↔ cs = mark :: rest := by
  cases cs with
  | nil => simp [scanMark]
  | cons c cs => simp [scanMark]

/-- Blanks in front of something else are passed over. -/
theorem trimStart_blanks {blanks : List Char} (hBlanks : ∀ c ∈ blanks, isBlank c = true)
    (hRest : ∀ c ∈ rest.head?, isBlank c = false) : trimStart (blanks ++ rest) = rest :=
  dropWhile_run hBlanks hRest

/-- A text is the blanks that are passed over and what is left. -/
theorem exists_blanks (cs : List Char) :
    ∃ blanks, cs = blanks ++ trimStart cs ∧ ∀ c ∈ blanks, isBlank c = true :=
  ⟨cs.takeWhile isBlank, List.takeWhile_append_dropWhile.symm,
    fun _ hc => List.mem_takeWhile_imp hc⟩

theorem isBlank_head?_of_isNumber (h : IsNumber n cs) (rest : List Char) :
    ∀ c ∈ (cs ++ rest).head?, isBlank c = false := by
  cases cs with
  | nil => exact absurd rfl h.ne_nil
  | cons d ds =>
    rintro c ⟨⟩
    exact isBlank_of_isDigit (h.digits d (List.mem_cons_self ..))

/-- The digits of a number are all that is taken of it. -/
theorem leadingDigits_of_isNumber (h : IsNumber n cs) (hLength : cs.length ≤ width)
    (hRest : ∀ c ∈ rest.head?, c.isDigit = false) : leadingDigits width (cs ++ rest) = cs := by
  rw [leadingDigits, List.take_append, List.take_of_length_le hLength]
  refine takeWhile_run h.digits fun c hc => hRest c ?_
  rw [List.head?_take] at hc
  split at hc
  · cases hc
  · exact hc

/-- A short number is read, if no other digit comes behind it. -/
theorem scanNumber_of_isShort (h : IsShort width n front)
    (hRest : ∀ c ∈ rest.head?, c.isDigit = false) :
    scanNumber width (front ++ rest) = some (n, rest) := by
  obtain ⟨blanks, digits, rfl, hBlanks, hNumber, hLength⟩ := h
  have hTrim : trimStart ((blanks ++ digits) ++ rest) = digits ++ rest := by
    rw [List.append_assoc]
    exact trimStart_blanks hBlanks (isBlank_head?_of_isNumber hNumber rest)
  simp only [scanNumber, hTrim, leadingDigits_of_isNumber hNumber hLength hRest,
    readNat?_eq_some_iff.mpr hNumber, Option.map_some, List.drop_left]

/-- What is read as a number is a short one. -/
theorem isShort_of_scanNumber (h : scanNumber width cs = some (n, rest)) :
    ∃ front, cs = front ++ rest ∧ IsShort width n front := by
  obtain ⟨k, hRead, hSame⟩ := Option.map_eq_some_iff.mp h
  obtain ⟨rfl, rfl⟩ := Prod.mk.inj hSame
  obtain ⟨blanks, hSplit, hBlanks⟩ := exists_blanks cs
  have hPrefix : leadingDigits width (trimStart cs) <+: trimStart cs :=
    (List.takeWhile_prefix _).trans (List.take_prefix _ _)
  refine ⟨blanks ++ leadingDigits width (trimStart cs), ?_, blanks, _, rfl, hBlanks,
    readNat?_eq_some_iff.mp hRead, ?_⟩
  · rw [List.append_assoc, List.prefix_iff_eq_append.mp hPrefix]
    exact hSplit
  · exact (List.takeWhile_prefix _).length_le.trans (List.length_take_le _ _)

/-- A number within bounds is a number that is within them. -/
theorem scanWithin_iff {low high : Nat} :
    scanWithin width low high cs = some (n, rest) ↔
      scanNumber width cs = some (n, rest) ∧ low ≤ n ∧ n ≤ high := by
  simp [scanWithin, Option.filter_eq_some_iff]

-- ---------------------------------------------------------------------------
-- Years
-- ---------------------------------------------------------------------------

/-- A year with a sign may have any number of digits. -/
theorem scanSigned_of_isNumber (h : IsNumber n cs) (hRest : ∀ c ∈ rest.head?, c.isDigit = false)
    (sign : Int) : scanSigned sign (cs ++ rest) = some (sign * n, rest) := by
  simp only [scanSigned, takeWhile_run h.digits hRest, readNat?_eq_some_iff.mpr h, List.drop_left]
  rfl

/-- Behind its sign it has digits only. -/
theorem isNumber_of_scanSigned {sign year : Int} (h : scanSigned sign cs = some (year, rest)) :
    ∃ n digits, cs = digits ++ rest ∧ IsNumber n digits ∧ year = sign * n := by
  obtain ⟨_, hRead, hSame⟩ := Option.map_eq_some_iff.mp h
  obtain ⟨n, hDigits, hCast⟩ := Option.bind_eq_some_iff.mp hRead
  cases hCast
  obtain ⟨rfl, rfl⟩ := Prod.mk.inj hSame
  refine ⟨n, cs.takeWhile Char.isDigit, ?_, readNat?_eq_some_iff.mp hDigits, rfl⟩
  exact (List.prefix_iff_eq_append.mp (List.takeWhile_prefix _)).symm

/-- A year is read, if no other digit comes behind it. -/
theorem scanYear_of_isYear {year : Int} (h : IsYear year front)
    (hRest : ∀ c ∈ rest.head?, c.isDigit = false) :
    scanYear (front ++ rest) = some (year, rest) := by
  cases h with
  | @short n _ h =>
    obtain ⟨blanks, digits, rfl, hBlanks, hNumber, hLength⟩ := h
    have hHead := isBlank_head?_of_isNumber hNumber rest
    have hTrim : trimStart ((blanks ++ digits) ++ rest) = digits ++ rest := by
      rw [List.append_assoc]
      exact trimStart_blanks hBlanks hHead
    have hScan : scanNumber 4 (digits ++ rest) = some (n, rest) :=
      scanNumber_of_isShort ⟨[], digits, rfl, by simp, hNumber, hLength⟩ hRest
    have hNoSign {sign : Char} {cs : List Char} (hSign : sign.isDigit = false) :
        digits ++ rest ≠ sign :: cs := by
      obtain ⟨d, ds, rfl⟩ := List.exists_cons_of_ne_nil hNumber.ne_nil
      rintro ⟨⟩
      rw [hNumber.digits sign (List.mem_cons_self ..)] at hSign
      cases hSign
    rw [scanYear, hTrim]
    split
    · rename_i hSame
      exact absurd hSame (hNoSign (by decide))
    · rename_i hSame
      exact absurd hSame (hNoSign (by decide))
    · rw [hScan, Option.map_some]
  | @positive n blanks digits hBlanks hNumber =>
    have hTrim : trimStart ((blanks ++ '+' :: digits) ++ rest) = '+' :: (digits ++ rest) := by
      rw [List.append_assoc]
      exact trimStart_blanks hBlanks (by rintro c ⟨⟩; decide)
    simp only [scanYear, hTrim, scanSigned_of_isNumber hNumber hRest, Int.one_mul]
  | @negative n blanks digits hBlanks hNumber =>
    have hTrim : trimStart ((blanks ++ '-' :: digits) ++ rest) = '-' :: (digits ++ rest) := by
      rw [List.append_assoc]
      exact trimStart_blanks hBlanks (by rintro c ⟨⟩; decide)
    simp only [scanYear, hTrim, scanSigned_of_isNumber hNumber hRest, Int.neg_one_mul]

/-- What is read as a year is the text of one. -/
theorem isYear_of_scanYear {year : Int} (h : scanYear cs = some (year, rest)) :
    ∃ front, cs = front ++ rest ∧ IsYear year front := by
  obtain ⟨blanks, hSplit, hBlanks⟩ := exists_blanks cs
  rw [scanYear] at h
  split at h
  · rename_i signed hSigned
    obtain ⟨n, digits, rfl, hNumber, rfl⟩ := isNumber_of_scanSigned h
    refine ⟨blanks ++ '-' :: digits, ?_, by simpa using IsYear.negative hBlanks hNumber⟩
    rw [hSplit, hSigned, List.append_assoc, List.cons_append]
  · rename_i signed hSigned
    obtain ⟨n, digits, rfl, hNumber, rfl⟩ := isNumber_of_scanSigned h
    refine ⟨blanks ++ '+' :: digits, ?_, by simpa using IsYear.positive hBlanks hNumber⟩
    rw [hSplit, hSigned, List.append_assoc, List.cons_append]
  · obtain ⟨⟨n, left⟩, hRead, hSame⟩ := Option.map_eq_some_iff.mp h
    obtain ⟨rfl, rfl⟩ := Prod.mk.inj hSame
    obtain ⟨front, hFront, blanks', digits, rfl, hBlanks', hNumber, hLength⟩ :=
      isShort_of_scanNumber hRead
    refine ⟨(blanks ++ blanks') ++ digits, ?_, .short ⟨_, digits, rfl, ?_, hNumber, hLength⟩⟩
    · rw [hSplit, hFront]
      simp only [List.append_assoc]
    · exact List.forall_mem_append.mpr ⟨hBlanks, hBlanks'⟩

end Numbers

-- ---------------------------------------------------------------------------
-- Dates
-- ---------------------------------------------------------------------------

/-- A date is read from its texts, and from these alone. -/
theorem Date.read?_eq_some_iff {date : Date} {cs : List Char} :
    Date.read? cs = some date ↔ date.IsTyped cs := by
  have hDash : ∀ rest : List Char, ∀ c ∈ ('-' :: rest).head?, c.isDigit = false := by
    rintro rest c ⟨⟩
    decide
  constructor
  · intro h
    rw [Date.read?] at h
    split at h
    · rename_i d hScan
      cases h
      simp only [scanDate, id_eq, Option.bind_eq_bind, Option.bind_eq_some_iff,
        Prod.exists] at hScan
      obtain ⟨year, cs₁, hYear, _, cs₂, hMark, month, cs₃, hMonth, _, cs₄, hMark', day, cs₅, hDay,
        d, hDate, hEnd⟩ := hScan
      cases hEnd
      obtain ⟨front, rfl, hIsYear⟩ := isYear_of_scanYear hYear
      obtain rfl := scanMark_iff.mp hMark
      obtain ⟨front', rfl, hIsMonth⟩ := isShort_of_scanNumber (scanWithin_iff.mp hMonth).1
      obtain rfl := scanMark_iff.mp hMark'
      obtain ⟨front'', rfl, hIsDay⟩ := isShort_of_scanNumber (scanWithin_iff.mp hDay).1
      rw [Date.ofParts?, Option.dite_none_right_eq_some] at hDate
      obtain ⟨hExists, hSame⟩ := hDate
      cases hSame
      exact ⟨front, front', front'', by rw [List.append_nil], hIsYear, hIsMonth, hIsDay⟩
    · cases h
  · rintro ⟨year, month, day, rfl, hYear, hMonth, hDay⟩
    obtain ⟨-, -, hFirst, hLast⟩ := date.exist
    obtain ⟨hMonthLow, hMonthHigh⟩ := month_of_daysInMonth (Nat.lt_of_lt_of_le hFirst hLast)
    have hDayHigh : date.day ≤ 31 := Nat.le_trans hLast (daysInMonth_le date.year date.month)
    have hScanYear := scanYear_of_isYear hYear (hDash (month ++ '-' :: day))
    have hScanMonth := scanWithin_iff.mpr
      ⟨scanNumber_of_isShort hMonth (hDash day), hMonthLow, hMonthHigh⟩
    have hScanDay : scanWithin 2 1 31 (day ++ []) = some (date.day, []) :=
      scanWithin_iff.mpr ⟨scanNumber_of_isShort hDay (by simp), hFirst, hDayHigh⟩
    rw [List.append_nil] at hScanDay
    simp [Date.read?, scanDate, hScanYear, scanMark_cons, hScanMonth, hScanDay, Date.ofParts?_eq]

end MediaLibrary.Calendar
