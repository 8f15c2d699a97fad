import MediaLibrary.Calendar.Instant
import MediaLibrary.Proofs.Basic
import MediaLibrary.Proofs.Text.Digits

/-!
# Calendar — dates and instants are read as they are written

The readers of dates and instants accept more than the writers write. Still every
date and every instant comes back from its text: a year with a sign or without, a
fraction of any length, and a leap second, which is written as the sixtieth second.

* `scanDate_text`, `Date.read?_text` — dates;
* `Instant.read?_text` — instants.
-/

namespace MediaLibrary.Calendar

open MediaLibrary.Text

-- ---------------------------------------------------------------------------
-- Numbers and marks
-- ---------------------------------------------------------------------------

theorem isBlank_of_isDigit {c : Char} (hc : c.isDigit = true) : isBlank c = false := by
  obtain ⟨hLow, hHigh⟩ := Char.isDigit_iff_toNat.mp hc
  have hLow : 48 ≤ c.toNat := hLow
  have hHigh : c.toNat ≤ 57 := hHigh
  simp only [isBlank, Bool.or_eq_false_iff, Bool.and_eq_false_iff, decide_eq_false_iff_not,
    beq_eq_false_iff_ne]
  omega

theorem trimStart_cons {c : Char} (hc : isBlank c = false) (cs : List Char) :
    trimStart (c :: cs) = c :: cs :=
  List.dropWhile_cons_of_neg (by simp [hc])

/-- A padded number begins with a digit. -/
theorem exists_padded_cons (width n : Nat) :
    ∃ d ds, padded width n = d :: ds ∧ d.isDigit = true := by
  obtain ⟨d, ds, hDigits⟩ := List.exists_cons_of_ne_nil (padded_ne_nil width n)
  exact ⟨d, ds, hDigits, isDigit_of_mem_padded (hDigits ▸ List.mem_cons_self ..)⟩

/-- A padded number has no blanks to lose. -/
theorem trimStart_padded (width n : Nat) (rest : List Char) :
    trimStart (padded width n ++ rest) = padded width n ++ rest := by
  obtain ⟨d, ds, hDigits, hDigit⟩ := exists_padded_cons width n
  rw [hDigits, List.cons_append, trimStart_cons (isBlank_of_isDigit hDigit)]

/-- A number that fits its width is read without what follows it. -/
theorem scanNumber_padded {width n : Nat} (hWidth : 0 < width) (hn : n < 10 ^ width)
    (rest : List Char) : scanNumber width (padded width n ++ rest) = some (n, rest) := by
  have hLength := length_padded hWidth hn
  have hDigits : leadingDigits width (padded width n ++ rest) = padded width n := by
    rw [leadingDigits, List.take_left' hLength]
    exact takeWhile_all fun _ => isDigit_of_mem_padded
  simp only [scanNumber, trimStart_padded, hDigits, readNat?_padded, List.drop_left,
    Option.map_some]

/-- A number within the bounds is read from its padded digits. -/
theorem scanWithin_padded {width low high n : Nat} (hWidth : 0 < width) (hn : n < 10 ^ width)
    (hLow : low ≤ n) (hHigh : n ≤ high) (rest : List Char) :
    scanWithin width low high (padded width n ++ rest) = some (n, rest) := by
  rw [scanWithin, scanNumber_padded hWidth hn]
  simp [hLow, hHigh]

theorem scanMark_cons (mark : Char) (rest : List Char) :
    scanMark mark (mark :: rest) = some ((), rest) := by
  simp [scanMark]

-- ---------------------------------------------------------------------------
-- Dates
-- ---------------------------------------------------------------------------

/-- A year after its sign, with as many digits as it has. -/
theorem scanSigned_padded (sign : Int) (n : Nat) {rest : List Char}
    (hRest : ∀ c ∈ rest.head?, c.isDigit = false) :
    scanSigned sign (padded 4 n ++ rest) = some (sign * n, rest) := by
  have hDigits : (padded 4 n ++ rest).takeWhile Char.isDigit = padded 4 n :=
    takeWhile_run (fun _ => isDigit_of_mem_padded) hRest
  simp only [scanSigned, hDigits, readNat?_padded, List.drop_left]
  rfl

/-- A year is read back, with its sign if it needs one. -/
theorem scanYear_yearText (year : Int) {rest : List Char}
    (hRest : ∀ c ∈ rest.head?, c.isDigit = false) :
    scanYear (yearText year ++ rest) = some (year, rest) := by
  by_cases hShort : (0 ≤ year && year ≤ 9999) = true
  · rw [yearText, if_pos hShort]
    simp only [Bool.and_eq_true, decide_eq_true_iff] at hShort
    have hNumber : scanNumber 4 (padded 4 year.toNat ++ rest) = some (year.toNat, rest) :=
      scanNumber_padded (by decide) (by omega) rest
    have hYear : (year.toNat : Int) = year := by omega
    rw [scanYear, trimStart_padded]
    obtain ⟨d, ds, hDigits, hDigit⟩ := exists_padded_cons 4 year.toNat
    rw [hDigits, List.cons_append] at hNumber ⊢
    split
    · rename_i hMinus
      cases hMinus
      exact absurd hDigit (by decide)
    · rename_i hPlus
      cases hPlus
      exact absurd hDigit (by decide)
    · simp only [hNumber, Option.map_some, hYear]
  · rw [yearText, if_neg hShort]
    by_cases hNegative : year < 0
    · have hAbs : (-1 : Int) * year.natAbs = year := by omega
      rw [if_pos hNegative, List.cons_append, scanYear, trimStart_cons (by decide)]
      exact (scanSigned_padded (-1) year.natAbs hRest).trans (by rw [hAbs])
    · have hAbs : (1 : Int) * year.natAbs = year := by omega
      rw [if_neg hNegative, List.cons_append, scanYear, trimStart_cons (by decide)]
      exact (scanSigned_padded 1 year.natAbs hRest).trans (by rw [hAbs])

/-- A date is made again of its own parts. -/
theorem Date.ofParts?_eq (d : Date) : Date.ofParts? d.year d.month d.day = some d :=
  dif_pos d.exist

/-- Only the twelve months have days. -/
theorem month_of_daysInMonth {year : Int} {month : Nat} (h : 0 < daysInMonth year month) :
    1 ≤ month ∧ month ≤ 12 := by
  unfold daysInMonth at h
  split at h <;> omega

theorem daysInMonth_le (year : Int) (month : Nat) : daysInMonth year month ≤ 31 := by
  unfold daysInMonth
  split <;> try omega
  split <;> omega

/-- A written date is read without what follows it, whichever blanks are passed over. -/
theorem scanDate_text {gap : List Char → List Char} (hGap : ∀ cs, gap ('-' :: cs) = '-' :: cs)
    (d : Date) (rest : List Char) : scanDate gap (d.text ++ rest) = some (d, rest) := by
  obtain ⟨-, -, hDay, hLast⟩ := d.exist
  obtain ⟨hMonthLow, hMonthHigh⟩ := month_of_daysInMonth (Nat.lt_of_lt_of_le hDay hLast)
  have hDayHigh : d.day ≤ 31 := Nat.le_trans hLast (daysInMonth_le d.year d.month)
  have hYear (cs : List Char) :
      scanYear (yearText d.year ++ '-' :: cs) = some (d.year, '-' :: cs) :=
    scanYear_yearText d.year (by rintro c ⟨⟩; decide)
  have hMonth (cs : List Char) : scanWithin 2 1 12 (padded 2 d.month ++ cs) = some (d.month, cs) :=
    scanWithin_padded (by decide) (by omega) hMonthLow hMonthHigh cs
  have hDays : scanWithin 2 1 31 (padded 2 d.day ++ rest) = some (d.day, rest) :=
    scanWithin_padded (by decide) (by omega) hDay hDayHigh rest
  simp [Date.text, scanDate, hYear, hGap, scanMark_cons, hMonth, hDays, Date.ofParts?_eq]

/-- A date is read as it is written. -/
theorem Date.read?_text (d : Date) : Date.read? d.text = some d := by
  have hScan : scanDate id (d.text ++ []) = some (d, []) := scanDate_text (fun _ => rfl) d []
  rw [List.append_nil] at hScan
  rw [Date.read?, hScan]

-- ---------------------------------------------------------------------------
-- Fractions
-- ---------------------------------------------------------------------------

/-- A fraction of at most nine digits is read in nanoseconds. -/
theorem scanFraction_padded {width n : Nat} (hWidth : 0 < width) (hNine : width ≤ 9)
    (hn : n < 10 ^ width) {rest : List Char} (hRest : ∀ c ∈ rest.head?, c.isDigit = false) :
    Instant.scanFraction ('.' :: (padded width n ++ rest)) = some (n * 10 ^ (9 - width), rest) := by
  have hLength := length_padded hWidth hn
  have hDigits : (padded width n ++ rest).takeWhile Char.isDigit = padded width n :=
    takeWhile_run (fun _ => isDigit_of_mem_padded) hRest
  have hKept : (padded width n).take 9 = padded width n := List.take_of_length_le (by omega)
  have hDrop : (padded width n ++ rest).drop width = rest := List.drop_left' hLength
  simp [Instant.scanFraction, hDigits, hKept, readNat?_padded, hLength, hDrop]

/-- However many digits a fraction is written with, they lose nothing. -/
theorem scanFraction_fractionText {nano : Nat} (hNano : nano < secondNanos) {rest : List Char}
    (hRest : ∀ c ∈ rest.head?, c.isDigit = false ∧ c ≠ '.') :
    Instant.scanFraction (Instant.fractionText nano ++ rest) = some (nano, rest) := by
  have hStop : ∀ c ∈ rest.head?, c.isDigit = false := fun c hc => (hRest c hc).1
  have hNano : nano < 1000000000 := hNano
  unfold Instant.fractionText
  split_ifs with hZero hMillis hMicros
  · rw [beq_iff_eq] at hZero
    rw [hZero, List.nil_append]
    cases rest with
    | nil => rfl
    | cons c rest =>
      have hNotPoint : c ≠ '.' := (hRest c rfl).2
      rw [Instant.scanFraction]
      rintro cs hcs
      cases hcs
      exact hNotPoint rfl
  · rw [beq_iff_eq] at hMillis
    have hValue : nano / 1000000 * 10 ^ (9 - 3) = nano := by omega
    rw [List.cons_append, scanFraction_padded (by decide) (by decide) (by omega) hStop, hValue]
  · rw [beq_iff_eq] at hMicros
    have hValue : nano / 1000 * 10 ^ (9 - 6) = nano := by omega
    rw [List.cons_append, scanFraction_padded (by decide) (by decide) (by omega) hStop, hValue]
  · rw [List.cons_append, scanFraction_padded (by decide) (by decide) hNano hStop]
    simp

-- ---------------------------------------------------------------------------
-- Instants
-- ---------------------------------------------------------------------------

namespace Instant

/-- An instant is its own local time at offset zero. -/
theorem ofLocal?_zero (t : Instant) : ofLocal? t.date t.second t.nano 0 = some t := by
  have hSecond : t.second < 86400 := t.exist.1
  have hNotBefore : ¬(t.second : Int) - 0 < 0 := by omega
  have hNotAfter : ¬(daySeconds : Int) ≤ (t.second : Int) - 0 := by
    simp only [daySeconds]
    omega
  have hSame : (((t.second : Int) - 0) % daySeconds).toNat = t.second := by
    simp only [daySeconds]
    omega
  simp only [ofLocal?, hNotBefore, hNotAfter, hSame, if_false]
  exact dif_pos t.exist

/-- The second of the minute as it is written: a leap second is written as the second sixty. -/
def shownSecond (t : Instant) : Nat :=
  t.second % 60 + if secondNanos ≤ t.nano then 1 else 0

/-- The second that is shown is a leap second at most. -/
theorem shownSecond_le (t : Instant) : t.shownSecond ≤ 60 := by
  unfold shownSecond
  split <;> omega

/-- The second sixty is read as a leap second again. -/
theorem read_shownSecond (t : Instant) :
    (if t.shownSecond = 60 then (59, secondNanos + t.nano % secondNanos)
      else (t.shownSecond, t.nano % secondNanos)) = (t.second % 60, t.nano) := by
  obtain ⟨-, hNano, hLeap⟩ := t.exist
  unfold shownSecond
  by_cases h : secondNanos ≤ t.nano
  · have hLast := hLeap h
    have hFraction : t.nano % secondNanos = t.nano - secondNanos := by
      rw [Nat.mod_eq_sub_mod h, Nat.mod_eq_of_lt (by omega)]
    rw [if_pos h, if_pos (by omega), hFraction, Nat.add_sub_cancel' h, hLast]
  · have hFraction : t.nano % secondNanos = t.nano := Nat.mod_eq_of_lt (by omega)
    rw [if_neg h, if_neg (by omega), hFraction, Nat.add_zero]

/-- An instant is read as it is written. -/
theorem read?_text (t : Instant) : read? t.text = some t := by
  have hSecond : t.second < 86400 := t.exist.1
  have hText : t.text = t.date.text ++ 'T' :: (padded 2 (t.second / 3600) ++ ':' ::
      (padded 2 (t.second / 60 % 60) ++ ':' :: (padded 2 t.shownSecond ++
        (fractionText (t.nano % secondNanos) ++ ['Z'])))) := by
    simp [text, shownSecond]
  have hDate := scanDate_text (trimStart_cons (c := '-') (by decide)) t.date
  have hHour (cs : List Char) :
      scanWithin 2 0 23 (padded 2 (t.second / 3600) ++ cs) = some (t.second / 3600, cs) :=
    scanWithin_padded (by decide) (by omega) (by omega) (by omega) cs
  have hMinute (cs : List Char) :
      scanWithin 2 0 59 (padded 2 (t.second / 60 % 60) ++ cs) = some (t.second / 60 % 60, cs) :=
    scanWithin_padded (by decide) (by omega) (by omega) (by omega) cs
  have hShown (cs : List Char) :
      scanWithin 2 0 60 (padded 2 t.shownSecond ++ cs) = some (t.shownSecond, cs) :=
    scanWithin_padded (by decide) (Nat.lt_of_le_of_lt t.shownSecond_le (by decide)) (Nat.zero_le _)
      t.shownSecond_le cs
  have hFraction : scanFraction (fractionText (t.nano % secondNanos) ++ ['Z']) =
      some (t.nano % secondNanos, ['Z']) :=
    scanFraction_fractionText (Nat.mod_lt _ (by decide)) (by rintro c ⟨⟩; decide)
  have hColon (cs : List Char) : trimStart (':' :: cs) = ':' :: cs := trimStart_cons (by decide) cs
  have hZone : trimStart ['Z'] = ['Z'] := trimStart_cons (by decide) []
  have hClock : t.second / 3600 * 3600 + t.second / 60 % 60 * 60 + t.second % 60 = t.second := by
    omega
  have hMark (cs : List Char) : scanTimeMark ('T' :: cs) = some ((), cs) := rfl
  have hUtc : scanOffset ['Z'] = some (0, []) := rfl
  have hEnd : trimStart [] = [] := rfl
  rw [hText]
  simp [read?, hDate, hMark, hHour, hColon, scanMark_cons, hMinute, hShown, hFraction, hZone,
    hUtc, hEnd, read_shownSecond, hClock, ofLocal?_zero]

end Instant

end MediaLibrary.Calendar
