import MediaLibrary.Proofs.Calendar.InstantText

/-!
# Calendar — days in a row

The number of a day is computed from its year, its month and its day of the month. What it has to
be can be told without numbers of days: behind the last day of a month comes the first of the next
one, and behind the thirty-first of December the first of January. The number of a day says how many
such steps it takes to get there, forward or back; and no number between those of two days is left
out.

* `daysBeforeMonth_succ`, `daysBeforeYear_succ` — months and years are as long as they are;
* `Date.dayNumber_lt_iff` — later days have greater numbers;
* `Date.Follows`, `Date.next?_eq_some_iff` — the next day;
* `Date.Away`, `Date.away_iff` — the number of days from one date to another;
* `Date.exists_dayNumber` — no number is left out.
-/

namespace MediaLibrary.Calendar

-- ---------------------------------------------------------------------------
-- Months and years
-- ---------------------------------------------------------------------------

variable {year year' : Int} {month month' : Nat}

/-- The days before the next month are those before this one, and its own. -/
theorem daysBeforeMonth_succ (year : Int) (month : Nat) :
    daysBeforeMonth year (month + 1) = daysBeforeMonth year month + daysInMonth year month := by
  have hSum (months : Nat) :
      daysBeforeMonth year months = ((List.range months).map (daysInMonth year)).sum := rfl
  rw [hSum, hSum, List.range_succ, List.map_append, List.sum_append, List.map_singleton,
    List.sum_singleton]

/-- Later months have no fewer days before them. -/
theorem daysBeforeMonth_mono (h : month ≤ month') :
    daysBeforeMonth year month ≤ daysBeforeMonth year month' := by
  induction h with
  | refl => exact Nat.le_refl _
  | step _ ih => exact Nat.le_trans ih (daysBeforeMonth_succ .. ▸ Nat.le_add_right ..)

/-- The number of days of a year. -/
def daysInYear (year : Int) : Nat :=
  if isLeapYear year then 366 else 365

/-- The months of a year are the year. -/
theorem daysBeforeMonth_end (year : Int) : daysBeforeMonth year 13 = daysInYear year := by
  have hNone : daysBeforeMonth year 0 = 0 := rfl
  cases h : isLeapYear year <;>
    simp [daysBeforeMonth_succ, hNone, daysInMonth, daysInYear, h]

/-- Each month has a day. -/
theorem daysInMonth_pos (hLow : 1 ≤ month) (hHigh : month ≤ 12) :
    1 ≤ daysInMonth year month := by
  unfold daysInMonth
  split <;> try omega
  · split <;> omega
  · simp only [imp_false] at *
    omega

/-- The days before the next year are those before this one, and its own. -/
theorem daysBeforeYear_succ (year : Int) :
    daysBeforeYear (year + 1) = daysBeforeYear year + daysInYear year := by
  simp only [daysBeforeYear, daysInYear, isLeapYear, Bool.and_eq_true, Bool.or_eq_true, beq_iff_eq,
    bne_iff_ne, ne_eq]
  split <;> omega

/-- Later years have no fewer days before them. -/
theorem daysBeforeYear_mono (h : year ≤ year') :
    daysBeforeYear year ≤ daysBeforeYear year' := by
  simp only [daysBeforeYear]
  omega

namespace Date

variable {a b d d' : Date} {n : Int}

theorem month_within (d : Date) : 1 ≤ d.month ∧ d.month ≤ 12 :=
  month_of_daysInMonth (Nat.lt_of_lt_of_le d.exist.2.2.1 d.exist.2.2.2)

/-- A day is one of its month. -/
theorem day_within_month (d : Date) :
    daysBeforeMonth d.year d.month + d.day ≤ daysBeforeMonth d.year (d.month + 1) := by
  rw [daysBeforeMonth_succ]
  exact Nat.add_le_add_left d.exist.2.2.2 _

/-- A day is one of its year. -/
theorem day_within_year (d : Date) :
    daysBeforeMonth d.year d.month + d.day ≤ daysInYear d.year := by
  rw [← daysBeforeMonth_end]
  exact Nat.le_trans d.day_within_month
    (daysBeforeMonth_mono (Nat.succ_le_succ d.month_within.2))

-- ---------------------------------------------------------------------------
-- Order
-- ---------------------------------------------------------------------------

/-- One date is earlier than another: in an earlier year, or in an earlier month of its year, or on
an earlier day of its month. -/
def Before (d d' : Date) : Prop :=
  d.year < d'.year ∨ (d.year = d'.year ∧
    (d.month < d'.month ∨ (d.month = d'.month ∧ d.day < d'.day)))

/-- Of two dates one is before the other, or they are the same. -/
theorem before_or_eq_or_after (d d' : Date) : d.Before d' ∨ d = d' ∨ d'.Before d := by
  obtain ⟨year, month, day, hExist⟩ := d
  obtain ⟨year', month', day', hExist'⟩ := d'
  simp only [Before, mk.injEq]
  omega

/-- The day numbers ascend with the dates. -/
theorem dayNumber_lt_of_before (h : d.Before d') : d.dayNumber < d'.dayNumber := by
  have hDay := d'.exist.2.2.1
  simp only [dayNumber]
  rcases h with hYear | ⟨hYear, hMonth | ⟨hMonth, hDays⟩⟩
  · have hLast := d.day_within_year
    have hSucc := daysBeforeYear_succ d.year
    have hMono : daysBeforeYear (d.year + 1) ≤ daysBeforeYear d'.year :=
      daysBeforeYear_mono hYear
    omega
  · have hLast := d.day_within_month
    have hMono : daysBeforeMonth d.year (d.month + 1) ≤ daysBeforeMonth d.year d'.month :=
      daysBeforeMonth_mono hMonth
    rw [← hYear]
    omega
  · rw [← hYear, ← hMonth]
    omega

/-- Later days have greater numbers. -/
theorem dayNumber_lt_iff : d.dayNumber < d'.dayNumber ↔ d.Before d' := by
  constructor
  · intro h
    rcases before_or_eq_or_after d d' with hBefore | rfl | hAfter
    · exact hBefore
    · exact absurd h (Int.lt_irrefl _)
    · exact absurd (dayNumber_lt_of_before hAfter) (Int.lt_asymm h)
  · exact dayNumber_lt_of_before

/-- A day number belongs to one date only. -/
theorem dayNumber_inj : d.dayNumber = d'.dayNumber ↔ d = d' := by
  constructor
  · intro h
    rcases before_or_eq_or_after d d' with hBefore | hSame | hAfter
    · exact absurd h (Int.ne_of_lt (dayNumber_lt_of_before hBefore))
    · exact hSame
    · exact absurd h.symm (Int.ne_of_lt (dayNumber_lt_of_before hAfter))
  · rintro rfl
    rfl

-- ---------------------------------------------------------------------------
-- The next day
-- ---------------------------------------------------------------------------

/-- One date comes right before another. -/
inductive Follows (d d' : Date) : Prop where
  /-- The next day of the month. -/
  | day : d'.year = d.year → d'.month = d.month → d'.day = d.day + 1 → Follows d d'
  /-- The first day of the next month, after the last one of this month. -/
  | month : d.day = daysInMonth d.year d.month →
      d'.year = d.year → d'.month = d.month + 1 → d'.day = 1 → Follows d d'
  /-- The first of January, after the thirty-first of December. -/
  | year : d.month = 12 → d.day = 31 →
      d'.year = d.year + 1 → d'.month = 1 → d'.day = 1 → Follows d d'

/-- The next day has the next number. -/
theorem dayNumber_follows (h : d.Follows d') : d'.dayNumber = d.dayNumber + 1 := by
  simp only [dayNumber]
  cases h with
  | day hYear hMonth hDay =>
    rw [hYear, hMonth, hDay]
    omega
  | month hLast hYear hMonth hDay =>
    have hSucc := daysBeforeMonth_succ d.year d.month
    rw [hYear, hMonth, hDay]
    omega
  | year hDecember hLast hYear hMonth hDay =>
    have hSucc := daysBeforeYear_succ d.year
    have hMonths := daysBeforeMonth_succ d.year 12
    have hFirst : daysBeforeMonth (d.year + 1) 1 = 0 := rfl
    have hThirtyOne : daysInMonth d.year 12 = 31 := rfl
    rw [daysBeforeMonth_end] at hMonths
    rw [hYear, hMonth, hDay, hDecember, hLast]
    omega

theorem ofParts?_eq_some_iff {day : Nat} :
    ofParts? year month day = some d ↔ d.year = year ∧ d.month = month ∧ d.day = day := by
  constructor
  · intro h
    unfold ofParts? at h
    split at h
    · cases h
      exact ⟨rfl, rfl, rfl⟩
    · cases h
  · rintro ⟨rfl, rfl, rfl⟩
    exact d.ofParts?_eq

/-- The neighbour of a date in the calendar is the date that follows it. -/
theorem next?_eq_some_iff : d.next? = some d' ↔ d.Follows d' := by
  have hMonth := d.month_within.2
  have hDay := d.exist.2.2.2
  have hDay' := d'.exist.2.2.2
  have hMonth' := d'.month_within.2
  unfold next?
  split
  · rename_i hInner
    rw [ofParts?_eq_some_iff]
    constructor
    · rintro ⟨hYear, hMonth, hDay⟩
      exact .day hYear hMonth hDay
    · intro h
      cases h with
      | day hYear hMonth hDay => exact ⟨hYear, hMonth, hDay⟩
      | month hLast => omega
      | year hDecember hLast =>
        have hMost := daysInMonth_le d.year d.month
        omega
  split
  · rename_i hLast hInner
    rw [ofParts?_eq_some_iff]
    constructor
    · rintro ⟨hYear, hMonth, hDay⟩
      exact .month (by omega) hYear hMonth hDay
    · intro h
      cases h with
      | day hYear hMonth hDay => rw [hYear, hMonth] at hDay'; omega
      | month _ hYear hMonth hDay => exact ⟨hYear, hMonth, hDay⟩
      | year hDecember => omega
  · rename_i hLast hOuter
    have hDecember : d.month = 12 := by omega
    rw [ofParts?_eq_some_iff]
    constructor
    · rintro ⟨hYear, hMonth, hFirst⟩
      have hThirtyOne : daysInMonth d.year 12 = 31 := rfl
      rw [hDecember] at hLast hDay
      exact .year hDecember (by omega) hYear hMonth hFirst
    · intro h
      cases h with
      | day hYear hMonth hDay => rw [hYear, hMonth] at hDay'; omega
      | month _ _ hNext => omega
      | year _ _ hYear hMonth hDay => exact ⟨hYear, hMonth, hDay⟩

/-- A day that is not the last one has a next one. -/
theorem exists_follows (h : d.dayNumber < d'.dayNumber) : ∃ e, d.Follows e := by
  suffices hNext : ∃ e, d.next? = some e by
    obtain ⟨e, he⟩ := hNext
    exact ⟨e, next?_eq_some_iff.mp he⟩
  obtain ⟨hMin, hMax, hPos, hLast⟩ := d.exist
  have hMonth := d.month_within.2
  unfold next?
  split
  · rename_i hInner
    exact ⟨_, dif_pos ⟨hMin, hMax, Nat.le_add_left 1 d.day, hInner⟩⟩
  split
  · rename_i hInner
    exact ⟨_, dif_pos ⟨hMin, hMax, Nat.le_refl 1, daysInMonth_pos (by omega) hInner⟩⟩
  · rename_i hInner hOuter
    have hDecember : d.month = 12 := by omega
    have hThirtyOne : daysInMonth d.year 12 = 31 := rfl
    rw [hDecember] at hInner hLast
    -- what is later lies in a later year
    have hYear : d.year < d'.year := by
      have hMonth' := d'.month_within.2
      have hDay' := Nat.le_trans d'.exist.2.2.2 (daysInMonth_le d'.year d'.month)
      have hBefore := dayNumber_lt_iff.mp h
      unfold Before at hBefore
      omega
    have hMax' := d'.exist.2.1
    exact ⟨_, dif_pos ⟨by omega, by omega, Nat.le_refl 1,
      daysInMonth_pos (Nat.le_refl 1) (by decide)⟩⟩

-- ---------------------------------------------------------------------------
-- From day to day
-- ---------------------------------------------------------------------------

/-- Between two days every number is the one of a day. -/
theorem exists_dayNumber (hLow : a.dayNumber ≤ n) (hHigh : n ≤ b.dayNumber) :
    ∃ d : Date, d.dayNumber = n := by
  obtain ⟨steps, hSteps⟩ := Int.le.dest hLow
  induction steps generalizing a with
  | zero => exact ⟨a, by simpa using hSteps⟩
  | succ steps ih =>
    have hBefore : a.dayNumber < b.dayNumber := by omega
    obtain ⟨next, hNext⟩ := exists_follows hBefore
    have hNumber := dayNumber_follows hNext
    exact ih (a := next) (by omega) (by omega)

/-- A date lies a number of days behind another one, a negative number if it lies before it. -/
inductive Away (a : Date) : Date → Int → Prop where
  | here : Away a a 0
  | later {b c : Date} {n : Int} : Away a b n → b.Follows c → Away a c (n + 1)
  | earlier {b c : Date} {n : Int} : Away a b n → c.Follows b → Away a c (n - 1)

/-- A later date is as many days away as the day numbers differ. -/
theorem away_of_later (steps : Nat) (h : b.dayNumber = a.dayNumber + steps) : a.Away b steps := by
  induction steps generalizing b with
  | zero =>
    obtain rfl : b = a := dayNumber_inj.mp (by simpa using h)
    exact .here
  | succ steps ih =>
    obtain ⟨c, hc⟩ := exists_dayNumber (a := a) (b := b) (n := a.dayNumber + steps) (by omega)
      (by omega)
    have hBefore : c.dayNumber < b.dayNumber := by omega
    obtain ⟨e, hFollows⟩ := exists_follows hBefore
    obtain rfl : e = b := by
      rw [← dayNumber_inj, dayNumber_follows hFollows]
      omega
    exact .later (ih hc) hFollows

/-- So is an earlier one, counted back. -/
theorem away_of_earlier (steps : Nat) (h : a.dayNumber = b.dayNumber + steps) :
    a.Away b (-steps) := by
  induction steps generalizing b with
  | zero =>
    obtain rfl : a = b := dayNumber_inj.mp (by simpa using h)
    exact .here
  | succ steps ih =>
    have hBefore : b.dayNumber < a.dayNumber := by omega
    obtain ⟨e, hFollows⟩ := exists_follows hBefore
    have hNumber := dayNumber_follows hFollows
    have hAway := Away.earlier (ih (b := e) (by omega)) hFollows
    have hSum : -((steps + 1 : Nat) : Int) = -steps - 1 := by omega
    rwa [hSum]

/-- The difference of the numbers of two days is the number of days between them. -/
theorem away_iff : a.Away b n ↔ b.dayNumber - a.dayNumber = n := by
  constructor
  · intro h
    induction h with
    | here => exact Int.sub_self _
    | later _ hFollows ih => rw [dayNumber_follows hFollows, ← ih]; omega
    | earlier _ hFollows ih => rw [← ih, dayNumber_follows hFollows]; omega
  · rintro rfl
    rcases Int.le_total a.dayNumber b.dayNumber with h | h
    · obtain ⟨steps, hSteps⟩ := Int.le.dest h
      have hNumber : b.dayNumber - a.dayNumber = steps := by omega
      rw [hNumber]
      exact away_of_later steps hSteps.symm
    · obtain ⟨steps, hSteps⟩ := Int.le.dest h
      have hNumber : b.dayNumber - a.dayNumber = -steps := by omega
      rw [hNumber]
      exact away_of_earlier steps hSteps.symm

end Date

end MediaLibrary.Calendar
