import Mathlib
import MediaLibrary.Proofs.Filter.Days
import MediaLibrary.Wire.Search

/-!
# Filter — ends between two seconds

Media are created at whole seconds, but an end of a range of time may lie between two of them.
Both ends are compared in whole seconds, rounded down. For an upper end nothing is lost: a second
begins before the end just if it is not later than the second of the end. A lower end is moved to
the beginning of its second, so what was created at this second is admitted although the range
begins after it.

* `Calendar.Instant.moment_lt_iff` — moments lie on their line as the calendar orders instants;
* `Calendar.Instant.ofSeconds_le_moment_iff`, `Calendar.Instant.moment_le_ofSeconds_iff` — what
  can be told from whole seconds;
* `TimeRange.Contains`, `TimeRange.BeginsWithin` — a range, and the second that it begins in;
* `TimeRange.Demands` — what a search with a range of creation times demands of media;
* `creation_times_are_rounded_down` — what is demanded, and when this is to lie in the range.
-/

namespace MediaLibrary

open Calendar Selection

-- ---------------------------------------------------------------------------
-- Moments
-- ---------------------------------------------------------------------------

namespace Calendar

/-- A point on the line of time: the whole seconds since the beginning of 1970, and the nanoseconds
that have passed since the last of them began. In a leap second these are more than a second. -/
abbrev Moment := Int ×ₗ Nat

/-- The beginning of a second. -/
def Moment.ofSeconds (n : Int) : Moment :=
  toLex (n, 0)

namespace Instant

/-- Where an instant lies on the line of time. -/
def moment (t : Instant) : Moment :=
  toLex (t.unixSeconds, t.nano)

/-- One instant is earlier than another: on an earlier day, or in an earlier second of its day, or
earlier in its second. -/
def Before (t u : Instant) : Prop :=
  t.date.Before u.date ∨ (t.date = u.date ∧
    (t.second < u.second ∨ (t.second = u.second ∧ t.nano < u.nano)))

variable {t u : Instant} {n : Int}

/-- Earlier instants lie further back. -/
theorem moment_lt_iff : t.moment < u.moment ↔ t.Before u := by
  have hSecond : t.second < 86400 := t.exist.1
  have hSecond' : u.second < 86400 := u.exist.1
  rw [moment, moment, Prod.Lex.toLex_lt_toLex, Before, ← Date.dayNumber_lt_iff,
    ← Date.dayNumber_inj]
  simp only [unixSeconds, daySeconds]
  omega

/-- A second begins before an instant, or with it, just if it is not later than its second. -/
theorem ofSeconds_le_moment_iff : .ofSeconds n ≤ t.moment ↔ n ≤ t.unixSeconds := by
  rw [Moment.ofSeconds, moment, Prod.Lex.toLex_le_toLex]
  show n < t.unixSeconds ∨ n = t.unixSeconds ∧ 0 ≤ t.nano ↔ n ≤ t.unixSeconds
  omega

/-- An instant inside a second comes after its beginning. -/
theorem moment_le_ofSeconds_iff :
    t.moment ≤ .ofSeconds n ↔ t.unixSeconds ≤ n ∧ ¬(t.unixSeconds = n ∧ t.nano ≠ 0) := by
  rw [Moment.ofSeconds, moment, Prod.Lex.toLex_le_toLex]
  show t.unixSeconds < n ∨ t.unixSeconds = n ∧ t.nano ≤ 0 ↔ _
  omega

end Instant

end Calendar

-- ---------------------------------------------------------------------------
-- Ranges
-- ---------------------------------------------------------------------------

namespace TimeRange

/-- A moment lies in a range, which includes its ends. -/
def Contains (r : TimeRange) (m : Moment) : Prop :=
  (∀ a ∈ r.after, a.moment ≤ m) ∧ ∀ b ∈ r.before, m ≤ b.moment

/-- A range begins in the course of a second, and does not end before this second. -/
def BeginsWithin (r : TimeRange) (n : Int) : Prop :=
  (∃ a ∈ r.after, a.unixSeconds = n ∧ a.nano ≠ 0) ∧ ∀ b ∈ r.before, .ofSeconds n ≤ b.moment

/-- A range begins with a second, or it ends before the second that it begins in. -/
def BeginsSharp (r : TimeRange) : Prop :=
  ∀ a ∈ r.after, a.nano = 0 ∨ ∃ b ∈ r.before, b.unixSeconds < a.unixSeconds

/-- To any search a range of creation times adds this demand on the second at which a medium was
created, and no other one. -/
def Demands (r : TimeRange) (demand : Int → Prop) : Prop :=
  ∀ (q : Query) (f : Filters) (all : Selection Condition),
    compile q { f with created := {} } = .ok all →
      ∃ sel, compile q { f with created := r } = .ok sel ∧
        ∀ row names, sel.holdsFor row names = true ↔
          all.holdsFor row names = true ∧ demand row.createdAt

variable {r : TimeRange} {n : Int}

/-- An instant lies in a range if it is neither before its beginning nor after its end. -/
theorem contains_moment_iff {t : Instant} :
    r.Contains t.moment ↔ (∀ a ∈ r.after, ¬t.Before a) ∧ ∀ b ∈ r.before, ¬b.Before t := by
  simp only [Contains, ← Instant.moment_lt_iff, not_lt]

/-- Compared in whole seconds, the second that a range begins in is taken along. -/
theorem within_seconds_iff :
    ((∀ a ∈ r.after, a.unixSeconds ≤ n) ∧ ∀ b ∈ r.before, n ≤ b.unixSeconds) ↔
      r.Contains (.ofSeconds n) ∨ r.BeginsWithin n := by
  simp only [Contains, BeginsWithin, Instant.ofSeconds_le_moment_iff,
    Instant.moment_le_ofSeconds_iff, ← or_and_right]
  refine and_congr_left' ?_
  cases r.after with
  | none => simp
  | some a =>
    simp only [Option.mem_def, Option.some.injEq, forall_eq', exists_eq_left']
    omega

theorem BeginsWithin.not_contains (h : r.BeginsWithin n) : ¬r.Contains (.ofSeconds n) := by
  obtain ⟨⟨a, ha, hWithin⟩, -⟩ := h
  intro hContains
  exact (Instant.moment_le_ofSeconds_iff.mp (hContains.1 a ha)).2 hWithin

/-- A range begins sharp just if there is no second that it begins within. -/
theorem beginsSharp_iff : r.BeginsSharp ↔ ∀ n, ¬r.BeginsWithin n := by
  simp only [BeginsSharp, BeginsWithin, Instant.ofSeconds_le_moment_iff]
  constructor
  · rintro hSharp _ ⟨⟨a, ha, rfl, hNano⟩, hBefore⟩
    obtain ⟨b, hb, hEnds⟩ := (hSharp a ha).resolve_left hNano
    have hLater := hBefore b hb
    omega
  · intro hNone a ha
    by_contra hNot
    push Not at hNot
    exact hNone a.unixSeconds ⟨⟨a, ha, rfl, hNot.1⟩, hNot.2⟩

end TimeRange

-- ---------------------------------------------------------------------------
-- Searches
-- ---------------------------------------------------------------------------

/-- The clauses of a range of creation times come last. -/
theorem Selection.compile_with_created {q : Query} {f : Filters} {all : Selection Condition}
    (h : compile q { f with created := {} } = .ok all) (r : TimeRange) :
    compile q { f with created := r } = .ok ⟨all.clauses ++ createdClauses r⟩ := by
  obtain ⟨included, optional, excluded, hIncluded, hOptional, hExcluded, rfl⟩ := compile_ok h
  have hClauses : filterClauses { f with created := r } =
      filterClauses { f with created := {} } ++ createdClauses r := by
    simp [filterClauses, createdClauses]
  rw [compile, hIncluded, hOptional, hExcluded, hClauses, List.append_assoc _ _ (createdClauses r)]
  rfl

namespace TimeRange

variable {r : TimeRange}

theorem demands_iff {demand : Int → Prop} :
    r.Demands demand ↔ ∀ n, demand n ↔ r.Contains (.ofSeconds n) ∨ r.BeginsWithin n := by
  have hSelects {q : Query} {f : Filters} {all : Selection Condition}
      (h : compile q { f with created := {} } = .ok all) (row : MediaRow) (names : List String) :
      holdsFor ⟨all.clauses ++ createdClauses r⟩ row names = true ↔
        all.holdsFor row names = true ∧
          (r.Contains (.ofSeconds row.createdAt) ∨ r.BeginsWithin row.createdAt) := by
    rw [holdsFor_eq_all (aligned_of_compile (compile_with_created h r)),
      holdsFor_eq_all (aligned_of_compile h), List.all_append, Bool.and_eq_true,
      all_createdClauses, within_seconds_iff]
  constructor
  · intro hDemands n
    -- without a query and other filters every medium is selected
    have hAll : compile {} { ({} : Filters) with created := {} } = .ok ⟨[]⟩ := rfl
    obtain ⟨sel, hSel, hHolds⟩ := hDemands {} {} ⟨[]⟩ hAll
    obtain rfl := Except.ok.inj ((compile_with_created hAll r).symm.trans hSel)
    obtain ⟨row, rfl⟩ : ∃ row : MediaRow, row.createdAt = n :=
      ⟨Store.newMediaRow 1 { NewMedia.image "a" with createdAt := some n } 0, rfl⟩
    have hEvery : holdsFor ⟨[]⟩ row [] = true := rfl
    have hRow := (hHolds row []).symm.trans (hSelects hAll row [])
    simpa only [hEvery, true_and] using hRow
  · intro hDemand q f all hAll
    refine ⟨_, compile_with_created hAll r, fun row names => ?_⟩
    rw [hSelects hAll, hDemand]

end TimeRange

/-- A range is the closed interval between two instants in the order of the calendar. As a range of
creation times it demands that the second of creation lies in the range, or that the range begins
within this second and does not end before it. So no more than to lie in the range is demanded and
no less just if the range begins with a second or ends before the one that it begins in. -/
theorem creation_times_are_rounded_down (r : TimeRange) :
    (∀ t : Instant, r.Contains t.moment ↔
      (∀ a ∈ r.after, ¬t.Before a) ∧ ∀ b ∈ r.before, ¬b.Before t) ∧
    r.Demands (fun n => r.Contains (.ofSeconds n) ∨ r.BeginsWithin n) ∧
    (r.Demands (fun n => r.Contains (.ofSeconds n)) ↔ r.BeginsSharp) := by
  refine ⟨fun t => TimeRange.contains_moment_iff,
    TimeRange.demands_iff.mpr fun _ => Iff.rfl, ?_⟩
  rw [TimeRange.demands_iff, TimeRange.beginsSharp_iff]
  constructor
  · intro hSame n hWithin
    exact hWithin.not_contains ((hSame n).mpr (.inr hWithin))
  · intro hNone n
    exact (or_iff_left (hNone n)).symm

/-- An instant half a second past the tenth second. -/
def halfPastTen : Instant :=
  ⟨.epoch, 10, 500000000, by decide⟩

/-- An image created at the tenth second is found by a search for what was created half a second
later or still later. -/
theorem creation_time_before_halfPastTen :
    ∃ r : TimeRange,
      TimeRange.codec.readText "\x7b\"after\":\"1970-01-01T00:00:10.5Z\"\x7d" = .ok r ∧
      (∃ sel, compile {} { created := r } = .ok sel ∧
        ∃ row, row.createdAt = 10 ∧ sel.holdsFor row [] = true) ∧
      ¬r.Contains (.ofSeconds 10) := by
  have hRead : TimeRange.codec.readText "\x7b\"after\":\"1970-01-01T00:00:10.5Z\"\x7d" =
      .ok { after := some halfPastTen } :=
    eq_ok_of_toOption (by decide +kernel)
  refine ⟨_, hRead, ⟨_, rfl, Store.newMediaRow 1 { NewMedia.image "a" with createdAt := some 10 } 0,
    rfl, by decide⟩, ?_⟩
  intro hContains
  have hBefore := Instant.moment_le_ofSeconds_iff.mp (hContains.1 halfPastTen rfl)
  exact hBefore.2 (by decide)

end MediaLibrary
