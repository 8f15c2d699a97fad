import Mathlib
import MediaLibrary.Proofs.Calendar.Days
import MediaLibrary.Proofs.Filter.Typed
import MediaLibrary.Proofs.Selection.Matching
import MediaLibrary.Proofs.Text.LowerCase

/-!
# Filter — dates as bounds

A date that is typed as a bound means the whole day: the first second of it as a lower bound, the
last one as an upper bound. The bounds of a day and of the next one leave nothing between them and
have nothing in common, so what is created at some second is created on just one day.

* `Calendar.Date.Typed` — a date as it can be typed;
* `Directive.Written`, `Filters.ofText_intercalate` — directives as they can be typed;
* `Calendar.Date.Typed.compile_after`, `Calendar.Date.Typed.compile_before` — the bounds of a date;
* `Calendar.Date.Typed.compile_day` — what was created on a day;
* `date_bounds_cover_days` — days are what the calendar says they are, and every second is in one.
-/

namespace MediaLibrary

open Calendar Selection Text

-- ---------------------------------------------------------------------------
-- Dates
-- ---------------------------------------------------------------------------

/-- The value of a directive that is a date: its reader accepts it, and it is all in one word. -/
structure Calendar.Date.Typed (date : Date) (value : String) : Prop where
  reads : Date.read? value.toList = some date
  noSeparator : ∀ c ∈ value.toList, isSeparator c = false

/-- Every date can be typed: as its text. -/
theorem Calendar.Date.typed_text (date : Date) : date.Typed (String.ofList date.text) where
  reads := by
    rw [String.toList_ofList]
    exact Date.read?_text date
  noSeparator := by
    have hDigits (width n : Nat) : ∀ c ∈ padded width n, isSeparator c = false := fun c hc =>
      Bool.eq_false_iff.mpr fun hSeparator => by
        have hBlank := isBlank_of_isDigit (isDigit_of_mem_padded hc)
        rw [isBlank_of_isSeparator hSeparator] at hBlank
        cases hBlank
    have hYear : ∀ c ∈ yearText date.year, isSeparator c = false := by
      unfold yearText
      split_ifs
      · exact hDigits _ _
      · exact List.forall_mem_cons.mpr ⟨by decide, hDigits _ _⟩
      · exact List.forall_mem_cons.mpr ⟨by decide, hDigits _ _⟩
    have hDash : isSeparator '-' = false := by decide
    rw [String.toList_ofList, Date.text, List.forall_mem_append, List.forall_mem_append,
      List.forall_mem_cons, List.forall_mem_cons]
    exact ⟨⟨hYear, hDash, hDigits _ _⟩, hDash, hDigits _ _⟩

/-- The first of January 1970, with which the time of the system begins. -/
def Calendar.Date.epoch : Date :=
  ⟨1970, 1, 1, by decide⟩

theorem Calendar.Date.dayNumber_epoch : epoch.dayNumber = 0 := by
  decide

/-- The day number counts the days from the epoch. -/
theorem Calendar.Date.epoch_away (date : Date) : epoch.Away date date.dayNumber := by
  rw [away_iff, dayNumber_epoch, Int.sub_zero]

-- ---------------------------------------------------------------------------
-- Directives
-- ---------------------------------------------------------------------------

namespace Directive

/-- A directive as it can be typed. -/
structure Written (text : String) (d : Directive) : Prop where
  reads : read? text.toList = some d
  noSeparator : ∀ c ∈ text.toList, isSeparator c = false

theorem Written.ne_nil {text : String} {d : Directive} (h : Written text d) : text.toList ≠ [] := by
  intro hNil
  have hReads := h.reads
  rw [hNil] at hReads
  cases hReads

/-- A value behind its key is a directive. -/
theorem written_of_typed {d : Directive} {key value : String} (hKey : key = d.key ++ ":")
    (hLower : ∀ c ∈ d.key.toList, c.isLower = true) (hTyped : d.IsTyped value.toList)
    (hValue : ∀ c ∈ value.toList, isSeparator c = false) : Written (key ++ value) d := by
  have hNotIn {c : Char} (hc : c.isLower = false) : c ∉ d.key.toList := fun hMem => by
    rw [hLower c hMem] at hc
    cases hc
  have hSame : d.key.toList.map Char.toLower = d.key.toList := by
    have hEach : ∀ c ∈ d.key.toList, c.toLower = id c := by
      intro c hc
      have hLow : 97 ≤ c.toNat ∧ c.toNat ≤ 122 := by
        simpa [Char.isLower, UInt32.le_iff_toNat_le] using hLower c hc
      exact toLower_of_not_isUpper (not_isUpper_iff.mpr (.inr (by omega)))
    rw [List.map_congr_left hEach, List.map_id]
  have hText : (key ++ value).toList = d.key.toList ++ ':' :: value.toList := by
    rw [hKey]
    simp
  have hGives : Gives (key ++ value).toList d.key value.toList := by
    refine ⟨d.key.toList, hNotIn rfl, by rw [hSame, String.ofList_toList], .inr ⟨?_, hText⟩⟩
    rw [hText]
    cases hChars : d.key.toList with
    | nil => simp
    | cons c rest =>
      rintro ⟨⟩
      exact hNotIn rfl (hChars ▸ List.mem_cons_self ..)
  constructor
  · exact read?_eq_some_iff.mpr ⟨value.toList, hGives, hTyped⟩
  · rw [hText, List.forall_mem_append, List.forall_mem_cons]
    refine ⟨fun c hc => Bool.eq_false_iff.mpr fun hSeparator => ?_, rfl, hValue⟩
    simp only [isSeparator, Bool.or_eq_true, beq_iff_eq] at hSeparator
    rcases hSeparator with ((rfl | rfl) | rfl) | rfl <;> exact hNotIn rfl hc

end Directive

namespace Filters

/-- Directives with spaces between them are done one after the other. -/
theorem ofText_intercalate {texts : List String} {ds : List Directive}
    (h : List.Forall₂ Directive.Written texts ds) :
    ofText (String.intercalate " " texts) = ds.foldl apply {} := by
  have hTexts : (∀ text ∈ texts, text.toList ≠ [] ∧ ∀ c ∈ text.toList, isSeparator c = false) ∧
      (texts.map String.toList).filterMap Directive.read? = ds := by
    induction h with
    | nil => simp
    | cons hWritten _ ih =>
      rw [List.forall_mem_cons, List.map_cons, List.filterMap_cons_some hWritten.reads, ih.2]
      exact ⟨⟨⟨hWritten.ne_nil, hWritten.noSeparator⟩, ih.1⟩, rfl⟩
  rw [ofText, words_intercalate hTexts.1, hTexts.2]

end Filters

-- ---------------------------------------------------------------------------
-- Bounds
-- ---------------------------------------------------------------------------

namespace Selection

/-- What was created at some second or later. -/
def createdFrom (t : Int) : Selection Condition :=
  ⟨[clause "created_after" (.compared .createdAt .atLeast) [.int t]]⟩

/-- What was created at some second or earlier. -/
def createdUntil (t : Int) : Selection Condition :=
  ⟨[clause "created_before" (.compared .createdAt .atMost) [.int t]]⟩

/-- Filters of the time of creation compile to its clauses. -/
theorem compile_created (range : TimeRange) :
    compile {} { created := range } = .ok ⟨createdClauses range⟩ := rfl

end Selection

namespace Calendar

/-- The first second of a day. -/
theorem Instant.unixSeconds_startOfDay (date : Date) :
    (startOfDay date).unixSeconds = 86400 * date.dayNumber := by
  simp [unixSeconds, startOfDay, daySeconds, Int.mul_comm]

/-- The last second of a day. -/
theorem Instant.unixSeconds_endOfDay (date : Date) :
    (endOfDay date).unixSeconds = 86400 * date.dayNumber + 86399 := by
  simp [unixSeconds, endOfDay, daySeconds, Int.mul_comm]

namespace Date.Typed

variable {date : Date} {value : String}

/-- A day that is typed with its key is a directive. -/
theorem written_after (h : date.Typed value) :
    Directive.Written ("after:" ++ value) (.after date) := by
  have hLower : ∀ c ∈ "after".toList, c.isLower = true := List.all_eq_true.mp (by decide)
  have hTyped : date.IsTyped value.toList := Date.read?_eq_some_iff.mp h.reads
  exact Directive.written_of_typed rfl hLower hTyped h.noSeparator

theorem written_before (h : date.Typed value) :
    Directive.Written ("before:" ++ value) (.before date) := by
  have hLower : ∀ c ∈ "before".toList, c.isLower = true := List.all_eq_true.mp (by decide)
  have hTyped : date.IsTyped value.toList := Date.read?_eq_some_iff.mp h.reads
  exact Directive.written_of_typed rfl hLower hTyped h.noSeparator

/-- The first day begins at its midnight. -/
theorem compile_after (h : date.Typed value) :
    compile {} (.ofText ("after:" ++ value)) = .ok (createdFrom (86400 * date.dayNumber)) := by
  have hText : Filters.ofText ("after:" ++ value) = _ :=
    Filters.ofText_intercalate (.cons h.written_after .nil)
  rw [hText, createdFrom, ← Instant.unixSeconds_startOfDay]
  rfl

/-- The last day ends a second before the next. -/
theorem compile_before (h : date.Typed value) :
    compile {} (.ofText ("before:" ++ value)) =
      .ok (createdUntil (86400 * date.dayNumber + 86399)) := by
  have hText : Filters.ofText ("before:" ++ value) = _ :=
    Filters.ofText_intercalate (.cons h.written_before .nil)
  rw [hText, createdUntil, ← Instant.unixSeconds_endOfDay]
  rfl

/-- Both bounds of a day select what was created at a second of it. -/
theorem compile_day (h : date.Typed value) :
    ∃ sel, compile {} (.ofText ("after:" ++ value ++ " before:" ++ value)) = .ok sel ∧
      ∀ row names, sel.holdsFor row names = true ↔
        86400 * date.dayNumber ≤ row.createdAt ∧
          row.createdAt ≤ 86400 * date.dayNumber + 86399 := by
  have hText : Filters.ofText ("after:" ++ value ++ " before:" ++ value) =
      { created := ⟨some (.startOfDay date), some (.endOfDay date)⟩ } := by
    have hWritten := Filters.ofText_intercalate
      (.cons h.written_after (.cons h.written_before .nil))
    have hSame : "after:" ++ value ++ " before:" ++ value =
        String.intercalate " " ["after:" ++ value, "before:" ++ value] := by
      apply String.toList_injective
      simp
    rw [hSame, hWritten]
    rfl
  refine ⟨_, by rw [hText]; exact compile_created _, fun row names => ?_⟩
  rw [holdsFor_eq_all (aligned_of_compile (compile_created _)), all_createdClauses]
  simp [Instant.unixSeconds_startOfDay, Instant.unixSeconds_endOfDay]

end Date.Typed

end Calendar

/-- A date that is typed as a lower bound is the first second of its day, and as an upper bound the
last one, where days are counted from the first of January 1970 as the calendar goes on: so the
bound of the next day comes right behind. Every date there is can be typed. And where a second lies
between the bounds of two dates, then for just one date both its bounds admit what was created at
that second, however the date is typed. -/
theorem date_bounds_cover_days :
    (∀ (date : Date) value, date.Typed value →
      ∃ n, Date.epoch.Away date n ∧
        compile {} (.ofText ("after:" ++ value)) = .ok (createdFrom (86400 * n)) ∧
        compile {} (.ofText ("before:" ++ value)) = .ok (createdUntil (86400 * n + 86399)) ∧
        ∀ next value', date.Follows next → next.Typed value' →
          compile {} (.ofText ("after:" ++ value')) = .ok (createdFrom (86400 * n + 86399 + 1))) ∧
      (∀ date : Date, ∃ value, date.Typed value) ∧
      ∀ first last m n t, Date.epoch.Away first m → Date.epoch.Away last n →
        86400 * m ≤ t → t ≤ 86400 * n + 86399 →
        ∃ date, ∀ (date' : Date) value, date'.Typed value →
          ∃ sel, compile {} (.ofText ("after:" ++ value ++ " before:" ++ value)) = .ok sel ∧
            ∀ row names, row.createdAt = t → (sel.holdsFor row names = true ↔ date' = date) := by
  refine ⟨?_, fun date => ⟨_, date.typed_text⟩, ?_⟩
  · intro date value hTyped
    refine ⟨date.dayNumber, date.epoch_away, hTyped.compile_after, hTyped.compile_before, ?_⟩
    intro next value' hFollows hTyped'
    have hNext : 86400 * next.dayNumber = 86400 * date.dayNumber + 86399 + 1 := by
      rw [Date.dayNumber_follows hFollows]
      omega
    rw [← hNext]
    exact hTyped'.compile_after
  · intro first last m n t hFirst hLast hLow hHigh
    rw [Date.away_iff, Date.dayNumber_epoch, Int.sub_zero] at hFirst hLast
    obtain ⟨date, hDate⟩ := Date.exists_dayNumber (a := first) (b := last) (n := t / 86400)
      (by omega) (by omega)
    refine ⟨date, fun date' value hTyped => ?_⟩
    obtain ⟨sel, hCompile, hHolds⟩ := hTyped.compile_day
    refine ⟨sel, hCompile, fun row names hTime => ?_⟩
    rw [hHolds, hTime, ← Date.dayNumber_inj]
    omega

/-- A leap day, the day after it, and the last day of the year before the year zero. -/
theorem date_bounds_of_leapDay :
    compile {} (.ofText "after:2024-2-29") = .ok (createdFrom 1709164800) ∧
      compile {} (.ofText "before:2024-2-29") = .ok (createdUntil 1709251199) ∧
      compile {} (.ofText "after:2024-03-01") = .ok (createdFrom 1709251200) ∧
      compile {} (.ofText "before:-1-12-31") = .ok (createdUntil (-62167219201)) := by
  obtain ⟨hBounds, -, -⟩ := date_bounds_cover_days
  let leapDay : Date := ⟨2024, 2, 29, by decide⟩
  let march : Date := ⟨2024, 3, 1, by decide⟩
  let lastDay : Date := ⟨-1, 12, 31, by decide⟩
  have hWord (value : String) (h : value.toList.all (!isSeparator ·) = true) :
      ∀ c ∈ value.toList, isSeparator c = false := by
    simpa using h
  have hLeapDay : leapDay.Typed "2024-2-29" := ⟨by decide, hWord _ (by decide)⟩
  have hMarch : march.Typed "2024-03-01" := ⟨by decide, hWord _ (by decide)⟩
  have hLastDay : lastDay.Typed "-1-12-31" := ⟨by decide, hWord _ (by decide)⟩
  have hFollows : leapDay.Follows march := .month rfl rfl rfl rfl
  obtain ⟨n, hAway, hAfter, hBefore, hNext⟩ := hBounds _ _ hLeapDay
  have hFirst : 86400 * n = 1709164800 := by
    rw [← Date.away_iff.mp hAway]
    decide
  obtain ⟨m, hAway, -, hLast, -⟩ := hBounds _ _ hLastDay
  have hEarly : 86400 * m = -62167305600 := by
    rw [← Date.away_iff.mp hAway]
    decide
  rw [hFirst] at hAfter hBefore hNext
  rw [hEarly] at hLast
  have hDayAfter := hNext _ _ hFollows hMarch
  exact ⟨hAfter, hBefore, hDayAfter, hLast⟩

end MediaLibrary
