import MediaLibrary.Calendar.DateText

/-!
# Calendar — instants

An instant is a date, a second of that day and a fraction in nanoseconds, all in
UTC. A fraction of a whole second or more marks a leap second, which belongs to
the last second of its minute.

On the wire an instant is RFC 3339 text: written with `Z` and with no, three, six
or nine digits of fraction, whichever is the first to lose nothing; read with an
offset, with blanks between the parts, and with `t` or a space for the `T`.

* `Instant.unixSeconds` — whole seconds since 1970, rounded down;
* `Instant.text`, `Instant.read?` — the written form and its reader.
-/

namespace MediaLibrary.Calendar

open MediaLibrary.Text

-- ---------------------------------------------------------------------------
-- Clock time
-- ---------------------------------------------------------------------------

/-- The number of seconds of a day. -/
def daySeconds : Nat := 86400

/-- The number of nanoseconds of a second. -/
def secondNanos : Nat := 1000000000

/-- A second of the day and a fraction that exist together: only the last second of a minute
can be followed by a leap second. -/
def IsTime (second nano : Nat) : Prop :=
  second < daySeconds ∧ nano < 2 * secondNanos ∧ (secondNanos ≤ nano → second % 60 = 59)

instance (second nano : Nat) : Decidable (IsTime second nano) := by
  unfold IsTime
  infer_instance

/-- A point in time, in UTC. -/
structure Instant where
  date : Date
  second : Nat
  nano : Nat
  exist : IsTime second nano
deriving DecidableEq

namespace Instant

/-- The instant of a date, a second of the day and a fraction, if there is such a time. -/
def ofParts? (date : Date) (second nano : Nat) : Option Instant :=
  if h : IsTime second nano then some ⟨date, second, nano, h⟩ else none

/-- The first second of a day. -/
def startOfDay (date : Date) : Instant :=
  ⟨date, 0, 0, by decide⟩

/-- The last second of a day. -/
def endOfDay (date : Date) : Instant :=
  ⟨date, 86399, 0, by decide⟩

/-- Whole seconds since the beginning of 1970. A fraction is dropped, so this rounds down on
both sides of 1970, and a leap second counts as the second before it. -/
def unixSeconds (t : Instant) : Int :=
  t.date.dayNumber * daySeconds + t.second

/-- The instant whose clock, `offset` seconds ahead of UTC, shows this date and time. -/
def ofLocal? (date : Date) (second nano : Nat) (offset : Int) : Option Instant := do
  let shifted := (second : Int) - offset
  let day ←
    if shifted < 0 then date.previous?
    else if (daySeconds : Int) ≤ shifted then date.next?
    else some date
  ofParts? day (shifted % daySeconds).toNat nano

-- ---------------------------------------------------------------------------
-- Writing
-- ---------------------------------------------------------------------------

/-- The fraction of a second, with as few of three, six or nine digits as lose nothing. -/
def fractionText (nano : Nat) : List Char :=
  if nano == 0 then []
  else if nano % 1000000 == 0 then '.' :: padded 3 (nano / 1000000)
  else if nano % 1000 == 0 then '.' :: padded 6 (nano / 1000)
  else '.' :: padded 9 nano

/-- The RFC 3339 text of an instant. -/
def text (t : Instant) : List Char :=
  let leap := if secondNanos ≤ t.nano then 1 else 0
  t.date.text ++ 'T' :: padded 2 (t.second / 3600)
    ++ ':' :: padded 2 (t.second / 60 % 60)
    ++ ':' :: padded 2 (t.second % 60 + leap)
    ++ fractionText (t.nano % secondNanos) ++ ['Z']

-- ---------------------------------------------------------------------------
-- Reading
-- ---------------------------------------------------------------------------

/-- The fraction after the seconds; digits beyond the ninth are dropped. -/
def scanFraction : Scan Nat
  | '.' :: cs =>
    let digits := cs.takeWhile Char.isDigit
    let kept := digits.take 9
    (readNat? kept).map fun n => (n * Nat.pow 10 (9 - kept.length), cs.drop digits.length)
  | cs => some (0, cs)

/-- Exactly two digits, the first of them at most `high`. -/
def scanTwoDigits (high : Char) : Scan Nat
  | a :: b :: cs =>
    if a.isDigit && a ≤ high && b.isDigit then some (digitsValue [a, b], cs) else none
  | _ => none

/-- The offset from UTC in seconds: `Z`, `UTC`, or a sign, hours and minutes. -/
def scanOffset : Scan Int := fun cs =>
  match cs with
  | 'Z' :: rest | 'z' :: rest => some (0, rest)
  | _ =>
    if (cs.take 3).map Char.toLower == ['u', 't', 'c'] then some (0, cs.drop 3)
    else do
      let (sign, cs) ←
        match cs with
        | '+' :: rest => some ((1 : Int), rest)
        | '-' :: rest | '−' :: rest => some (-1, rest)
        | _ => none
      let (hours, cs) ← scanTwoDigits '9' cs
      let (minutes, cs) ← scanTwoDigits '5' (cs.dropWhile fun c => c == ':' || isBlank c)
      let seconds := hours * 3600 + minutes * 60
      if seconds < daySeconds then some (sign * seconds, cs) else none

/-- The letter or blank between the date and the time. -/
def scanTimeMark : Scan Unit
  | 'T' :: cs | 't' :: cs | ' ' :: cs => some ((), cs)
  | _ => none

/-- The instant that a text writes; blanks may stand around it and between its parts. -/
def read? (cs : List Char) : Option Instant := do
  let (date, cs) ← scanDate trimStart cs
  let ((), cs) ← scanTimeMark cs
  let (hour, cs) ← scanWithin 2 0 23 cs
  let ((), cs) ← scanMark ':' (trimStart cs)
  let (minute, cs) ← scanWithin 2 0 59 cs
  let ((), cs) ← scanMark ':' (trimStart cs)
  let (second, cs) ← scanWithin 2 0 60 cs
  let (fraction, cs) ← scanFraction cs
  let (offset, cs) ← scanOffset (trimStart cs)
  if (trimStart cs).isEmpty then
    let (second, nano) := if second == 60 then (59, secondNanos + fraction) else (second, fraction)
    ofLocal? date (hour * 3600 + minute * 60 + second) nano offset
  else none

end Instant

end MediaLibrary.Calendar
