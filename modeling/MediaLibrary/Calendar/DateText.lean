import MediaLibrary.Calendar.Date
import MediaLibrary.Calendar.Scan

/-!
# Calendar — the text of a date

A date is written `2024-06-01`: year, month and day with dashes between them. A
year outside `0` to `9999` carries a sign. The reader is more generous: month and
day may have one digit, a year may be signed or short, and blanks may stand in
front of a number. `Date.read?` wants the whole text to be a date, `scanDate` reads
one from the beginning of a text.

* `Date.text` — the text of a date;
* `Date.read?` — the date of a text.
-/

namespace MediaLibrary.Calendar

open MediaLibrary.Text

/-- A date at the beginning of a text, where `gap` is passed over in front of the dashes. -/
def scanDate (gap : List Char → List Char) : Scan Date := fun cs => do
  let (year, cs) ← scanYear cs
  let ((), cs) ← scanMark '-' (gap cs)
  let (month, cs) ← scanWithin 2 1 12 cs
  let ((), cs) ← scanMark '-' (gap cs)
  let (day, cs) ← scanWithin 2 1 31 cs
  let date ← Date.ofParts? year month day
  some (date, cs)

/-- The text of a year: four digits, or a sign and at least four digits. -/
def yearText (year : Int) : List Char :=
  if 0 ≤ year && year ≤ 9999 then padded 4 year.toNat
  else (if year < 0 then '-' else '+') :: padded 4 year.natAbs

namespace Date

/-- The text of a date. -/
def text (d : Date) : List Char :=
  yearText d.year ++ '-' :: padded 2 d.month ++ '-' :: padded 2 d.day

/-- The date that a text writes, and nothing besides it. -/
def read? (cs : List Char) : Option Date :=
  match scanDate id cs with
  | some (date, []) => some date
  | _ => none

end Date

end MediaLibrary.Calendar
