import MediaLibrary.Text.Blank
import MediaLibrary.Text.Integer

/-!
# Calendar — scanning the parts of a date

Readers of dates and times take a text apart from its beginning: each step
returns what it read together with the rest, or nothing when the text does not
go on as it should.
-/

namespace MediaLibrary.Calendar

open MediaLibrary.Text

/-- A step of a reader: the value read and the characters after it. -/
abbrev Scan (α : Type) := List Char → Option (α × List Char)

/-- The digits a text begins with, at most `width` of them. -/
def leadingDigits (width : Nat) (cs : List Char) : List Char :=
  (cs.take width).takeWhile Char.isDigit

/-- A number of one to `width` digits, blanks in front of it passed over. -/
def scanNumber (width : Nat) : Scan Nat := fun cs =>
  let cs := trimStart cs
  let digits := leadingDigits width cs
  (readNat? digits).map fun n => (n, cs.drop digits.length)

/-- A number of `width` digits at most that lies between `low` and `high`. -/
def scanWithin (width low high : Nat) : Scan Nat := fun cs =>
  (scanNumber width cs).filter fun (n, _) => low ≤ n && n ≤ high

/-- The digits after a sign: as many as there are, without a blank in front. -/
def scanSigned (sign : Int) (cs : List Char) : Option (Int × List Char) :=
  let digits := cs.takeWhile Char.isDigit
  (readNat? digits).map fun n => (sign * n, cs.drop digits.length)

/-- A year: up to four digits, or a sign and any number of digits. -/
def scanYear : Scan Int := fun cs =>
  match trimStart cs with
  | '-' :: rest => scanSigned (-1) rest
  | '+' :: rest => scanSigned 1 rest
  | cs => (scanNumber 4 cs).map fun (n, rest) => ((n : Int), rest)

/-- One given character. -/
def scanMark (mark : Char) : Scan Unit
  | [] => none
  | c :: rest => if c == mark then some ((), rest) else none

end MediaLibrary.Calendar
