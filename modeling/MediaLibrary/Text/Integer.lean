/-!
# Text — integers

Integers as they are written in directives and stored in columns: digits `0` to
`9`, an optional sign, and a value of at most 64 bits. Escapes write a code point
in hexadecimal digits.
-/

namespace MediaLibrary.Text

/-- The least value of a signed 64-bit integer. -/
def int64Min : Int := -9223372036854775808

/-- The greatest value of a signed 64-bit integer. -/
def int64Max : Int := 9223372036854775807

/-- The greatest value of an unsigned 64-bit integer. -/
def nat64Max : Nat := 18446744073709551615

/-- The value fits a signed 64-bit integer. -/
def fitsInt64 (n : Int) : Bool :=
  int64Min ≤ n && n ≤ int64Max

/-- The value that a run of digits writes. -/
def digitsValue (cs : List Char) : Nat :=
  cs.foldl (fun n c => 10 * n + (c.toNat - '0'.toNat)) 0

/-- The value of a text of one or more digits. -/
def readNat? (cs : List Char) : Option Nat :=
  if !cs.isEmpty && cs.all Char.isDigit then some (digitsValue cs) else none

/-- The value of a hexadecimal digit. -/
def hexDigit? (c : Char) : Option Nat :=
  if c.isDigit then some (c.toNat - '0'.toNat)
  else if 'a' ≤ c && c ≤ 'f' then some (c.toNat - 'a'.toNat + 10)
  else if 'A' ≤ c && c ≤ 'F' then some (c.toNat - 'A'.toNat + 10)
  else none

/-- The value of hexadecimal digits. -/
def hexValue? (cs : List Char) : Option Nat :=
  cs.foldlM (fun n c => (hexDigit? c).map (16 * n + ·)) 0

/-- The value of digits after at most one plus sign, if it has at most 64 bits. -/
def readNat64? (cs : List Char) : Option Nat :=
  let value :=
    match cs with
    | '+' :: digits => readNat? digits
    | digits => readNat? digits
  value.filter (· ≤ nat64Max)

/-- The value of digits after at most one sign, if it has at most 64 bits. -/
def readInt64? (cs : List Char) : Option Int :=
  let value : Option Int :=
    match cs with
    | '-' :: digits => (readNat? digits).map fun n => -(n : Int)
    | '+' :: digits => (readNat? digits).map fun n => (n : Int)
    | digits => (readNat? digits).map fun n => (n : Int)
  value.filter fitsInt64

/-- The decimal digits of `n`, with zeros in front up to `width` digits. -/
def padded (width n : Nat) : List Char :=
  let digits := Nat.toDigits 10 n
  List.replicate (width - digits.length) '0' ++ digits

end MediaLibrary.Text
