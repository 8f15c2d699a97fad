import MediaLibrary.Decimal.Nearest
import MediaLibrary.Decimal.Shortest
import MediaLibrary.Text.Fold
import MediaLibrary.Text.Integer

/-!
# Decimal — plain decimals

A decimal as it is typed: digits with or without a point, before or after it, an
exponent or none; or a word for infinity or for what is no number. It is written
back plainly, with the shortest digits and never with an exponent.

* `Binary.read?` — the number of a text;
* `Binary.text` — the text of a number;
* `Binary.order` — the numbers in ascending order.
-/

namespace MediaLibrary.Decimal

/-- A binary number: its sign and the bits of its size. Above infinity is what is no number. -/
structure Binary where
  negative : Bool
  size : Nat
deriving DecidableEq

/-- What follows a sign, and whether it is a minus. -/
def readSign : List Char → Bool × List Char
  | '-' :: cs => (true, cs)
  | '+' :: cs => (false, cs)
  | cs => (false, cs)

/-- The value of an exponent with its letter; nothing stands for zero. -/
def readExponent? : List Char → Option Int
  | [] => some 0
  | c :: cs =>
    let (negative, digits) := readSign cs
    if c == 'e' || c == 'E' then
      (Text.readNat? digits).map fun n => if negative then -(n : Int) else n
    else none

/-- The size of the number that digits, a point and an exponent write. -/
def readSize? (cs : List Char) : Option Nat :=
  let whole := cs.takeWhile Char.isDigit
  let rest := cs.dropWhile Char.isDigit
  let (places, rest) :=
    match rest with
    | '.' :: cs => (cs.takeWhile Char.isDigit, cs.dropWhile Char.isDigit)
    | cs => ([], cs)
  if whole.isEmpty && places.isEmpty then none
  else
    (readExponent? rest).map fun exponent =>
      nearest (Text.digitsValue (whole ++ places)) (exponent - places.length)

/-- The size that a word stands for. -/
def readWord? (cs : List Char) : Option Nat :=
  let word := String.ofList cs
  if Text.sameFolded word "inf" || Text.sameFolded word "infinity" then some infinityBits
  else if Text.sameFolded word "nan" then some (infinityBits + 1)
  else none

namespace Binary

/-- The number of a text. -/
def read? (cs : List Char) : Option Binary :=
  let (negative, cs) := readSign cs
  (readSize? cs <|> readWord? cs).map fun size => ⟨negative, size⟩

/-- The text of a number. Zero keeps its sign, and what is no number has none. -/
def text (x : Binary) : String :=
  let sign := if x.negative then "-" else ""
  if infinityBits < x.size then "NaN"
  else if x.size == infinityBits then sign ++ "inf"
  else if x.size == 0 then sign ++ "0"
  else
    let (n, k) := shortest x.size
    sign ++ String.ofList (plain (Nat.toDigits 10 n) k)

/-- The place of a number in ascending order: both zeros have the same one, and what is no
number comes last. -/
def order (x : Binary) : Int :=
  if infinityBits < x.size then infinityBits + 1
  else if x.negative then -x.size
  else x.size

end Binary

end MediaLibrary.Decimal
