import MediaLibrary.Decimal.Scaled
import MediaLibrary.Text.Integer

/-!
# Json — what a text was read as

Reading a JSON text gives a `Node` in every case. Where the text stops being JSON
the node stops too, and what is wrong is kept in that place. So whoever takes a
node apart in reading order meets the first fault of the text exactly when it is
reached, and a value of the wrong shape in front of it counts first.

* `Fault` — why a value cannot be had;
* `Node` — a value as far as it could be read;
* `Numeral.quantity` — the number that a numeral writes.
-/

namespace MediaLibrary.Json

-- ---------------------------------------------------------------------------
-- Faults
-- ---------------------------------------------------------------------------

/-- Why a value cannot be had from a text. -/
inductive Fault where
  /-- The text is not JSON. -/
  | malformed
  /-- The text ends too early. -/
  | truncated
  /-- The value is JSON of another shape. -/
  | mismatched
deriving DecidableEq

-- ---------------------------------------------------------------------------
-- Numbers
-- ---------------------------------------------------------------------------

/-- A number as it is written: its sign and its digits. The fraction is empty without a point,
the exponent has a sign of its own. -/
structure Numeral where
  negative : Bool
  whole : List Char
  fraction : List Char
  exponent : Option (Bool × List Char)

/-- The number that a numeral writes. -/
inductive Quantity where
  | whole (n : Int)
  | real (x : Float)
  | tooLarge

/-- Digits taken over as long as the number they make has at most 64 bits, the number, and the
digits left. -/
def gatherDigits (n : Nat) : List Char → Nat × List Char
  | [] => (n, [])
  | c :: cs =>
    let next := 10 * n + (c.toNat - '0'.toNat)
    if next ≤ Text.nat64Max then gatherDigits next cs else (n, c :: cs)

/-- Exponents beyond this one are out of reach whatever the digits. -/
def maxExponent : Int := 2147483647

/-- The number that a numeral with a point, an exponent or too many digits writes. -/
def Numeral.real (numeral : Numeral) : Quantity :=
  let (whole, left) := gatherDigits 0 numeral.whole
  let (digits, unused) := gatherDigits whole numeral.fraction
  let shift : Int := left.length - (numeral.fraction.length - unused.length : Nat)
  let exponent : Int :=
    match numeral.exponent with
    | none => 0
    | some (negative, ds) => if negative then -(Text.digitsValue ds : Int) else Text.digitsValue ds
  let size : Option Float :=
    if maxExponent < exponent then (if digits == 0 then some 0.0 else none)
    else if exponent < -maxExponent then some 0.0
    else Decimal.scaled? digits (shift + exponent)
  match size with
  | none => .tooLarge
  | some x => .real (if numeral.negative then -x else x)

/-- The number that a numeral writes: whole if it is written as a whole number and has at most 64
bits. A negative zero is not whole. -/
def Numeral.quantity (numeral : Numeral) : Quantity :=
  let n := Text.digitsValue numeral.whole
  if numeral.fraction.isEmpty && numeral.exponent.isNone then
    if numeral.negative then
      if 0 < n && -(n : Int) ≥ Text.int64Min then .whole (-(n : Int)) else numeral.real
    else if n ≤ Text.nat64Max then .whole n else numeral.real
  else numeral.real

-- ---------------------------------------------------------------------------
-- Nodes
-- ---------------------------------------------------------------------------

/-- How the items of an array or the members of an object come to an end. -/
inductive Close where
  /-- With their bracket or brace. -/
  | closed
  /-- With the end of the text, before a comma. -/
  | ended
  /-- With a character that neither continues nor closes. -/
  | stray
  /-- With a comma and then nothing that could follow it. -/
  | afterComma (fault : Fault)
  /-- With a key that is no string; the fault is the one of taking it for a string. -/
  | notKey (asText : Fault)
  /-- With a key that is a broken string, for those who read it and those who pass it over. -/
  | brokenKey (read skipped : Fault)
deriving DecidableEq

/-- A value as far as it could be read. -/
inductive Node where
  /-- The text ends where the value should begin. -/
  | absent
  /-- No value begins here, or it breaks off: the faults for those who read it and for those
  who pass it over, and whether it is a string. -/
  | broken (inString : Bool) (read skipped : Fault)
  | null
  | bool (b : Bool)
  | number (numeral : Numeral)
  /-- A string; one with half a surrogate pair can be passed over, but not read. -/
  | string (s : Except Fault String)
  | array (items : List Node) (close : Close)
  | object (members : List (Except Fault String × Node)) (close : Close)

end MediaLibrary.Json
