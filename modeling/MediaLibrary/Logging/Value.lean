import MediaLibrary.Decimal.Plain
import MediaLibrary.Logging.Pattern

/-!
# Logging — values of fields

The value that a field has to have. Its text is the first of these that it can
be: a truth value, a natural number, an integer, a binary number, a pattern.

* `LogValue.read?` — the value of a text;
* `LogValue.text` — its text, in which numbers have a normal form;
* `LogValue.compare` — the order of values.
-/

namespace MediaLibrary

/-- A value that a field has to have. -/
inductive LogValue where
  | truth (b : Bool)
  | real (x : Decimal.Binary)
  | natural (n : Nat)
  | integer (n : Int)
  | pattern (text : String)
deriving DecidableEq

namespace LogValue

/-- The truth value of a text. -/
def readTruth? (cs : List Char) : Option Bool :=
  if cs == "true".toList then some true
  else if cs == "false".toList then some false
  else none

/-- The pattern of a text. -/
def readPattern? (cs : List Char) : Option String :=
  if LogPattern.isReadable cs then some (String.ofList cs) else none

/-- The value of a text. -/
def read? (cs : List Char) : Option LogValue :=
  (readTruth? cs).map .truth
    <|> (Text.readNat64? cs).map .natural
    <|> (Text.readInt64? cs).map .integer
    <|> (Decimal.Binary.read? cs).map .real
    <|> (readPattern? cs).map .pattern

/-- The text of a value. -/
def text : LogValue → String
  | truth b => toString b
  | real x => x.text
  | natural n => toString n
  | integer n => toString n
  | pattern text => text

/-- The place of a kind of values among all kinds. -/
def rank : LogValue → Nat
  | truth _ => 0
  | real _ => 1
  | natural _ => 2
  | integer _ => 3
  | pattern _ => 4

/-- The order of values: by kind, then by what they are. Both zeros of the binary numbers are
the same value in it. -/
def compare : LogValue → LogValue → Ordering
  | truth a, truth b => Ord.compare a b
  | real a, real b => Ord.compare a.order b.order
  | natural a, natural b => Ord.compare a b
  | integer a, integer b => Ord.compare a b
  | pattern a, pattern b => Ord.compare a b
  | a, b => Ord.compare a.rank b.rank

end LogValue

end MediaLibrary
