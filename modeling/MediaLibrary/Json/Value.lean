import MediaLibrary.Decimal.Shortest

/-!
# Json — values and their text

A JSON value as the library writes it: numbers are whole or binary, and an object
keeps its members in the order given. `compact` writes a value without blanks,
`pretty` on lines of its own with two blanks per level.

* `Json.compact`, `Json.pretty` — the two written forms.
-/

namespace MediaLibrary

/-- A JSON value to be written. -/
inductive Json where
  | null
  | bool (b : Bool)
  | int (n : Int)
  | real (x : Float)
  | text (s : String)
  | array (items : List Json)
  | object (members : List (String × Json))

namespace Json

/-- A value that may be absent, which is then `null`. -/
def ofOption {α : Type} (f : α → Json) : Option α → Json
  | none => null
  | some a => f a

/-- A list of values. -/
def ofList {α : Type} (f : α → Json) (as : List α) : Json :=
  array (as.map f)

-- ---------------------------------------------------------------------------
-- Scalars
-- ---------------------------------------------------------------------------

/-- The letter that escapes a character after a backslash, if it has one. -/
def escapeLetter? (c : Char) : Option Char :=
  if c == '"' then some '"'
  else if c == '\\' then some '\\'
  else if c == '\x08' then some 'b'
  else if c == '\x0c' then some 'f'
  else if c == '\n' then some 'n'
  else if c == '\r' then some 'r'
  else if c == '\t' then some 't'
  else none

/-- A character inside a string: the quote, the backslash and the controls are escaped, and
nothing else is. -/
def escape (c : Char) : List Char :=
  match escapeLetter? c with
  | some letter => ['\\', letter]
  | none =>
    if c < ' ' then
      ['\\', 'u', '0', '0', Nat.digitChar (c.toNat / 16), Nat.digitChar (c.toNat % 16)]
    else [c]

/-- A string between its quotes. -/
def stringText (s : String) : List Char :=
  '"' :: s.toList.flatMap escape ++ ['"']

/-- A number; one that JSON cannot write is `null`. -/
def numberText (x : Float) : List Char :=
  if x.isFinite then Decimal.realText x else "null".toList

-- ---------------------------------------------------------------------------
-- Values
-- ---------------------------------------------------------------------------

mutual

/-- The text of a value without blanks. -/
def compactChars : Json → List Char
  | null => "null".toList
  | bool true => "true".toList
  | bool false => "false".toList
  | int n => (toString n).toList
  | real x => numberText x
  | text s => stringText s
  | array items => '[' :: compactItems items
  | object members => '\x7b' :: compactMembers members

/-- The items of an array up to and with the bracket that closes it. -/
def compactItems : List Json → List Char
  | [] => [']']
  | [item] => compactChars item ++ [']']
  | item :: items => compactChars item ++ ',' :: compactItems items

/-- The members of an object up to and with the brace that closes it. -/
def compactMembers : List (String × Json) → List Char
  | [] => ['\x7d']
  | [(key, value)] => stringText key ++ ':' :: compactChars value ++ ['\x7d']
  | (key, value) :: members =>
    stringText key ++ ':' :: compactChars value ++ ',' :: compactMembers members

end

/-- A new line at a level. -/
def newLine (level : Nat) : List Char :=
  '\n' :: List.replicate (2 * level) ' '

mutual

/-- The text of a value on lines of its own, at a level. -/
def prettyChars (level : Nat) : Json → List Char
  | array [] => ['[', ']']
  | array (item :: items) =>
    '[' :: newLine (level + 1) ++ prettyChars (level + 1) item ++ prettyItems level items
  | object [] => ['\x7b', '\x7d']
  | object ((key, value) :: members) =>
    '\x7b' :: newLine (level + 1) ++ stringText key ++ ':' :: ' ' :: prettyChars (level + 1) value
      ++ prettyMembers level members
  | null => "null".toList
  | bool true => "true".toList
  | bool false => "false".toList
  | int n => (toString n).toList
  | real x => numberText x
  | text s => stringText s

/-- The items after the first, and the bracket that closes their array. -/
def prettyItems (level : Nat) : List Json → List Char
  | [] => newLine level ++ [']']
  | item :: items =>
    ',' :: newLine (level + 1) ++ prettyChars (level + 1) item ++ prettyItems level items

/-- The members after the first, and the brace that closes their object. -/
def prettyMembers (level : Nat) : List (String × Json) → List Char
  | [] => newLine level ++ ['\x7d']
  | (key, value) :: members =>
    ',' :: newLine (level + 1) ++ stringText key ++ ':' :: ' ' :: prettyChars (level + 1) value
      ++ prettyMembers level members

end

/-- The text of a value without blanks. -/
def compact (j : Json) : String :=
  String.ofList j.compactChars

/-- The text of a value on lines of its own. -/
def pretty (j : Json) : String :=
  String.ofList (j.prettyChars 0)

end Json

end MediaLibrary
