import MediaLibrary.Json.Node
import MediaLibrary.Text.Bytes
import MediaLibrary.Text.Integer

/-!
# Json — reading a text

`readText` reads a text as a node. Every reader returns the characters after what
it has read, or none when a fault stopped it.

* `scanString` — the pieces of a string literal, and `joinPieces` their text;
* `scanNumeral` — a numeral;
* `readValue` — a value at the beginning of a text;
* `Document` — a text read to its end.
-/

namespace MediaLibrary.Json

/-- A blank between the tokens of JSON. -/
def isGap (c : Char) : Bool :=
  c == ' ' || c == '\n' || c == '\t' || c == '\r'

/-- The text from its next token on. -/
def skipGaps (cs : List Char) : List Char :=
  cs.dropWhile isGap

-- ---------------------------------------------------------------------------
-- Strings
-- ---------------------------------------------------------------------------

/-- A piece of a string literal: a character, or a 16-bit unit written as `\u` and four digits. -/
inductive Piece where
  | char (c : Char)
  | unit (n : Nat)

/-- The character that an escape letter stands for. -/
def unescapeLetter? (letter : Char) : Option Char :=
  if letter == '"' then some '"'
  else if letter == '\\' then some '\\'
  else if letter == '/' then some '/'
  else if letter == 'b' then some '\x08'
  else if letter == 'f' then some '\x0c'
  else if letter == 'n' then some '\n'
  else if letter == 'r' then some '\r'
  else if letter == 't' then some '\t'
  else none

/-- One more piece in front of what was scanned. -/
def withPiece (p : Piece) (scanned : List Piece × Except Fault (List Char)) :
    List Piece × Except Fault (List Char) :=
  (p :: scanned.1, scanned.2)

/-- The pieces of a string literal after its first quote, and the text after its last one. The
four digits of a unit are looked for in the next four bytes. -/
def scanString : List Char → List Piece × Except Fault (List Char)
  | [] => ([], .error .truncated)
  | c :: cs =>
    if c == '"' then ([], .ok cs)
    else if c == '\\' then
      match cs with
      | [] => ([], .error .truncated)
      | letter :: cs =>
        if letter == 'u' then
          match cs with
          | a :: b :: c :: d :: rest =>
            match Text.hexValue? [a, b, c, d] with
            | some n => withPiece (.unit n) (scanString rest)
            | none => ([], .error .malformed)
          | short => ([], .error (if Text.byteSize short < 4 then .truncated else .malformed))
        else
          match unescapeLetter? letter with
          | some d => withPiece (.char d) (scanString cs)
          | none => ([], .error .malformed)
    else if c < ' ' then ([], .error .malformed)
    else withPiece (.char c) (scanString cs)

/-- The first unit of a surrogate pair. -/
def isLeading (n : Nat) : Bool :=
  0xd800 ≤ n && n ≤ 0xdbff

/-- The second unit of a surrogate pair. -/
def isTrailing (n : Nat) : Bool :=
  0xdc00 ≤ n && n ≤ 0xdfff

/-- The characters of the pieces, where `broken` is what stopped the scan after them. Units of a
surrogate pair must meet. -/
def joinPieces (broken : Option Fault) : List Piece → Except Fault (List Char)
  | [] =>
    match broken with
    | none => .ok []
    | some fault => .error fault
  | .char c :: ps => (joinPieces broken ps).map (c :: ·)
  | .unit n :: ps =>
    if isTrailing n then .error .malformed
    else if isLeading n then
      match ps with
      | .unit m :: ps =>
        if isTrailing m then
          (joinPieces broken ps).map
            (Char.ofNat (0x10000 + (n - 0xd800) * 0x400 + (m - 0xdc00)) :: ·)
        else .error .malformed
      | .char _ :: _ => .error .malformed
      | [] => .error (broken.getD .malformed)
    else (joinPieces broken ps).map (Char.ofNat n :: ·)

/-- The text of the pieces of a whole literal. -/
def literalText (pieces : List Piece) : Except Fault String :=
  (joinPieces none pieces).map String.ofList

/-- The fault of reading a literal that breaks off with `fault`. -/
def literalFault (pieces : List Piece) (fault : Fault) : Fault :=
  match joinPieces (some fault) pieces with
  | .error first => first
  | .ok _ => fault

-- ---------------------------------------------------------------------------
-- Numbers and words
-- ---------------------------------------------------------------------------

/-- A fault of a numeral that may end with the text: those who read it miss the rest, those who
pass it over find no digit. -/
def numeralFault (cs : List Char) : Node :=
  .broken false (if cs.isEmpty then .truncated else .malformed) .malformed

/-- The digits that a text begins with, and the text after them. -/
def scanDigits (cs : List Char) : List Char × List Char :=
  (cs.takeWhile Char.isDigit, cs.dropWhile Char.isDigit)

/-- The exponent of a numeral, if it has one. -/
def scanExponent (cs : List Char) : Except Node (Option (Bool × List Char) × List Char) :=
  match cs with
  | e :: cs =>
    if e == 'e' || e == 'E' then
      let (negative, cs) :=
        match cs with
        | '+' :: cs => (false, cs)
        | '-' :: cs => (true, cs)
        | cs => (false, cs)
      let (digits, rest) := scanDigits cs
      if digits.isEmpty then .error (numeralFault cs) else .ok (some (negative, digits), rest)
    else .ok (none, e :: cs)
  | [] => .ok (none, [])

/-- The fraction of a numeral, if it has one. -/
def scanFraction (cs : List Char) : Except Node (List Char × List Char) :=
  match cs with
  | '.' :: cs =>
    let (digits, rest) := scanDigits cs
    if digits.isEmpty then .error (numeralFault cs) else .ok (digits, rest)
  | cs => .ok ([], cs)

/-- The whole part of a numeral: a zero alone or digits that do not begin with one. -/
def scanWhole (cs : List Char) : Except Node (List Char × List Char) :=
  let (digits, rest) := scanDigits cs
  match digits with
  | [] => .error (numeralFault cs)
  | '0' :: _ :: _ => .error (.broken false .malformed .malformed)
  | digits => .ok (digits, rest)

/-- A numeral at the beginning of a text. -/
def scanNumeral (cs : List Char) : Except Node (Numeral × List Char) := do
  let (negative, cs) :=
    match cs with
    | '-' :: cs => (true, cs)
    | cs => (false, cs)
  let (whole, cs) ← scanWhole cs
  let (fraction, cs) ← scanFraction cs
  let (exponent, cs) ← scanExponent cs
  return (⟨negative, whole, fraction, exponent⟩, cs)

/-- The rest of a word that names a value. -/
def scanWord (value : Node) : List Char → List Char → Node × Option (List Char)
  | [], cs => (value, some cs)
  | _ :: _, [] => (.broken false .truncated .truncated, none)
  | w :: word, c :: cs =>
    if w == c then scanWord value word cs else (.broken false .malformed .malformed, none)

-- ---------------------------------------------------------------------------
-- Values
-- ---------------------------------------------------------------------------

/-- A node for what stands where no value can begin. -/
def noValue : Node :=
  .broken false .malformed .malformed

/-- A string after its first quote. -/
def readString (cs : List Char) : Node × Option (List Char) :=
  match scanString cs with
  | (pieces, .ok rest) => (.string (literalText pieces), some rest)
  | (pieces, .error fault) => (.broken true (literalFault pieces fault) fault, none)

/-- A number. -/
def readNumber (cs : List Char) : Node × Option (List Char) :=
  match scanNumeral cs with
  | .ok (numeral, rest) => (.number numeral, some rest)
  | .error node => (node, none)

/-- A value that is neither an array nor an object. -/
def readScalar (cs : List Char) : Node × Option (List Char) :=
  match cs with
  | [] => (.absent, none)
  | c :: rest =>
    if c == '"' then readString rest
    else if c == '-' || c.isDigit then readNumber cs
    else if c == 'n' then scanWord .null ['u', 'l', 'l'] rest
    else if c == 't' then scanWord (.bool true) ['r', 'u', 'e'] rest
    else if c == 'f' then scanWord (.bool false) ['a', 'l', 's', 'e'] rest
    else (noValue, none)

/-- The fault of taking what stands in the place of a key for a string. -/
def keyFault (cs : List Char) : Fault :=
  match readScalar cs with
  | (.broken _ read _, _) => if cs.head? == some '[' || cs.head? == some '\x7b' then .mismatched else read
  | (.number numeral, _) =>
    match numeral.quantity with
    | .tooLarge => .malformed
    | _ => .mismatched
  | (.absent, _) => .truncated
  | _ => .mismatched

mutual

/-- A value at the beginning of a text. The fuel is spent on arrays, objects and their parts. -/
def readValue : Nat → List Char → Node × Option (List Char)
  | 0, _ => (.absent, none)
  | fuel + 1, cs =>
    match skipGaps cs with
    | '[' :: rest =>
      match skipGaps rest with
      | [] => (.array [] .ended, none)
      | ']' :: rest => (.array [] .closed, some rest)
      | rest =>
        let (items, close, rest) := readItems fuel rest
        (.array items close, rest)
    | '\x7b' :: rest =>
      match skipGaps rest with
      | [] => (.object [] .ended, none)
      | '\x7d' :: rest => (.object [] .closed, some rest)
      | '"' :: rest =>
        let (members, close, rest) := readMembers fuel rest
        (.object members close, rest)
      | rest => (.object [] (.notKey (keyFault rest)), none)
    | rest => readScalar rest

/-- One or more items and the end of their array. -/
def readItems : Nat → List Char → List Node × Close × Option (List Char)
  | 0, _ => ([], .ended, none)
  | fuel + 1, cs =>
    match readValue fuel cs with
    | (item, none) => ([item], .ended, none)
    | (item, some rest) =>
      match skipGaps rest with
      | [] => ([item], .ended, none)
      | ']' :: rest => ([item], .closed, some rest)
      | ',' :: rest =>
        match skipGaps rest with
        | [] => ([item], .afterComma .truncated, none)
        | ']' :: _ => ([item], .afterComma .malformed, none)
        | rest =>
          let (items, close, rest) := readItems fuel rest
          (item :: items, close, rest)
      | _ => ([item], .stray, none)

/-- One or more members, the first after the quote of its key, and the end of their object. -/
def readMembers : Nat → List Char → List (Except Fault String × Node) × Close × Option (List Char)
  | 0, _ => ([], .ended, none)
  | fuel + 1, cs =>
    match scanString cs with
    | (pieces, .error fault) => ([], .brokenKey (literalFault pieces fault) fault, none)
    | (pieces, .ok rest) =>
      let key := literalText pieces
      match skipGaps rest with
      | [] => ([(key, .absent)], .ended, none)
      | ':' :: rest =>
        match readValue fuel rest with
        | (value, none) => ([(key, value)], .ended, none)
        | (value, some rest) =>
          match skipGaps rest with
          | [] => ([(key, value)], .ended, none)
          | '\x7d' :: rest => ([(key, value)], .closed, some rest)
          | ',' :: rest =>
            match skipGaps rest with
            | [] => ([(key, value)], .afterComma .truncated, none)
            | '"' :: rest =>
              let (members, close, rest) := readMembers fuel rest
              ((key, value) :: members, close, rest)
            | _ => ([(key, value)], .afterComma .malformed, none)
          | _ => ([(key, value)], .stray, none)
      | _ => ([(key, noValue)], .ended, none)

end

/-- A text read to its end: its value, and whether only blanks follow it. -/
structure Document where
  value : Node
  complete : Bool

/-- Enough fuel for every text of `n` characters: a value spends two for every character. -/
def enoughFuel (n : Nat) : Nat :=
  2 * n + 2

/-- A text read as a value. -/
def readText (s : String) : Document :=
  let cs := s.toList
  match readValue (enoughFuel cs.length) cs with
  | (value, none) => ⟨value, false⟩
  | (value, some rest) => ⟨value, (skipGaps rest).isEmpty⟩

end MediaLibrary.Json
