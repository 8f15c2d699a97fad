import MediaLibrary.Text.Collation

/-!
# Text — patterns

A pattern is a text in which two characters stand for others: `%` for any run of
characters and `_` for any one character. A `\` takes this from the character behind
it, and a pattern that ends with a `\` of its own stands for no text. Every other
character stands for itself, in either case if it is one of `A` to `Z`. Neither of a
pattern nor of a text more is read than what stands before its first NUL.

* `Pattern.parts?` — what the characters of a pattern stand for;
* `Pattern.accepts` — the texts that a pattern stands for;
* `Pattern.beginning` — the pattern of the texts that begin with another one;
* `Pattern.isTested` — the names that such a pattern has to be held against.
-/

namespace MediaLibrary.Text.Pattern

/-- What stands at a place of a pattern. -/
inductive Part where
  /-- The character itself, in either case. -/
  | char (c : Char)
  | anyChar
  | anyRun
deriving DecidableEq

/-- The part that a character without a `\` in front of it is. -/
def partOf (c : Char) : Part :=
  if c == '%' then .anyRun else if c == '_' then .anyChar else .char c

/-- The parts of a pattern. -/
def parts? : List Char → Option (List Part)
  | [] => some []
  | ['\\'] => none
  | '\\' :: c :: rest => (parts? rest).map (.char c :: ·)
  | c :: rest => (parts? rest).map (partOf c :: ·)

/-- Some end of the characters passes a test. -/
def anyEnd (test : List Char → Bool) : List Char → Bool
  | [] => test []
  | c :: cs => test (c :: cs) || anyEnd test cs

/-- The characters are what the parts stand for, one after the other. -/
def fits : List Part → List Char → Bool
  | [], cs => cs.isEmpty
  | .char _ :: _, [] => false
  | .char d :: parts, c :: cs => c.toLower == d.toLower && fits parts cs
  | .anyChar :: _, [] => false
  | .anyChar :: parts, _ :: cs => fits parts cs
  | .anyRun :: parts, cs => anyEnd (fits parts) cs

/-- A pattern stands for a text. -/
def accepts (pattern text : String) : Bool :=
  match parts? (readable pattern.toList) with
  | some parts => fits parts (readable text.toList)
  | none => false

/-- How many bytes a pattern may have. A longer one is refused as soon as it is held against a
text. -/
def maxSize : Nat := 50000

-- ---------------------------------------------------------------------------
-- Texts as patterns
-- ---------------------------------------------------------------------------

/-- A character that stands for itself only behind a `\`. -/
def isSpecial (c : Char) : Bool :=
  c == '%' || c == '_' || c == '\\'

/-- The characters with a `\` in front of each special one. -/
def escape (cs : List Char) : List Char :=
  cs.flatMap fun c => if isSpecial c then ['\\', c] else [c]

/-- The pattern of the texts that begin with this one. -/
def beginning (start : String) : String :=
  String.ofList (escape start.toList ++ ['%'])

-- ---------------------------------------------------------------------------
-- Names that are tested
-- ---------------------------------------------------------------------------

/-- The characters of a name lie where the store looks for names that begin with others. It looks in
the order of names, from these characters on up to those with the last one replaced by the next.
Behind `@` this is `A`, which counts as `a`, and so whatever comes before the letters is met. -/
def isNear : List Char → List Char → Bool
  | [], _ => true
  | _ :: _, [] => false
  | ['@'], c :: _ => decide ('@' ≤ c.toLower) && decide (c.toLower < 'a')
  | d :: ds, c :: cs => c.toLower == d.toLower && isNear ds cs

/-- A name has to be held against the pattern of the texts that begin with this one. The store looks
the readable characters of the pattern up, and if the pattern says no more than that names begin
with them, each name that it finds is right. That is not so where a NUL cuts the pattern off, or
where it looks too far because of `@`; and without characters to look up, all names are tested. -/
def isTested (start name : String) : Bool :=
  let plain := readable start.toList
  plain.isEmpty || ((start.toList.contains '\x00' || plain.getLast? == some '@')
    && isNear plain (readable name.toList))

end MediaLibrary.Text.Pattern
