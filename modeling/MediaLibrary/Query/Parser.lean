import MediaLibrary.Query.Basic
import MediaLibrary.Text.Words

/-!
# Query — reading a query

A query is read word by word. A word that begins with a mark is an excluded or an
optional tag. The word `or` says that the next word without a mark is optional
instead of included; marked words in between neither use nor cancel it, and at
the end of the text it says nothing. The first error in the text is reported.

* `readTerm` — a word as a term;
* `Grouping.add` — a term put into its group;
* `Query.parse` — the query of a text.
-/

namespace MediaLibrary.Query

open MediaLibrary.Tag MediaLibrary.Text

/-- A term of a query. -/
inductive Term where
  | plain (name : String)
  | marked (m : Mark) (name : String)
deriving DecidableEq

/-- The first character at or after `position` that no tag name holds. -/
def firstInvalid? (position : Nat) : List Char → Option ParseError
  | [] => none
  | c :: cs =>
    if isTagChar c then firstInvalid? (position + 1) cs
    else some (.invalidCharacter c position)

/-- A name at `position`, in a term that begins at `start`. -/
def readName (start position : Nat) (name : List Char) : Except ParseError String :=
  if name.isEmpty then .error (.emptyTag start)
  else
    match firstInvalid? position name with
    | some e => .error e
    | none => .ok (String.ofList name)

/-- A word as a term. -/
def readTerm (word : Nat × List Char) : Except ParseError Term :=
  let (start, cs) := word
  match cs with
  | '-' :: name => (readName start (start + 1) name).map (.marked .exclude)
  | '~' :: name => (readName start (start + 1) name).map (.marked .optional)
  | name => (readName start start name).map .plain

/-- The word that makes the next plain term optional. -/
def orWord : String := "or"

/-- A query under construction, and whether the next plain term is optional. -/
structure Grouping where
  query : Query := {}
  nextOptional : Bool := false

/-- The groups with one more term. -/
def Grouping.add (g : Grouping) : Term → Grouping
  | .marked .exclude name =>
    { g with query := { g.query with excluded := g.query.excluded ++ [name] } }
  | .marked .optional name =>
    { g with query := { g.query with optional := g.query.optional ++ [name] } }
  | .plain name =>
    if name == orWord then { g with nextOptional := true }
    else if g.nextOptional then
      ⟨{ g.query with optional := g.query.optional ++ [name] }, false⟩
    else { g with query := { g.query with included := g.query.included ++ [name] } }

/-- The query of a text, or its first error. -/
def parse (s : String) : Except ParseError Query := do
  let terms ← (wordsAt 0 s.toList).mapM readTerm
  return (terms.foldl Grouping.add {}).query

end MediaLibrary.Query
