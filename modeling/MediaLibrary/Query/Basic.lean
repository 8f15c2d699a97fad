import MediaLibrary.Tag.Name
import MediaLibrary.Text.Quoted

/-!
# Query — tag queries

A query asks for media by their tags, in three groups: all of the included tags,
at least one of the optional tags if there are any, none of the excluded tags.
Names are kept as they were typed.

* `Query.text` — the canonical text of a query;
* `ParseError` — why a text is no query.
-/

namespace MediaLibrary

/-- The tags a query asks for. -/
structure Query where
  included : List String := []
  optional : List String := []
  excluded : List String := []
deriving DecidableEq, Repr

namespace Query

/-- The query asks for nothing, so every medium matches it. -/
def isEmpty (q : Query) : Bool :=
  q.included.isEmpty && q.optional.isEmpty && q.excluded.isEmpty

/-- The terms of the canonical text: optional and excluded tags carry their marks. -/
def terms (q : Query) : List String :=
  q.included
    ++ q.optional.map (fun name => Tag.Mark.optional.char.toString ++ name)
    ++ q.excluded.map (fun name => Tag.Mark.exclude.char.toString ++ name)

/-- The canonical text of a query: its terms with a space between them. -/
def text (q : Query) : String :=
  String.intercalate " " q.terms

end Query

/-- Why a text is no query, and the place in it, counted in characters. -/
inductive ParseError where
  /-- A character that no tag name holds. -/
  | invalidCharacter (character : Char) (position : Nat)
  /-- A mark without a name after it. -/
  | emptyTag (position : Nat)
deriving DecidableEq, Repr

namespace ParseError

/-- The place of the error. -/
def position : ParseError → Nat
  | invalidCharacter _ position => position
  | emptyTag position => position

/-- The text of the error. -/
def message : ParseError → String
  | invalidCharacter character position =>
    "非法字符 " ++ Text.quoted character ++ "（位置 " ++ toString position ++ "）"
  | emptyTag position => "运算符后缺少标签（位置 " ++ toString position ++ "）"

end ParseError

end MediaLibrary
