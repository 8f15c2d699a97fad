import MediaLibrary.Error
import MediaLibrary.Tag.Basic
import MediaLibrary.Tag.Name
import MediaLibrary.Text.LowerCase
import MediaLibrary.Text.Words

/-!
# Tag — tag input

Whoever tags a medium types names separated by blanks, each with a category in
front of a colon if it has one: `blue_sky artist:someone meta:highres`. The input
is taken in lower case; a word before the first colon that is no category belongs
to the name; a category without a name is passed over; a name given again keeps
its first category. One name that is not allowed spoils the whole input.

* `checkName` — the names that are allowed;
* `readInput` — the tags of an input.
-/

namespace MediaLibrary.Tag

open MediaLibrary.Text

/-- A character that no name may begin or end with. -/
def isEdgeMark (c : Char) : Bool :=
  c == '-' || c == '~' || c == ':' || c == '*'

/-- Accepts a name that is not empty, consists of characters of names and neither begins nor ends
with a mark. -/
def checkName (name : String) : Except InputFault Unit :=
  match name.toList with
  | [] => .error .emptyTagName
  | first :: rest =>
    match (first :: rest).find? fun c => !isTagChar c with
    | some c => .error (.invalidTagChar name c)
    | none =>
      let last := (first :: rest).getLast (by simp)
      if isEdgeMark first then .error (.tagNameBegin name first)
      else if isEdgeMark last then .error (.tagNameEnd name last)
      else .ok ()

/-- The category and the name of a word. -/
def splitCategory (word : List Char) : TagCategory × List Char :=
  let front := word.takeWhile (· != ':')
  match word.drop front.length with
  | [] => (.general, word)
  | _ :: name =>
    match TagCategory.ofWord? front with
    | some category => (category, name)
    | none => (.general, word)

/-- The tags with the tag of one more word, unless it has no name or a name that is there. -/
def addWord (tags : List NewTag) (word : List Char) : Except InputFault (List NewTag) := do
  let (category, name) := splitCategory word
  if name.isEmpty then return tags
  let name := String.ofList name
  checkName name
  if tags.any (·.name == name) then return tags
  return tags ++ [⟨name, category⟩]

/-- The tags that an input asks for. -/
def readInput (input : String) : Except InputFault (List NewTag) :=
  (words (lowerCase input)).foldlM addWord []

end MediaLibrary.Tag
