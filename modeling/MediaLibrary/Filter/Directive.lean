import MediaLibrary.Filter.Basic
import MediaLibrary.Text.Integer
import MediaLibrary.Text.Words

/-!
# Filter — directives

Filters are typed as words of the form `key:value`, with or without a slash in
front: `favorite:true`, `minwidth:800`, `rating:s`, `parent:none`,
`after:2024-01-01`. A later directive replaces an earlier one with the same key,
except that ratings and kinds accumulate. A word that is no directive, or has a
value that its key does not accept, changes nothing.

* `Directive.read?` — the directive of a word;
* `Filters.apply` — what a directive changes;
* `Filters.ofText` — the filters of a text.
-/

namespace MediaLibrary

open Calendar Text

/-- An attribute whose range can be given. -/
inductive Measure where
  | width
  | height
  | fileSize
  | viewCount
deriving DecidableEq

/-- What a directive says about the parent. -/
inductive ParentWish where
  | absent
  | any
  | is (id : Int)
deriving DecidableEq

/-- A directive. -/
inductive Directive where
  | favorite (b : Bool)
  | atLeast (m : Measure) (n : Int)
  | atMost (m : Measure) (n : Int)
  | rating (r : Rating)
  | kind (k : MediaKind)
  | children (b : Bool)
  | parent (wish : ParentWish)
  | after (date : Date)
  | before (date : Date)
deriving DecidableEq

namespace Directive

/-- A truth value as it is typed. -/
def readBool? (value : String) : Option Bool :=
  if value == "true" || value == "yes" || value == "1" then some true
  else if value == "false" || value == "no" || value == "0" then some false
  else none

/-- What is typed about the parent. -/
def readParent? (lowered : String) (value : List Char) : Option ParentWish :=
  if lowered == "none" || lowered == "false" then some .absent
  else if lowered == "any" || lowered == "true" then some .any
  else (readInt64? value).map .is

/-- The directive of a key in lower case and a value. -/
def ofParts? (key : String) (value : List Char) : Option Directive :=
  let lowered := String.ofList (value.map Char.toLower)
  match key with
  | "favorite" => (readBool? lowered).map favorite
  | "minwidth" => (readInt64? value).map (atLeast .width)
  | "maxwidth" => (readInt64? value).map (atMost .width)
  | "minheight" => (readInt64? value).map (atLeast .height)
  | "maxheight" => (readInt64? value).map (atMost .height)
  | "minfilesize" => (readInt64? value).map (atLeast .fileSize)
  | "maxfilesize" => (readInt64? value).map (atMost .fileSize)
  | "minviews" => (readInt64? value).map (atLeast .viewCount)
  | "maxviews" => (readInt64? value).map (atMost .viewCount)
  | "rating" => (Rating.ofWord? lowered).map rating
  | "type" => (MediaKind.ofName? lowered).map kind
  | "children" => (readBool? lowered).map children
  | "parent" => (readParent? lowered value).map parent
  | "after" => (Date.read? value).map after
  | "before" => (Date.read? value).map before
  | _ => none

/-- The word without a slash in front. -/
def dropSlash : List Char → List Char
  | '/' :: word => word
  | word => word

/-- The key in lower case and the value of a word with a colon. -/
def split? (word : List Char) : Option (String × List Char) :=
  let key := word.takeWhile (· != ':')
  match word.drop key.length with
  | [] => none
  | _ :: value => some (String.ofList (key.map Char.toLower), value)

/-- The directive of a word, if it is one. -/
def read? (word : List Char) : Option Directive :=
  (split? (dropSlash word)).bind fun (key, value) => ofParts? key value

end Directive

namespace Filters

/-- The range of an attribute, changed. -/
def modifyRange (f : Filters) (m : Measure) (change : IntRange → IntRange) : Filters :=
  match m with
  | .width => { f with width := change f.width }
  | .height => { f with height := change f.height }
  | .fileSize => { f with fileSize := change f.fileSize }
  | .viewCount => { f with viewCount := change f.viewCount }

/-- The list with one more element, unless it is there. -/
def addOnce {α : Type} [BEq α] (as : List α) (a : α) : List α :=
  if as.contains a then as else as ++ [a]

/-- The filters after a directive. A day given as a bound belongs to the range as a whole. -/
def apply (f : Filters) : Directive → Filters
  | .favorite b => { f with isFavorite := some b }
  | .atLeast m n => f.modifyRange m fun range => { range with min := some n }
  | .atMost m n => f.modifyRange m fun range => { range with max := some n }
  | .rating r => { f with ratings := addOnce f.ratings r }
  | .kind k => { f with kinds := addOnce f.kinds k }
  | .children b => { f with hasChildren := some b }
  | .parent .absent => { f with hasParent := some false, parentId := none }
  | .parent .any => { f with hasParent := some true, parentId := none }
  | .parent (.is id) => { f with hasParent := some true, parentId := some id }
  | .after date => { f with created := { f.created with after := some (.startOfDay date) } }
  | .before date => { f with created := { f.created with before := some (.endOfDay date) } }

/-- The filters that the words of a text ask for. -/
def ofText (s : String) : Filters :=
  ((words s).filterMap Directive.read?).foldl apply {}

end Filters

end MediaLibrary
