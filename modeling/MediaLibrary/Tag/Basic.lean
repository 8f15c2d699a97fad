/-!
# Tag — categories and tags

A tag has a name, a category and the number of media that carry it. Stored rows
keep the category as a number, which may be one that stands for no category; so a
row and a tag share one shape, `TagRecord`, and `TagRow.decode` (in `Store.Row`)
turns the first into the second.
-/

namespace MediaLibrary

/-- The category of a tag. -/
inductive TagCategory where
  | general
  | metadata
  | artist
deriving DecidableEq, Repr, Inhabited

namespace TagCategory

/-- The number that stands for a category in the store. -/
def code : TagCategory → Int
  | general => 0
  | metadata => 1
  | artist => 2

/-- The category that a number stands for. -/
def ofCode? : Int → Option TagCategory
  | 0 => some general
  | 1 => some metadata
  | 2 => some artist
  | _ => none

/-- The name of a category. -/
def name : TagCategory → String
  | general => "general"
  | metadata => "metadata"
  | artist => "artist"

/-- The category that a word in front of a colon asks for. -/
def ofWord? : List Char → Option TagCategory
  | ['g', 'e', 'n', 'e', 'r', 'a', 'l'] | ['g'] => some general
  | ['m', 'e', 't', 'a', 'd', 'a', 't', 'a'] | ['m', 'e', 't', 'a'] | ['m'] => some metadata
  | ['a', 'r', 't', 'i', 's', 't'] | ['a'] => some artist
  | _ => none

@[simp] theorem ofCode?_code (c : TagCategory) : ofCode? c.code = some c := by
  cases c <;> rfl

@[simp] theorem ofWord?_name (c : TagCategory) : ofWord? c.name.toList = some c := by
  cases c <;> rfl

end TagCategory

/-- A tag, or the row of one, by what it holds as its category. -/
structure TagRecord (Category : Type) where
  id : Int
  name : String
  category : Category
  usageCount : Int
  createdAt : Int
deriving DecidableEq

/-- A tag of the library. -/
abbrev Tag := TagRecord TagCategory

/-- A tag to be created or attached. -/
structure NewTag where
  name : String
  category : TagCategory := .general
deriving DecidableEq, Repr

end MediaLibrary
