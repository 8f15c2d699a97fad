import MediaLibrary.Selection.Value
import MediaLibrary.Store.Basic

/-!
# Selection — conditions

A selection is a conjunction of conditions on the row of a medium. A condition
never holds a value itself: it has places for parameters, written `?`, which are
bound from left to right over the whole selection. So the text of a selection
depends only on its shape.

A condition can be looked at in two ways: as SQL text (`Condition.sql`) and as a
truth value for a row and its parameters (`Condition.holds`).

* `Condition.places` — how many parameters a condition takes;
* `Selection.holdsFor` — whether a selection selects a row, binding parameters
  from left to right.
-/

namespace MediaLibrary.Selection

-- ---------------------------------------------------------------------------
-- Columns
-- ---------------------------------------------------------------------------

/-- A column that conditions refer to. -/
inductive Column where
  | id
  | rating
  | kind
  | width
  | height
  | fileSize
  | viewCount
  | isFavorite
  | parentId
  | hasChildren
  | createdAt
deriving DecidableEq

/-- The text of a column. -/
def Column.sql : Column → String
  | id => "m.id"
  | rating => "m.rating"
  | kind => "m.media_type"
  | width => "m.width"
  | height => "m.height"
  | fileSize => "m.file_size"
  | viewCount => "m.view_count"
  | isFavorite => "m.is_favorite"
  | parentId => "m.parent_id"
  | hasChildren => "m.has_children"
  | createdAt => "m.created_at"

/-- The value of a row in a column. -/
def Column.value (row : MediaRow) : Column → Datum
  | id => .int row.id
  | rating => .text row.rating
  | kind => .text row.kind
  | width => .ofOption row.width
  | height => .ofOption row.height
  | fileSize => .int row.fileSize
  | viewCount => .int row.viewCount
  | isFavorite => .ofBool row.isFavorite
  | parentId => .ofOption row.parentId
  | hasChildren => .ofBool row.hasChildren
  | createdAt => .int row.createdAt

-- ---------------------------------------------------------------------------
-- Conditions
-- ---------------------------------------------------------------------------

/-- A condition on the row of a medium. -/
inductive Condition where
  /-- The medium carries the tag with a name. -/
  | carries
  /-- The medium carries a tag with one of `n` names. -/
  | carriesAny (n : Nat)
  /-- The medium carries no tag with one of `n` names. -/
  | carriesNone (n : Nat)
  /-- A column has one of `n` values. -/
  | oneOf (column : Column) (n : Nat)
  /-- A column compares with a value. -/
  | compared (column : Column) (op : Comparison)
  | isNull (column : Column)
  | isNotNull (column : Column)
deriving DecidableEq

namespace Condition

/-- How many parameters a condition takes. -/
def places : Condition → Nat
  | carries => 1
  | carriesAny n | carriesNone n | oneOf _ n => n
  | compared _ _ => 1
  | isNull _ | isNotNull _ => 0

/-- The places of a list of `n` parameters. -/
def placesText (n : Nat) : String :=
  String.intercalate ", " (List.replicate n "?")

/-- The tags of the medium of the row. -/
def membership : String :=
  "SELECT 1 FROM media_tags mt JOIN tags t ON t.id = mt.tag_id WHERE mt.media_id = m.id"

/-- The text of a condition. -/
def sql : Condition → String
  | carries => "EXISTS (" ++ membership ++ " AND t.name = ?)"
  | carriesAny n => "EXISTS (" ++ membership ++ " AND t.name IN (" ++ placesText n ++ "))"
  | carriesNone n => "NOT EXISTS (" ++ membership ++ " AND t.name IN (" ++ placesText n ++ "))"
  | oneOf column n => column.sql ++ " IN (" ++ placesText n ++ ")"
  | compared column op => column.sql ++ " " ++ op.operator ++ " ?"
  | isNull column => column.sql ++ " IS NULL"
  | isNotNull column => column.sql ++ " IS NOT NULL"

/-- A name is the one of a parameter, as the store compares names. -/
def isNamed (name : String) : Param → Bool
  | .text s => Text.sameName name s
  | .int _ => false

/-- A medium with these names carries a tag named by one of the parameters. -/
def anyNamed (names : List String) (params : List Param) : Bool :=
  names.any fun name => params.any (isNamed name)

/-- The truth value of a condition for a row, the names of its tags, and the parameters of the
condition. -/
def holds (row : MediaRow) (names : List String) (params : List Param) : Condition → Truth
  | carries | carriesAny _ => some (anyNamed names params)
  | carriesNone _ => some (!anyNamed names params)
  | oneOf column _ => Truth.any (params.map (Comparison.equal.holds (column.value row)))
  | compared column op => Truth.all (params.map (op.holds (column.value row)))
  | isNull column => some (column.value row == .null)
  | isNotNull column => some (column.value row != .null)

end Condition

-- ---------------------------------------------------------------------------
-- Selections
-- ---------------------------------------------------------------------------

/-- A condition with its parameters, and the facet of the search it comes from. -/
structure Clause (κ : Type) where
  facet : Option String
  condition : κ
  params : List Param

end Selection

/-- A conjunction of conditions of some kind. -/
structure Selection (κ : Type) where
  clauses : List (Selection.Clause κ) := []

namespace Selection

variable {κ : Type}

/-- The conditions, in order. -/
def conditions (s : Selection κ) : List κ :=
  s.clauses.map (·.condition)

/-- The parameters of all conditions, in order. -/
def params (s : Selection κ) : List Param :=
  s.clauses.flatMap (·.params)

/-- The facets of the search, in order. -/
def facets (s : Selection κ) : List String :=
  s.clauses.filterMap (·.facet)

/-- The selection with one more condition of one parameter. -/
def bounded (s : Selection κ) (condition : κ) (param : Param) : Selection κ :=
  ⟨s.clauses ++ [⟨none, condition, [param]⟩]⟩

/-- The selection with its conditions as text. -/
def written (s : Selection Condition) : Selection String :=
  ⟨s.clauses.map fun c => ⟨c.facet, c.condition.sql, c.params⟩⟩

/-- The text that restricts a query to the selection; without conditions it is empty. -/
def whereText (s : Selection String) : String :=
  if s.conditions.isEmpty then "" else " WHERE " ++ String.intercalate " AND " s.conditions

/-- The truth values of conditions for a row and the names of its tags. Each condition takes its
parameters from the front of those left. -/
def truths (row : MediaRow) (names : List String) : List Condition → List Param → List Truth
  | [], _ => []
  | c :: cs, params =>
    c.holds row names (params.take c.places) :: truths row names cs (params.drop c.places)

/-- The selection selects the row of a medium whose tags have these names. -/
def holdsFor (s : Selection Condition) (row : MediaRow) (names : List String) : Bool :=
  (Truth.all (truths row names s.conditions s.params)).selects

/-- The rows of a store that the selection selects, by id. -/
def rows (sel : Selection Condition) (s : Store) : List MediaRow :=
  s.media.filter fun row => sel.holdsFor row ((s.tagsOf row.id).map (·.name))

end Selection

end MediaLibrary
