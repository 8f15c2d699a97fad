import MediaLibrary.Filter.Basic
import MediaLibrary.Query.Basic
import MediaLibrary.Selection.Condition

/-!
# Selection — from a query and filters to conditions

Every included tag has a condition of its own, the optional tags share one and so
do the excluded tags; then every filter that is present adds its condition. Names
are trimmed, put in lower case and named once, in the order of their first
mention. A name of blanks cannot come out of a query that was read from a text,
so finding one is a defect.

* `normalNames` — the names of a group;
* `Selection.compile` — the selection of a query and filters.
-/

namespace MediaLibrary.Selection

-- ---------------------------------------------------------------------------
-- Names
-- ---------------------------------------------------------------------------

/-- A name as it is looked up: without blanks around it and in lower case. -/
def normalName (name : String) : String :=
  Text.fold (Text.trim name)

/-- The names of a group as they are looked up, each once. -/
def normalNames (group : TagGroup) (names : List String) : Except Error (List String) :=
  names.foldlM
    (fun known name =>
      let name := normalName name
      if name.isEmpty then throw (Error.defect (.blankName group))
      else if known.contains name then return known
      else return known ++ [name])
    []

-- ---------------------------------------------------------------------------
-- Clauses
-- ---------------------------------------------------------------------------

/-- A clause of a search. -/
def clause (facet : String) (condition : Condition) (params : List Param) : Clause Condition :=
  ⟨some facet, condition, params⟩

/-- A clause whose condition takes any number of texts, if there are any. -/
def textsClause (facet : String) (condition : Nat → Condition) (texts : List String) :
    List (Clause Condition) :=
  if texts.isEmpty then [] else [clause facet (condition texts.length) (texts.map .text)]

/-- The clauses of the ends of a range. -/
def rangeClauses (facet : String) (column : Column) (range : IntRange) : List (Clause Condition) :=
  (range.min.map fun n => clause facet (.compared column .atLeast) [.int n]).toList
    ++ (range.max.map fun n => clause facet (.compared column .atMost) [.int n]).toList

/-- The clause of a flag. -/
def flagClauses (facet : String) (column : Column) (flag : Option Bool) : List (Clause Condition) :=
  (flag.map fun b => clause facet (.compared column .equal) [.int (if b then 1 else 0)]).toList

/-- The clause of having a parent. -/
def parentClauses : Option Bool → List (Clause Condition)
  | none => []
  | some true => [clause "has_parent" (.isNotNull .parentId) []]
  | some false => [clause "has_parent" (.isNull .parentId) []]

/-- The clauses of the time of creation, which is compared in whole seconds. -/
def createdClauses (range : TimeRange) : List (Clause Condition) :=
  (range.after.map fun t =>
      clause "created_after" (.compared .createdAt .atLeast) [.int t.unixSeconds]).toList
    ++ (range.before.map fun t =>
      clause "created_before" (.compared .createdAt .atMost) [.int t.unixSeconds]).toList

/-- The clauses of the filters. -/
def filterClauses (f : Filters) : List (Clause Condition) :=
  textsClause "rating" (.oneOf .rating) (f.ratings.map Rating.name)
    ++ textsClause "media_type" (.oneOf .kind) (f.kinds.map MediaKind.name)
    ++ rangeClauses "width" .width f.width
    ++ rangeClauses "height" .height f.height
    ++ rangeClauses "file_size" .fileSize f.fileSize
    ++ rangeClauses "view_count" .viewCount f.viewCount
    ++ flagClauses "favorite" .isFavorite f.isFavorite
    ++ parentClauses f.hasParent
    ++ (f.parentId.map fun id => clause "parent_id" (.compared .parentId .equal) [.int id]).toList
    ++ flagClauses "has_children" .hasChildren f.hasChildren
    ++ createdClauses f.created

/-- The selection of the media that match a query and filters. -/
def compile (q : Query) (f : Filters) : Except Error (Selection Condition) := do
  let included ← normalNames .included q.included
  let optional ← normalNames .optional q.optional
  let excluded ← normalNames .excluded q.excluded
  return ⟨included.map (fun name => clause "include" .carries [.text name])
    ++ textsClause "optional" .carriesAny optional
    ++ textsClause "exclude" .carriesNone excluded
    ++ filterClauses f⟩

end MediaLibrary.Selection
