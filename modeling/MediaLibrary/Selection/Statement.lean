import MediaLibrary.Selection.Condition
import MediaLibrary.Text.Bytes

/-!
# Selection — statements

The store is asked about a selection in statements, which have its conditions in the middle
of their text. It reads a statement from left to right, and knows two limits: how many places
for parameters there are, and how deep expressions nest. A conjunction is built from the left,
so with each further condition it gets one level deeper. Reading ends at the first place or
condition beyond a limit, before any table is looked for. What was read is then followed
into the queries within, where the levels of all that encloses them count as well.

* `Condition.levels`, `Condition.innerLevels` — how deep conditions nest;
* `Statement.read`, `Statement.prepare` — whether the store takes a statement.
-/

namespace MediaLibrary.Selection

-- ---------------------------------------------------------------------------
-- Levels
-- ---------------------------------------------------------------------------

/-- The levels of the expression of a condition. A column that is named with its table takes two,
and a comparison lies above it. A query for a tag compares twice, so that it takes four, and lies
below the condition that there is one; a condition that there is none lies above that. -/
def Condition.levels : Condition → Nat
  | carries | carriesAny _ => 5
  | carriesNone _ => 6
  | oneOf _ _ | compared _ _ | isNull _ | isNotNull _ => 3

/-- The levels of the query within a condition: its two comparisons, and the one that joins its
tables. -/
def Condition.innerLevels : Condition → Nat
  | carries | carriesAny _ | carriesNone _ => 5
  | oneOf _ _ | compared _ _ | isNull _ | isNotNull _ => 0

/-- The levels of the deepest query within conditions. -/
def innerLevels (cs : List Condition) : Nat :=
  (cs.map Condition.innerLevels).foldr max 0

/-- The last word of a condition is a place. -/
def Condition.endsWithPlace : Condition → Bool
  | compared _ _ => true
  | _ => false

/-- The levels of a conjunction with one more condition. One without conditions has none. -/
def conjoined (levels : Nat) (c : Condition) : Nat :=
  if levels = 0 then c.levels else max levels c.levels + 1

-- ---------------------------------------------------------------------------
-- Statements
-- ---------------------------------------------------------------------------

/-- A statement about the rows of a selection. -/
structure Statement where
  /-- The text in front of the conditions. -/
  opening : String
  selection : Selection Condition
  /-- The text behind the conditions. -/
  closing : String := ""
  /-- How many parameters the text behind the conditions takes. -/
  closingPlaces : Nat := 0
  /-- The conditions belong to a query within the statement. -/
  isNested : Bool := false

namespace Statement

/-- How many places a statement may have. -/
def maxPlaces : Nat := 32766

/-- How many levels the expressions of a statement may have. -/
def maxLevels : Nat := 1000

/-- The text of a statement. -/
def text (st : Statement) : String :=
  st.opening ++ whereText st.selection.written ++ st.closing

/-- The offset in bytes of the first place that is one too many. -/
def surplusOffset (st : Statement) : Nat :=
  let places := (Text.withPlaces 0 st.text.toList).filter (·.1 == '?')
  match places[maxPlaces]? with
  | some place => place.2
  | none => Text.byteSize st.text.toList

/-- The fault of a statement with too many places. -/
def tooManyPlaces (st : Statement) : Error :=
  .storage (.tooManyPlaces st.text st.surplusOffset)

/-- The fault of a statement with too many levels. -/
def tooManyLevels : Error :=
  .storage .tooManyLevels

/-- Reads conditions behind so many places, in a conjunction of so many levels, and returns how many
there are afterwards. The places of a condition are met before it is joined to the others; but the
last word of a comparison is its place, so both are met at once, and of two faults the second is
told. -/
def readConditions (st : Statement) (places levels : Nat) :
    List Condition → Except Error (Nat × Nat)
  | [] => .ok (places, levels)
  | c :: cs =>
    let isDeep := decide (maxLevels < conjoined levels c)
    if maxPlaces < places + c.places && !(isDeep && c.endsWithPlace) then .error st.tooManyPlaces
    else if isDeep then .error tooManyLevels
    else readConditions st (places + c.places) (conjoined levels c) cs

/-- Reads a statement, and returns how many levels its conjunction has. -/
def read (st : Statement) : Except Error Nat :=
  match readConditions st 0 0 st.selection.conditions with
  | .error e => .error e
  | .ok (places, levels) =>
    if maxPlaces < places + st.closingPlaces then .error st.tooManyPlaces else .ok levels

/-- The levels of a statement whose conjunction has so many: those of the expressions that lie one
within the other. A query within the statement is part of an expression, and is followed once more
by itself. -/
def allLevels (st : Statement) (levels : Nat) : Nat :=
  let inner := innerLevels st.selection.conditions
  if st.isNested then (levels + 1) + levels + inner else levels + inner

/-- The store takes a statement. -/
def prepare (st : Statement) : Except Error Unit := do
  if maxLevels < st.allLevels (← st.read) then throw tooManyLevels

end Statement

end MediaLibrary.Selection
