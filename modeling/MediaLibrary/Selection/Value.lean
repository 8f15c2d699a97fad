/-!
# Selection — values and truth

Conditions on rows compare stored values with bound parameters. A stored value may
be `NULL`, and a comparison with `NULL` is neither true nor false; a row is
selected only by a condition that is true.

* `Truth` — the three truth values, with conjunction and negation;
* `Datum` — a stored value;
* `Param` — a bound parameter.
-/

namespace MediaLibrary.Selection

-- ---------------------------------------------------------------------------
-- Truth
-- ---------------------------------------------------------------------------

/-- True, false, or unknown (`none`). -/
abbrev Truth := Option Bool

/-- The conjunction of two truth values: false wins over unknown. -/
def Truth.and : Truth → Truth → Truth
  | some false, _ => some false
  | _, some false => some false
  | some true, some true => some true
  | _, _ => none

/-- The conjunction of a list of truth values. -/
def Truth.all (ts : List Truth) : Truth :=
  ts.foldr Truth.and (some true)

/-- The disjunction of two truth values: true wins over unknown. -/
def Truth.or : Truth → Truth → Truth
  | some true, _ => some true
  | _, some true => some true
  | some false, some false => some false
  | _, _ => none

/-- The disjunction of a list of truth values. -/
def Truth.any (ts : List Truth) : Truth :=
  ts.foldr Truth.or (some false)

/-- The condition selects: it is true, not merely unknown. -/
def Truth.selects (t : Truth) : Bool :=
  t == some true

/-- A conjunction selects exactly if both sides do. -/
@[simp] theorem Truth.selects_and (a b : Truth) :
    (a.and b).selects = (a.selects && b.selects) := by
  cases a with
  | none => cases b with
    | none => rfl
    | some b => cases b <;> rfl
  | some a => cases a <;> cases b with
    | none => rfl
    | some b => cases b <;> rfl

/-- A conjunction of a list selects exactly if every member does. -/
theorem Truth.selects_all (ts : List Truth) :
    (Truth.all ts).selects = ts.all Truth.selects := by
  induction ts with
  | nil => rfl
  | cons t ts ih => simp [Truth.all, List.foldr_cons, ← ih]

-- ---------------------------------------------------------------------------
-- Values
-- ---------------------------------------------------------------------------

/-- A bound parameter. -/
inductive Param where
  | int (n : Int)
  | text (s : String)
deriving DecidableEq, Repr

/-- A stored value. -/
inductive Datum where
  | null
  | int (n : Int)
  | text (s : String)
deriving DecidableEq

/-- A value that may be absent, which is then `NULL`. -/
def Datum.ofOption : Option Int → Datum
  | none => null
  | some n => int n

/-- A truth value, stored as one or zero. -/
def Datum.ofBool (b : Bool) : Datum :=
  int (if b then 1 else 0)

/-- How a condition compares a stored value with a parameter. -/
inductive Comparison where
  | equal
  | atLeast
  | atMost
  | above
  | below
deriving DecidableEq

/-- The operator of a comparison. -/
def Comparison.operator : Comparison → String
  | equal => "="
  | atLeast => ">="
  | atMost => "<="
  | above => ">"
  | below => "<"

/-- The outcome of a comparison, from the order of the two values. -/
def Comparison.accepts : Comparison → Ordering → Bool
  | equal, o => o == .eq
  | atLeast, o => o != .lt
  | atMost, o => o != .gt
  | above, o => o == .gt
  | below, o => o == .lt

/-- The order of a stored value and a parameter: numbers come before texts, and `NULL` has no
place in the order. -/
def Datum.compare? : Datum → Param → Option Ordering
  | null, _ => none
  | int m, .int n => some (compare m n)
  | int _, .text _ => some .lt
  | text _, .int _ => some .gt
  | text s, .text t => some (compare s t)

/-- Whether the comparison holds. -/
def Comparison.holds (op : Comparison) (d : Datum) (p : Param) : Truth :=
  (d.compare? p).map op.accepts

end MediaLibrary.Selection
