import MediaLibrary.Proofs.Basic
import MediaLibrary.Selection.Statement

/-!
# Selection — statements that the store takes

Which statement the store takes does not depend on the order in which it meets places and
conditions: a statement is taken just if it has no more places and no more levels than the store
knows. The order only decides which of two limits is told of a statement that is beyond both.

* `Statement.places`, `Statement.levels` — what a statement has of both, in all;
* `Statement.Accepted`, `Statement.prepare_eq_ok_iff` — the statements that the store takes;
* `Statement.prepare_eq_error` — what it says of the others.
-/

namespace MediaLibrary.Selection

-- ---------------------------------------------------------------------------
-- Conjunctions
-- ---------------------------------------------------------------------------

/-- How many places conditions have. -/
def placeCount (cs : List Condition) : Nat :=
  (cs.map Condition.places).foldr (· + ·) 0

/-- How many levels the conjunction of conditions has. -/
def conjunctionLevels (cs : List Condition) : Nat :=
  cs.foldl conjoined 0

theorem placeCount_cons (c : Condition) (cs : List Condition) :
    placeCount (c :: cs) = c.places + placeCount cs := rfl

theorem placeCount_append (cs cs' : List Condition) :
    placeCount (cs ++ cs') = placeCount cs + placeCount cs' := by
  induction cs with
  | nil => exact (Nat.zero_add _).symm
  | cons c cs ih => rw [List.cons_append, placeCount_cons, placeCount_cons, ih, Nat.add_assoc]

/-- No condition makes a conjunction less deep. -/
theorem le_conjoined (levels : Nat) (c : Condition) : levels ≤ conjoined levels c := by
  unfold conjoined
  split <;> omega

/-- More conditions do not make a conjunction less deep. -/
theorem le_foldl_conjoined (levels : Nat) (cs : List Condition) :
    levels ≤ cs.foldl conjoined levels := by
  induction cs generalizing levels with
  | nil => exact Nat.le_refl _
  | cons c cs ih => exact Nat.le_trans (le_conjoined levels c) (ih _)

theorem conjunctionLevels_concat (cs : List Condition) (c : Condition) :
    conjunctionLevels (cs ++ [c]) = conjoined (conjunctionLevels cs) c := by
  rw [conjunctionLevels, List.foldl_append]
  rfl

/-- No condition by itself is deeper than six levels. -/
theorem levels_le (c : Condition) : c.levels ≤ 6 := by
  cases c <;> simp [Condition.levels]

/-- With each condition but the first a conjunction gets one level deeper at most. -/
theorem foldl_conjoined_le {levels : Nat} (h : 6 ≤ levels) (cs : List Condition) :
    cs.foldl conjoined levels ≤ levels + cs.length := by
  induction cs generalizing levels with
  | nil => exact Nat.le_refl _
  | cons c cs ih =>
    have hOne : conjoined levels c = levels + 1 := by
      have hLow := levels_le c
      rw [conjoined, if_neg (by omega), Nat.max_eq_left (by omega)]
    rw [List.foldl_cons, hOne, List.length_cons]
    exact Nat.le_trans (ih (by omega)) (by omega)

/-- What is deeper to begin with is no less deep in the end. -/
theorem foldl_conjoined_mono {levels levels' : Nat} (h : levels ≤ levels') (cs : List Condition) :
    cs.foldl conjoined levels ≤ cs.foldl conjoined levels' := by
  induction cs generalizing levels levels' with
  | nil => exact h
  | cons c cs ih =>
    refine ih ?_
    unfold conjoined
    split <;> split <;> omega

/-- Each condition adds one level to those of the deepest at most. -/
theorem conjunctionLevels_le (cs : List Condition) : conjunctionLevels cs ≤ cs.length + 5 := by
  cases cs with
  | nil => exact Nat.zero_le _
  | cons c cs =>
    have hFirst : conjoined 0 c ≤ 6 := levels_le c
    have hRest := foldl_conjoined_le (Nat.le_refl 6) cs
    have hLow := foldl_conjoined_mono hFirst cs
    rw [conjunctionLevels, List.foldl_cons, List.length_cons]
    omega

/-- Conditions on included names add one level each. -/
theorem conjunctionLevels_carries (n : Nat) :
    conjunctionLevels (List.replicate (n + 1) .carries) = n + 5 := by
  induction n with
  | zero => rfl
  | succ n ih =>
    rw [List.replicate_succ', conjunctionLevels_concat, ih, conjoined, if_neg (by omega)]
    simp only [Condition.levels]
    omega

/-- A condition on an included name has one place. -/
theorem placeCount_carries (n : Nat) : placeCount (List.replicate n .carries) = n := by
  induction n with
  | zero => rfl
  | succ n ih =>
    rw [List.replicate_succ, placeCount_cons, ih, Condition.places, Nat.add_comm]

theorem innerLevels_append (cs cs' : List Condition) :
    innerLevels (cs ++ cs') = max (innerLevels cs) (innerLevels cs') := by
  induction cs with
  | nil => exact (Nat.zero_max _).symm
  | cons c cs ih =>
    have hCons (ds : List Condition) :
        innerLevels (c :: ds) = max c.innerLevels (innerLevels ds) := rfl
    rw [List.cons_append, hCons, hCons, ih, Nat.max_assoc]

/-- What stands inside the conditions has five levels at most. -/
theorem innerLevels_le (cs : List Condition) : innerLevels cs ≤ 5 := by
  induction cs with
  | nil => exact Nat.zero_le _
  | cons c cs ih =>
    have hOne : c.innerLevels ≤ 5 := by cases c <;> simp [Condition.innerLevels]
    exact Nat.max_le.mpr ⟨hOne, ih⟩

-- ---------------------------------------------------------------------------
-- Statements
-- ---------------------------------------------------------------------------

namespace Statement

variable {st : Statement}

/-- How many places a statement has. -/
def places (st : Statement) : Nat :=
  placeCount st.selection.conditions + st.closingPlaces

/-- How many levels the expressions of a statement have. -/
def levels (st : Statement) : Nat :=
  st.allLevels (conjunctionLevels st.selection.conditions)

/-- The store takes the statement: it has no more places and no more levels than there are. -/
def Accepted (st : Statement) : Prop :=
  st.places ≤ maxPlaces ∧ st.levels ≤ maxLevels

instance (st : Statement) : Decidable st.Accepted :=
  inferInstanceAs (Decidable (_ ∧ _))

/-- What the store says of a statement beyond a limit: how many places it has, or only that it has
too many levels. -/
def Refused (st : Statement) (e : Error) : Prop :=
  (maxPlaces < st.places ∧ e = st.tooManyPlaces) ∨ (maxLevels < st.levels ∧ e = tooManyLevels)

/-- What is refused is not accepted. -/
theorem Refused.not_accepted {e : Error} (h : st.Refused e) : ¬st.Accepted := by
  rintro ⟨hPlaces, hLevels⟩
  rcases h with ⟨hMany, -⟩ | ⟨hDeep, -⟩ <;> omega

/-- A statement is refused as a fault of the store. -/
theorem Refused.storage {e : Error} (h : st.Refused e) : ∃ fault, e = .storage fault := by
  rcases h with ⟨-, rfl⟩ | ⟨-, rfl⟩ <;> exact ⟨_, rfl⟩

theorem le_allLevels (st : Statement) (levels : Nat) : levels ≤ st.allLevels levels := by
  simp only [allLevels]
  split <;> omega

/-- Reading conditions counts their places and levels, and ends at the first one beyond a limit. -/
theorem readConditions_cases (st : Statement) {places levels : Nat} (hPlaces : places ≤ maxPlaces)
    (hLevels : levels ≤ maxLevels) (cs : List Condition) :
    (readConditions st places levels cs = .ok (places + placeCount cs, cs.foldl conjoined levels) ∧
        places + placeCount cs ≤ maxPlaces ∧ cs.foldl conjoined levels ≤ maxLevels) ∨
      (readConditions st places levels cs = .error st.tooManyPlaces ∧
        maxPlaces < places + placeCount cs) ∨
      (readConditions st places levels cs = .error tooManyLevels ∧
        maxLevels < cs.foldl conjoined levels) := by
  induction cs generalizing places levels with
  | nil => exact .inl ⟨rfl, hPlaces, hLevels⟩
  | cons c cs ih =>
    have hDeeper := le_foldl_conjoined (conjoined levels c) cs
    rw [placeCount_cons, ← Nat.add_assoc, List.foldl_cons]
    by_cases hDeep : maxLevels < conjoined levels c
    · have hBeyond : maxLevels < cs.foldl conjoined (conjoined levels c) := by omega
      by_cases hMany : maxPlaces < places + c.places
      · cases hEnd : c.endsWithPlace with
        | true => exact .inr (.inr ⟨by simp [readConditions, hDeep, hEnd], hBeyond⟩)
        | false => exact .inr (.inl ⟨by simp [readConditions, hMany, hEnd], by omega⟩)
      · exact .inr (.inr ⟨by simp [readConditions, hMany, hDeep], hBeyond⟩)
    · by_cases hMany : maxPlaces < places + c.places
      · exact .inr (.inl ⟨by simp [readConditions, hMany, hDeep], by omega⟩)
      · have hStep : readConditions st places levels (c :: cs) =
            readConditions st (places + c.places) (conjoined levels c) cs := by
          simp [readConditions, hMany, hDeep]
        rw [hStep]
        exact ih (by omega) (by omega)

/-- A statement is accepted and prepared, or refused for a limit it is over. -/
theorem prepare_cases (st : Statement) :
    (st.prepare = .ok () ∧ st.Accepted) ∨ ∃ e, st.prepare = .error e ∧ st.Refused e := by
  have hPrepare : st.prepare = st.read.bind fun levels =>
      if maxLevels < st.allLevels levels then .error tooManyLevels else .ok () := by
    rw [prepare]
    rfl
  have hWhole := le_allLevels st (conjunctionLevels st.selection.conditions)
  rcases readConditions_cases st (Nat.zero_le _) (Nat.zero_le _)
    st.selection.conditions with ⟨hRead, hPlaces, -⟩ | ⟨hRead, hMany⟩ | ⟨hRead, hDeep⟩
  · rw [Nat.zero_add] at hPlaces
    by_cases hMany : maxPlaces < st.places
    · have hFault : st.read = .error st.tooManyPlaces := by
        rw [read, hRead, Nat.zero_add]
        exact if_pos hMany
      exact .inr ⟨_, by rw [hPrepare, hFault]; rfl, .inl ⟨hMany, rfl⟩⟩
    · have hOk : st.read = .ok (conjunctionLevels st.selection.conditions) := by
        rw [read, hRead, Nat.zero_add]
        exact if_neg hMany
      rw [hPrepare, hOk, Except.bind]
      by_cases hDeep : maxLevels < st.levels
      · exact .inr ⟨_, if_pos hDeep, .inr ⟨hDeep, rfl⟩⟩
      · exact .inl ⟨if_neg hDeep, by omega, by omega⟩
  · rw [Nat.zero_add] at hMany
    have hFault : st.read = .error st.tooManyPlaces := by
      rw [read, hRead]
    exact .inr ⟨_, by rw [hPrepare, hFault]; rfl, .inl ⟨by rw [places]; omega, rfl⟩⟩
  · have hFault : st.read = .error tooManyLevels := by
      rw [read, hRead]
    refine .inr ⟨_, by rw [hPrepare, hFault]; rfl, .inr ⟨?_, rfl⟩⟩
    exact Nat.lt_of_lt_of_le hDeep hWhole

/-- The store takes a statement just if it is within both limits. -/
theorem prepare_eq_ok_iff : st.prepare = .ok () ↔ st.Accepted := by
  rcases prepare_cases st with ⟨hOk, hAccepted⟩ | ⟨e, hError, hRefused⟩
  · exact iff_of_true hOk hAccepted
  · rw [hError]
    exact iff_of_false (by simp) hRefused.not_accepted

/-- What it says of a statement that it does not take is true of the statement. -/
theorem prepare_eq_error {e : Error} (h : st.prepare = .error e) : st.Refused e := by
  rcases prepare_cases st with ⟨hOk, -⟩ | ⟨e', hError, hRefused⟩
  · rw [hOk] at h
    cases h
  · rw [hError] at h
    cases h
    exact hRefused

/-- What is asked for in a statement that the store takes is answered. -/
theorem map_prepare_of_accepted {α : Type} (h : st.Accepted) (a : α) :
    (st.prepare.map fun _ => a) = .ok a := by
  rw [prepare_eq_ok_iff.mpr h]
  rfl

/-- What is asked for in another one is answered with what the store says of it. -/
theorem exists_map_prepare_error {α : Type} (h : ¬st.Accepted) (a : α) :
    ∃ e, (st.prepare.map fun _ => a) = .error e ∧ st.Refused e := by
  rcases prepare_cases st with ⟨-, hAccepted⟩ | ⟨e, hError, hRefused⟩
  · exact absurd hAccepted h
  · exact ⟨e, by rw [hError]; rfl, hRefused⟩

/-- Nothing is said while a statement is read that would not be said of it in the end. -/
theorem prepare_of_read_error {e : Error} (h : st.read = .error e) : st.prepare = .error e := by
  rw [prepare, h]
  rfl

end Statement

end MediaLibrary.Selection
