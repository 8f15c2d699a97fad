import MediaLibrary.Selection.Compile

/-!
# Selection — binding parameters

A selection keeps the parameters of each clause with it, but a database sees only two
flat lists and binds the parameters to the places from left to right. Where every
clause brings as many parameters as its condition has places, `Selection.Aligned`,
each condition gets its own, and a selection holds where each of its clauses holds by
itself.

* `Selection.holdsFor_eq_all` — a selection is the conjunction of its clauses;
* `Selection.rows_bounded` — one more condition singles out rows among the selected;
* `Selection.aligned_of_compile` — every selection that comes from a search is aligned.
-/

namespace MediaLibrary.Selection

variable {sel : Selection Condition}

-- ---------------------------------------------------------------------------
-- Alignment
-- ---------------------------------------------------------------------------

/-- The clause brings as many parameters as its condition has places. -/
def Clause.Aligned (c : Clause Condition) : Prop :=
  c.params.length = c.condition.places

/-- Every clause brings as many parameters as its condition has places. -/
def Aligned (sel : Selection Condition) : Prop :=
  ∀ c ∈ sel.clauses, c.Aligned

/-- The clause selects the row of a medium whose tags have these names. -/
def Clause.selects (c : Clause Condition) (row : MediaRow) (names : List String) : Bool :=
  (c.condition.holds row names c.params).selects

/-- Bound from left to right, aligned clauses get their own parameters, whatever follows. -/
theorem truths_of_aligned (row : MediaRow) (names : List String) {clauses : List (Clause Condition)}
    (h : ∀ c ∈ clauses, c.Aligned) :
    truths row names (clauses.map (·.condition)) (clauses.flatMap (·.params)) =
      clauses.map fun c => c.condition.holds row names c.params := by
  induction clauses with
  | nil => rfl
  | cons c rest ih =>
    have hPlaces : c.condition.places = c.params.length := (h c (List.mem_cons_self ..)).symm
    simp only [List.map_cons, List.flatMap_cons, truths]
    rw [hPlaces, List.take_left, List.drop_left,
      ih fun c' hc' => h c' (List.mem_cons_of_mem c hc')]

/-- A selection selects what each of its clauses selects. -/
theorem holdsFor_eq_all (h : sel.Aligned) (row : MediaRow) (names : List String) :
    sel.holdsFor row names = sel.clauses.all fun c => c.selects row names := by
  rw [holdsFor, Truth.selects_all, conditions, params, truths_of_aligned row names h, List.all_map]
  rfl

-- ---------------------------------------------------------------------------
-- Comparisons
-- ---------------------------------------------------------------------------

/-- What a comparison says of two numbers. -/
def Comparison.Relates : Comparison → Int → Int → Prop
  | equal, m, n => m = n
  | atLeast, m, n => n ≤ m
  | atMost, m, n => m ≤ n
  | above, m, n => n < m
  | below, m, n => m < n

/-- A comparison is accepted just if the numbers relate so. -/
theorem Comparison.accepts_compare (op : Comparison) (m n : Int) :
    op.accepts (compare m n) = true ↔ op.Relates m n := by
  cases op with
  | equal => simp [accepts, Relates]
  | atLeast => simp [accepts, Relates, Int.compare_ne_lt]
  | atMost => simp [accepts, Relates, Int.compare_ne_gt]
  | above => simp [accepts, Relates, Int.compare_eq_gt]
  | below => simp [accepts, Relates, Int.compare_eq_lt]

/-- A comparison with a number selects no row whose column is `NULL`. -/
theorem selects_compared {facet : Option String} {column : Column} {op : Comparison} {n : Int}
    {row : MediaRow} {value : Option Int} (names : List String)
    (hValue : column.value row = .ofOption value) :
    Clause.selects ⟨facet, .compared column op, [.int n]⟩ row names = true ↔
      ∃ k ∈ value, op.Relates k n := by
  simp only [Clause.selects, Condition.holds, List.map_cons, List.map_nil, Truth.selects_all,
    List.all_cons, List.all_nil, Bool.and_true, hValue, Comparison.holds]
  cases value with
  | none => simp [Datum.ofOption, Datum.compare?, Truth.selects]
  | some k => simp [Datum.ofOption, Datum.compare?, Truth.selects, Comparison.accepts_compare]

/-- One more condition on the id singles out rows among those selected. -/
theorem rows_bounded (h : sel.Aligned) (op : Comparison) {id : Int} {p : MediaRow → Bool}
    (hp : ∀ row, p row = true ↔ op.Relates row.id id) (s : Store) :
    (sel.bounded (.compared .id op) (.int id)).rows s = (sel.rows s).filter p := by
  have hBounded : (sel.bounded (.compared .id op) (.int id)).Aligned := by
    intro c hc
    rcases List.mem_append.mp hc with hc | hc
    · exact h c hc
    · obtain rfl := List.mem_singleton.mp hc
      rfl
  rw [rows, rows, List.filter_filter]
  apply List.filter_congr
  intro row _
  have hValue : Column.id.value row = .ofOption (some row.id) := rfl
  rw [holdsFor_eq_all hBounded, holdsFor_eq_all h, bounded, List.all_append, Bool.and_comm]
  congr 1
  rw [Bool.eq_iff_iff, hp, List.all_cons, List.all_nil, Bool.and_true,
    selects_compared _ hValue]
  simp

-- ---------------------------------------------------------------------------
-- Selections of searches
-- ---------------------------------------------------------------------------

/-- A clause of a search: it has a facet, and as many parameters as its condition has places. -/
structure Clause.OfSearch (c : Clause Condition) : Prop where
  facet : c.facet.isSome = true
  aligned : c.Aligned

/-- A clause of one facet of a search. -/
structure Clause.OfFacet (facet : String) (c : Clause Condition) : Prop where
  facet_eq : c.facet = some facet
  aligned : c.Aligned

theorem Clause.OfFacet.ofSearch {facet : String} {c : Clause Condition} (h : c.OfFacet facet) :
    c.OfSearch :=
  ⟨by rw [h.facet_eq, Option.isSome_some], h.aligned⟩

/-- The clause of a group belongs to its facet. -/
theorem ofFacet_textsClause (facet : String) {condition : Nat → Condition} (texts : List String)
    (h : ∀ n, (condition n).places = n) :
    ∀ c ∈ textsClause facet condition texts, c.OfFacet facet := by
  intro c hc
  unfold textsClause at hc
  split at hc
  · cases hc
  · obtain rfl := List.mem_singleton.mp hc
    exact ⟨rfl, by rw [Clause.Aligned, clause, h, List.length_map]⟩

theorem ofFacet_toList {α : Type} {facet : String} (o : Option α) {g : α → Clause Condition}
    (h : ∀ a, (g a).OfFacet facet) : ∀ c ∈ (o.map g).toList, c.OfFacet facet := by
  intro c hc
  obtain ⟨a, -, rfl⟩ := Option.map_eq_some_iff.mp (Option.mem_toList.mp hc)
  exact h a

/-- The clauses of a range belong to its facet. -/
theorem ofFacet_rangeClauses (facet : String) (column : Column) (range : IntRange) :
    ∀ c ∈ rangeClauses facet column range, c.OfFacet facet :=
  List.forall_mem_append.mpr
    ⟨ofFacet_toList range.min fun _ => ⟨rfl, rfl⟩, ofFacet_toList range.max fun _ => ⟨rfl, rfl⟩⟩

theorem ofFacet_parentClauses (hasParent : Option Bool) :
    ∀ c ∈ parentClauses hasParent, c.OfFacet "has_parent" := by
  have hNoPlace : Clause.OfFacet "has_parent" (clause "has_parent" (.isNotNull .parentId) []) ∧
      Clause.OfFacet "has_parent" (clause "has_parent" (.isNull .parentId) []) :=
    ⟨⟨rfl, rfl⟩, rfl, rfl⟩
  rcases hasParent with _ | _ | _
  · simp [parentClauses]
  · simpa [parentClauses] using hNoPlace.2
  · simpa [parentClauses] using hNoPlace.1

/-- The facets of filters. -/
def filterFacets : List String :=
  ["rating", "media_type", "width", "height", "file_size", "view_count", "favorite", "has_parent",
    "parent_id", "has_children", "created_after", "created_before"]

/-- Each clause of the filters belongs to one of their facets. -/
theorem ofFacet_filterClauses (f : Filters) :
    ∀ c ∈ filterClauses f, ∃ facet ∈ filterFacets, c.OfFacet facet := by
  have hOf {facet : String} {clauses : List (Clause Condition)}
      (h : ∀ c ∈ clauses, c.OfFacet facet) (hFacet : facet ∈ filterFacets) :
      ∀ c ∈ clauses, ∃ facet ∈ filterFacets, c.OfFacet facet :=
    fun c hc => ⟨facet, hFacet, h c hc⟩
  simp only [filterClauses, createdClauses, List.forall_mem_append, and_assoc]
  refine ⟨?_, ?_, ?_, ?_, ?_, ?_, ?_, ?_, ?_, ?_, ?_, ?_⟩
  · exact hOf (ofFacet_textsClause "rating" _ fun _ => rfl) (by decide)
  · exact hOf (ofFacet_textsClause "media_type" _ fun _ => rfl) (by decide)
  · exact hOf (ofFacet_rangeClauses "width" _ _) (by decide)
  · exact hOf (ofFacet_rangeClauses "height" _ _) (by decide)
  · exact hOf (ofFacet_rangeClauses "file_size" _ _) (by decide)
  · exact hOf (ofFacet_rangeClauses "view_count" _ _) (by decide)
  · exact hOf (ofFacet_toList _ fun _ => ⟨rfl, rfl⟩) (by decide : "favorite" ∈ filterFacets)
  · exact hOf (ofFacet_parentClauses _) (by decide)
  · exact hOf (ofFacet_toList _ fun _ => ⟨rfl, rfl⟩) (by decide : "parent_id" ∈ filterFacets)
  · exact hOf (ofFacet_toList _ fun _ => ⟨rfl, rfl⟩) (by decide : "has_children" ∈ filterFacets)
  · exact hOf (ofFacet_toList _ fun _ => ⟨rfl, rfl⟩) (by decide : "created_after" ∈ filterFacets)
  · exact hOf (ofFacet_toList _ fun _ => ⟨rfl, rfl⟩) (by decide : "created_before" ∈ filterFacets)

/-- The groups of names of a search that compiles, and the clauses made of them. -/
theorem compile_ok {q : Query} {f : Filters} (h : compile q f = .ok sel) :
    ∃ included optional excluded, normalNames .included q.included = .ok included ∧
      normalNames .optional q.optional = .ok optional ∧
      normalNames .excluded q.excluded = .ok excluded ∧
      sel = ⟨included.map (fun name => clause "include" .carries [.text name])
        ++ textsClause "optional" .carriesAny optional
        ++ textsClause "exclude" .carriesNone excluded
        ++ filterClauses f⟩ := by
  unfold compile at h
  cases hIncluded : normalNames .included q.included with
  | error e => rw [hIncluded] at h; cases h
  | ok included =>
    cases hOptional : normalNames .optional q.optional with
    | error e => rw [hIncluded, hOptional] at h; cases h
    | ok optional =>
      cases hExcluded : normalNames .excluded q.excluded with
      | error e => rw [hIncluded, hOptional, hExcluded] at h; cases h
      | ok excluded =>
        rw [hIncluded, hOptional, hExcluded] at h
        cases h
        exact ⟨included, optional, excluded, rfl, rfl, rfl, rfl⟩

/-- All clauses of a selection that comes from a search are clauses of searches. -/
theorem ofSearch_of_compile {q : Query} {f : Filters} (h : compile q f = .ok sel) :
    ∀ c ∈ sel.clauses, c.OfSearch := by
  obtain ⟨included, optional, excluded, -, -, -, rfl⟩ := compile_ok h
  simp only [List.forall_mem_append, and_assoc]
  refine ⟨?_, ?_, ?_, ?_⟩
  · intro c hc
    obtain ⟨name, -, rfl⟩ := List.mem_map.mp hc
    exact ⟨rfl, rfl⟩
  · exact fun c hc => (ofFacet_textsClause "optional" optional (fun _ => rfl) c hc).ofSearch
  · exact fun c hc => (ofFacet_textsClause "exclude" excluded (fun _ => rfl) c hc).ofSearch
  · intro c hc
    obtain ⟨facet, -, hFacet⟩ := ofFacet_filterClauses f c hc
    exact hFacet.ofSearch

/-- A selection that comes from a search brings every condition its own parameters. -/
theorem aligned_of_compile {q : Query} {f : Filters} (h : compile q f = .ok sel) : sel.Aligned :=
  fun c hc => (ofSearch_of_compile h c hc).aligned

end MediaLibrary.Selection
