import Mathlib.Data.List.Dedup
import MediaLibrary.Proofs.Basic
import MediaLibrary.Proofs.Selection.Binding
import MediaLibrary.Proofs.Selection.Names

/-!
# Selection — the text and its parameters

A database sees a selection as a text with question marks and a list of parameters, and
gives the first parameter to the first mark and so on. No condition has more or fewer marks
than it brings parameters, so each gets its own, however many conditions come before it and
whatever conditions of one mark are added later. And what is asked for stays out of the
text: it tells how many names and values there are, never which.

* `Selection.marks`, `Selection.marks_sql` — the question marks of a text;
* `Selection.IsMarked` — no condition has more or fewer marks than parameters;
* `Query.SameShape`, `Filters.SameShape` — searches that differ in names and values only;
* `Selection.text_tells_shape` — parameters go where they belong, and nowhere else.
-/

namespace MediaLibrary

namespace Selection

-- ---------------------------------------------------------------------------
-- Question marks
-- ---------------------------------------------------------------------------

/-- The number of question marks in a text. -/
def marks (text : String) : Nat :=
  text.toList.count '?'

@[simp] theorem marks_append (a b : String) : marks (a ++ b) = marks a + marks b := by
  simp [marks]

/-- A separator without marks adds none to the texts between which it stands. -/
theorem marks_intercalate {separator : String} (h : marks separator = 0) (texts : List String) :
    marks (String.intercalate separator texts) = (texts.map marks).sum := by
  induction texts with
  | nil => simp [marks]
  | cons text rest ih =>
    cases rest with
    | nil => simp
    | cons next rest => simp [String.intercalate_cons_cons, h, ih]

/-- In front of one of the texts stand the marks of those before it. -/
theorem exists_intercalate {separator : String} (h : marks separator = 0) (before : List String)
    (text : String) (after : List String) :
    ∃ front back, String.intercalate separator (before ++ text :: after) = front ++ text ++ back ∧
      marks front = (before.map marks).sum := by
  induction before with
  | nil =>
    cases after with
    | nil => exact ⟨"", "", by simp, rfl⟩
    | cons next after =>
      refine ⟨"", separator ++ String.intercalate separator (next :: after), ?_, rfl⟩
      rw [List.nil_append, String.intercalate_cons_cons, String.append_assoc, String.empty_append]
  | cons first before ih =>
    obtain ⟨front, back, hText, hFront⟩ := ih
    refine ⟨first ++ separator ++ front, back, ?_, by simp [h, hFront]⟩
    obtain ⟨next, rest, hRest⟩ := List.exists_cons_of_ne_nil
      (List.append_ne_nil_of_right_ne_nil before (List.cons_ne_nil text after))
    rw [List.cons_append, hRest, String.intercalate_cons_cons, ← hRest, hText]
    simp only [String.append_assoc]

/-- The text of so many places has so many marks. -/
theorem marks_placesText (n : Nat) : marks (Condition.placesText n) = n := by
  have hMark : marks "?" = 1 := rfl
  rw [Condition.placesText, marks_intercalate rfl, List.map_replicate, hMark]
  simp

/-- A condition has a mark for every parameter that it takes. -/
theorem marks_sql (c : Condition) : marks c.sql = c.places := by
  have hColumn (column : Column) : marks column.sql = 0 := by cases column <;> rfl
  have hOperator (op : Comparison) : marks op.operator = 0 := by cases op <;> rfl
  -- nothing that a condition writes around its columns, operators and places has a mark
  have hMembership : marks Condition.membership = 0 := by decide
  have hExists : marks "EXISTS (" = 0 ∧ marks "NOT EXISTS (" = 0 := by decide
  have hNamed : marks " AND t.name = ?)" = 1 ∧ marks " AND t.name IN (" = 0 := by decide
  have hClosed : marks "))" = 0 ∧ marks ")" = 0 ∧ marks " IN (" = 0 := by decide
  have hCompared : marks " " = 0 ∧ marks " ?" = 1 := by decide
  have hNull : marks " IS NULL" = 0 ∧ marks " IS NOT NULL" = 0 := by decide
  cases c <;>
    simp only [Condition.sql, Condition.places, marks_append, marks_placesText, hColumn, hOperator,
      hMembership, hExists, hNamed, hClosed, hCompared, hNull, Nat.zero_add, Nat.add_zero]

-- ---------------------------------------------------------------------------
-- Parameters by position
-- ---------------------------------------------------------------------------

/-- No condition has more or fewer marks than it brings parameters. -/
def IsMarked (s : Selection String) : Prop :=
  ∀ c ∈ s.clauses, marks c.condition = c.params.length

/-- The selection with conditions added one after the other, each with its parameter. -/
def boundedAll (s : Selection String) (steps : List (String × Param)) : Selection String :=
  steps.foldl (fun s step => s.bounded step.1 step.2) s

theorem clauses_boundedAll (s : Selection String) (steps : List (String × Param)) :
    (s.boundedAll steps).clauses =
      s.clauses ++ steps.map fun step => ⟨none, step.1, [step.2]⟩ := by
  unfold boundedAll
  induction steps generalizing s with
  | nil => simp
  | cons step rest ih =>
    rw [List.foldl_cons, ih]
    simp [bounded]

/-- A written selection has a mark for each parameter. -/
theorem isMarked_written {sel : Selection Condition} (h : sel.Aligned) : sel.written.IsMarked := by
  intro c hc
  obtain ⟨clause, hClause, rfl⟩ := List.mem_map.mp hc
  exact (marks_sql clause.condition).trans (h clause hClause).symm

/-- Conditions of one mark may be added, each with its parameter. -/
theorem IsMarked.boundedAll {s : Selection String} (h : s.IsMarked)
    {steps : List (String × Param)} (hSteps : ∀ step ∈ steps, marks step.1 = 1) :
    (s.boundedAll steps).IsMarked := by
  intro c hc
  rw [clauses_boundedAll] at hc
  rcases List.mem_append.mp hc with hc | hc
  · exact h c hc
  · obtain ⟨step, hStep, rfl⟩ := List.mem_map.mp hc
    exact hSteps step hStep

namespace IsMarked

variable {s : Selection String}

/-- Clauses with a mark for each parameter have as many marks in all as parameters. -/
theorem sum_marks {clauses : List (Clause String)}
    (h : ∀ c ∈ clauses, marks c.condition = c.params.length) :
    ((clauses.map (·.condition)).map marks).sum = (clauses.flatMap (·.params)).length := by
  rw [List.length_flatMap, List.map_map]
  exact congrArg List.sum (List.map_congr_left h)

/-- A selection has as many marks as parameters. -/
theorem marks_whereText (h : s.IsMarked) : marks s.whereText = s.params.length := by
  have hWhere : marks " WHERE " = 0 := by decide
  have hAnd : marks " AND " = 0 := by decide
  unfold whereText
  split
  · rename_i hEmpty
    have hClauses : s.clauses = [] := by simpa [conditions] using hEmpty
    simp [params, hClauses, marks]
  · rw [marks_append, hWhere, marks_intercalate hAnd, Nat.zero_add]
    exact sum_marks h

/-- The marks in front of a condition in the text are those of the conditions before it, so its own
marks get the parameters that it brings. -/
theorem exists_place (h : s.IsMarked) {before after : List (Clause String)} {c : Clause String}
    (hSplit : s.clauses = before ++ c :: after) :
    ∃ front back, s.whereText = front ++ c.condition ++ back ∧
      marks front = (before.map fun c => marks c.condition).sum ∧
      c.params = (s.params.drop (marks front)).take (marks c.condition) := by
  have hWhere : marks " WHERE " = 0 := by decide
  obtain ⟨front, back, hText, hFront⟩ := exists_intercalate (by decide : marks " AND " = 0)
    (before.map (·.condition)) c.condition (after.map (·.condition))
  have hBefore : marks (" WHERE " ++ front) = (before.flatMap (·.params)).length := by
    rw [marks_append, hWhere, Nat.zero_add]
    exact hFront.trans (sum_marks fun c' hc' => h c' (by simp [hSplit, hc']))
  have hOwn : marks c.condition = c.params.length := h c (by simp [hSplit])
  refine ⟨" WHERE " ++ front, back, ?_, ?_, ?_⟩
  · have hSome : s.conditions.isEmpty = false := by simp [conditions, hSplit]
    rw [whereText, hSome, conditions, hSplit, List.map_append, List.map_cons, hText]
    simp [String.append_assoc]
  · rw [marks_append, hWhere, Nat.zero_add, hFront, List.map_map]
    rfl
  · rw [hBefore, hOwn, params, hSplit, List.flatMap_append, List.flatMap_cons, List.drop_left,
      List.take_left]

end IsMarked

-- ---------------------------------------------------------------------------
-- Names of a group
-- ---------------------------------------------------------------------------

/-- The number of different names of a group, in the form in which they are looked up. -/
def distinctNames (names : List String) : Nat :=
  (names.map normalName).dedup.length

/-- A group is looked up by as many names as it has different ones. -/
theorem length_normalNames {group : TagGroup} {names known : List String}
    (h : normalNames group names = .ok known) : known.length = distinctNames names := by
  refine List.Perm.length_eq ?_
  rw [List.perm_ext_iff_of_nodup (nodup_normalNames h) (List.nodup_dedup _)]
  intro name
  rw [mem_normalNames h, List.mem_dedup, List.mem_map]

end Selection

-- ---------------------------------------------------------------------------
-- Searches of one shape
-- ---------------------------------------------------------------------------

open Selection

/-- The queries have as many different names in each group. -/
structure Query.SameShape (q q' : Query) : Prop where
  included : distinctNames q.included = distinctNames q'.included
  optional : distinctNames q.optional = distinctNames q'.optional
  excluded : distinctNames q.excluded = distinctNames q'.excluded

/-- The ranges have the same ends, wherever these are. -/
structure IntRange.SameEnds (r r' : IntRange) : Prop where
  min : r.min.isSome = r'.min.isSome
  max : r.max.isSome = r'.max.isSome

/-- The ranges have the same ends, wherever these are. -/
structure TimeRange.SameEnds (r r' : TimeRange) : Prop where
  after : r.after.isSome = r'.after.isSome
  before : r.before.isSome = r'.before.isSome

/-- The filters name as many ratings and kinds, restrict the same attributes, and ask alike for a
parent. -/
structure Filters.SameShape (f f' : Filters) : Prop where
  ratings : f.ratings.length = f'.ratings.length
  kinds : f.kinds.length = f'.kinds.length
  width : f.width.SameEnds f'.width
  height : f.height.SameEnds f'.height
  fileSize : f.fileSize.SameEnds f'.fileSize
  viewCount : f.viewCount.SameEnds f'.viewCount
  isFavorite : f.isFavorite.isSome = f'.isFavorite.isSome
  hasParent : f.hasParent = f'.hasParent
  parentId : f.parentId.isSome = f'.parentId.isSome
  hasChildren : f.hasChildren.isSome = f'.hasChildren.isSome
  created : f.created.SameEnds f'.created

namespace Selection

/-- What a clause says without its parameters. -/
def Clause.shape (c : Clause Condition) : Option String × Condition :=
  (c.facet, c.condition)

theorem shape_toList {α : Type} {o o' : Option α} (h : o.isSome = o'.isSome)
    {g : α → Clause Condition} (hShape : ∀ a b, (g a).shape = (g b).shape) :
    (o.map g).toList.map Clause.shape = (o'.map g).toList.map Clause.shape := by
  cases o with
  | none => cases o' with
    | none => rfl
    | some b => cases h
  | some a => cases o' with
    | none => cases h
    | some b => exact congrArg (fun shape => [shape]) (hShape a b)

/-- The shape of a group depends on how many names there are. -/
theorem shape_textsClause (facet : String) (condition : Nat → Condition)
    {texts texts' : List String} (h : texts.length = texts'.length) :
    (textsClause facet condition texts).map Clause.shape =
      (textsClause facet condition texts').map Clause.shape := by
  cases texts <;> cases texts'
  · rfl
  · cases h
  · cases h
  · simp only [textsClause, List.isEmpty_cons, Bool.false_eq_true, if_false, List.map_cons,
      List.map_nil, Clause.shape, clause, h]

/-- The shape of a range depends on which ends it has. -/
theorem shape_rangeClauses (facet : String) (column : Column) {r r' : IntRange}
    (h : r.SameEnds r') :
    (rangeClauses facet column r).map Clause.shape =
      (rangeClauses facet column r').map Clause.shape := by
  rw [rangeClauses, rangeClauses, List.map_append, List.map_append,
    shape_toList h.min fun _ _ => rfl, shape_toList h.max fun _ _ => rfl]

theorem shape_createdClauses {r r' : TimeRange} (h : r.SameEnds r') :
    (createdClauses r).map Clause.shape = (createdClauses r').map Clause.shape := by
  rw [createdClauses, createdClauses, List.map_append, List.map_append,
    shape_toList h.after fun _ _ => rfl, shape_toList h.before fun _ _ => rfl]

/-- Filters of one shape have clauses that say the same. -/
theorem shape_filterClauses {f f' : Filters} (h : f.SameShape f') :
    (filterClauses f).map Clause.shape = (filterClauses f').map Clause.shape := by
  have hRatings : (f.ratings.map Rating.name).length = (f'.ratings.map Rating.name).length := by
    simpa using h.ratings
  have hKinds : (f.kinds.map MediaKind.name).length = (f'.kinds.map MediaKind.name).length := by
    simpa using h.kinds
  simp only [filterClauses, List.map_append]
  rw [shape_textsClause _ _ hRatings, shape_textsClause _ _ hKinds,
    shape_rangeClauses _ _ h.width, shape_rangeClauses _ _ h.height,
    shape_rangeClauses _ _ h.fileSize, shape_rangeClauses _ _ h.viewCount, flagClauses,
    flagClauses, flagClauses, flagClauses, shape_toList h.isFavorite fun _ _ => rfl,
    shape_toList h.parentId fun _ _ => rfl, shape_toList h.hasChildren fun _ _ => rfl,
    shape_createdClauses h.created, h.hasParent]

/-- Searches of one shape have clauses that say the same. -/
theorem shape_of_compile {q q' : Query} {f f' : Filters} {sel sel' : Selection Condition}
    (hSel : compile q f = .ok sel) (hSel' : compile q' f' = .ok sel') (hQuery : q.SameShape q')
    (hFilters : f.SameShape f') :
    sel.clauses.map Clause.shape = sel'.clauses.map Clause.shape := by
  obtain ⟨included, optional, excluded, hIncluded, hOptional, hExcluded, rfl⟩ := compile_ok hSel
  obtain ⟨included', optional', excluded', hIncluded', hOptional', hExcluded', rfl⟩ :=
    compile_ok hSel'
  have hSame {group : TagGroup} {names names' known known' : List String}
      (h : normalNames group names = .ok known) (h' : normalNames group names' = .ok known')
      (hDistinct : distinctNames names = distinctNames names') : known.length = known'.length :=
    ((length_normalNames h).trans hDistinct).trans (length_normalNames h').symm
  have hNames := hSame hIncluded hIncluded' hQuery.included
  simp only [List.map_append, List.map_map]
  rw [shape_textsClause _ _ (hSame hOptional hOptional' hQuery.optional),
    shape_textsClause _ _ (hSame hExcluded hExcluded' hQuery.excluded),
    shape_filterClauses hFilters]
  congr 3
  -- each included name has the same condition
  have hEach (names : List String) :
      names.map (Clause.shape ∘ fun name => clause "include" .carries [.text name]) =
        List.replicate names.length (some "include", .carries) :=
    List.eq_replicate_iff.mpr ⟨by simp, by simp [Clause.shape, clause]⟩
  rw [hEach, hEach, hNames]

/-- A selection that comes from a search, with any conditions of one mark added, has as many marks
as parameters, and counted from the left, the marks of each condition get the parameters that the
condition brings. Before any are added, every condition has its facet. The conditions, the facets
and the text are the same for all searches of one shape, whatever their names, numbers and dates
are. -/
theorem text_tells_shape {q : Query} {f : Filters} {sel : Selection Condition}
    (h : compile q f = .ok sel) :
    (∀ (steps : List (String × Param)) (s : Selection String),
      (∀ step ∈ steps, marks step.1 = 1) → sel.written.boundedAll steps = s →
      s.conditions = sel.written.conditions ++ steps.map Prod.fst ∧
      s.params = sel.params ++ steps.map Prod.snd ∧
      marks s.whereText = s.params.length ∧
      ∀ before c after, s.clauses = before ++ c :: after →
        marks c.condition = c.params.length ∧
        ∃ front back, s.whereText = front ++ c.condition ++ back ∧
          marks front = (before.map fun c => marks c.condition).sum ∧
          c.params = (s.params.drop (marks front)).take (marks c.condition)) ∧
    sel.written.facets.length = sel.written.conditions.length ∧
    ∀ q' f' sel', compile q' f' = .ok sel' → q.SameShape q' → f.SameShape f' →
      sel.written.conditions = sel'.written.conditions ∧
      sel.written.facets = sel'.written.facets ∧
      sel.written.whereText = sel'.written.whereText := by
  refine ⟨?_, ?_, ?_⟩
  · rintro steps s hSteps rfl
    have hMarked := (isMarked_written (aligned_of_compile h)).boundedAll hSteps
    refine ⟨?_, ?_, hMarked.marks_whereText, fun before c after hSplit => ?_⟩
    · simp [conditions, clauses_boundedAll, Function.comp_def]
    · simp only [params, clauses_boundedAll, written, List.flatMap_append, List.flatMap_map]
      exact congrArg _ List.map_eq_flatMap.symm
    · exact ⟨hMarked c (by simp [hSplit]), hMarked.exists_place hSplit⟩
  · have hFacets : ∀ c ∈ sel.written.clauses, c.facet.isSome = true := by
      intro c hc
      obtain ⟨clause, hClause, rfl⟩ := List.mem_map.mp hc
      exact (ofSearch_of_compile h clause hClause).facet
    rw [facets, List.length_filterMap_eq_countP, List.countP_eq_length.mpr hFacets, conditions,
      List.length_map]
  · intro q' f' sel' h' hQuery hFilters
    have hShape := shape_of_compile h h' hQuery hFilters
    have hConditions : sel.written.conditions = sel'.written.conditions := by
      simpa [conditions, written, Function.comp_def, Clause.shape] using
        congrArg (List.map fun shape => shape.2.sql) hShape
    have hFacets : sel.written.facets = sel'.written.facets := by
      simpa [facets, written, List.filterMap_map, Function.comp_def, Clause.shape] using
        congrArg (List.filterMap Prod.fst) hShape
    exact ⟨hConditions, hFacets, by rw [whereText, whereText, hConditions]⟩

/-- Two searches of one shape: a name in two spellings beside another one, a text that would close
the condition, and two widths. With one more condition the text of the first has five marks for five
parameters, and the second has the same text. -/
theorem text_tells_shape_twice :
    ∃ sel sel', compile { included := ["Cat", " cAT"], excluded := ["a?", "b"] }
        { width := { min := some 5 } } = .ok sel ∧
      compile { included := ["'; DROP TABLE media; --"], excluded := ["x", "y", "X"] }
        { width := { min := some (-7) } } = .ok sel' ∧
      (let s := sel.written.boundedAll [("m.id > ?", .int 9)];
        marks s.whereText = s.params.length ∧
        s.params = [.text "cat", .text "a?", .text "b", .int 5, .int 9]) ∧
      sel.written.whereText = sel'.written.whereText := by
  have hSel : compile { included := ["Cat", " cAT"], excluded := ["a?", "b"] }
      { width := { min := some 5 } } =
      .ok ⟨[clause "include" .carries [.text "cat"],
        clause "exclude" (.carriesNone 2) [.text "a?", .text "b"],
        clause "width" (.compared .width .atLeast) [.int 5]]⟩ := by cbv
  have hSel' : compile { included := ["'; DROP TABLE media; --"], excluded := ["x", "y", "X"] }
      { width := { min := some (-7) } } =
      .ok ⟨[clause "include" .carries [.text "'; drop table media; --"],
        clause "exclude" (.carriesNone 2) [.text "x", .text "y"],
        clause "width" (.compared .width .atLeast) [.int (-7)]]⟩ := by cbv
  obtain ⟨hBounded, -, hShape⟩ := text_tells_shape hSel
  obtain ⟨-, hParams, hMarks, -⟩ := hBounded [("m.id > ?", .int 9)] _ (by decide) rfl
  refine ⟨_, _, hSel, hSel', ⟨hMarks, hParams⟩, (hShape _ _ _ hSel' ?_ ?_).2.2⟩
  · exact ⟨by decide +kernel, by decide +kernel, by decide +kernel⟩
  · constructor <;> (first | rfl | exact ⟨rfl, rfl⟩)

end Selection

end MediaLibrary
