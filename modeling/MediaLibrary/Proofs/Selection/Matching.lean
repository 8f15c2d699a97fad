import Mathlib.Tactic.MkIffOfInductiveProp
import MediaLibrary.Proofs.Selection.Binding
import MediaLibrary.Proofs.Selection.Names
import MediaLibrary.Proofs.Store.Row
import MediaLibrary.Proofs.Text.Collation

/-!
# Selection — which media match

What a search means, without conditions, parameters or `NULL`: a medium matches if
it carries the tags the query asks for and the filters admit it. A selection that
comes from a search selects the rows of just those media. The store has its own idea of
which names are one, which differs only for names with a NUL.

* `Store.Carries` — a medium carries a tag with a name;
* `Store.CarriesSame` — it carries one with what is the same name to the store;
* `Filters.Admits` — the filters admit a medium;
* `Media.Matches` — a medium matches a query and filters;
* `Selection.holdsFor_iff_matches` — compiled conditions say the same.
-/

namespace MediaLibrary

-- ---------------------------------------------------------------------------
-- The meaning of a search
-- ---------------------------------------------------------------------------

/-- The medium carries a tag with this name, blanks around it and the case of `A` to `Z` aside. -/
def Store.Carries (s : Store) (mediaId : Int) (name : String) : Prop :=
  ∃ tag ∈ s.tags, s.isAttached mediaId tag.id = true ∧
    Text.fold tag.name = Text.fold (Text.trim name)

instance (s : Store) (mediaId : Int) (name : String) : Decidable (s.Carries mediaId name) := by
  unfold Store.Carries
  infer_instance

/-- The medium carries a tag that is the one with this name to the store, blanks around it aside. -/
def Store.CarriesSame (s : Store) (mediaId : Int) (name : String) : Prop :=
  ∃ tag ∈ s.tags, s.isAttached mediaId tag.id = true ∧
    Text.OneName tag.name (Text.trim name)

/-- A number lies in a range. One that is not known lies in no range with an end. -/
def IntRange.Contains (r : IntRange) (n : Option Int) : Prop :=
  (∀ low ∈ r.min, ∃ k ∈ n, low ≤ k) ∧ ∀ high ∈ r.max, ∃ k ∈ n, k ≤ high

instance (r : IntRange) (n : Option Int) : Decidable (r.Contains n) := by
  unfold IntRange.Contains
  infer_instance

/-- The filters admit a medium. -/
@[mk_iff]
structure Filters.Admits (f : Filters) (m : Media) : Prop where
  rating : f.ratings ≠ [] → m.rating ∈ f.ratings
  kind : f.kinds ≠ [] → m.kind ∈ f.kinds
  width : f.width.Contains m.width
  height : f.height.Contains m.height
  fileSize : f.fileSize.Contains (some m.fileSize)
  viewCount : f.viewCount.Contains (some m.viewCount)
  isFavorite : ∀ b ∈ f.isFavorite, m.isFavorite = b
  hasParent : ∀ b ∈ f.hasParent, m.parentId.isSome = b
  parentId : ∀ id ∈ f.parentId, m.parentId = some id
  hasChildren : ∀ b ∈ f.hasChildren, m.hasChildren = b
  createdAfter : ∀ t ∈ f.created.after, t.date.dayNumber * 86400 + t.second ≤ m.createdAt
  createdBefore : ∀ t ∈ f.created.before, m.createdAt ≤ t.date.dayNumber * 86400 + t.second

instance (f : Filters) (m : Media) : Decidable (f.Admits m) :=
  decidable_of_iff _ (Filters.admits_iff f m).symm

/-- The medium matches a query and filters: it carries all included tags, one of the optional tags
if there are any, and no excluded tag, and the filters admit it. -/
@[mk_iff]
structure Media.Matches (m : Media) (s : Store) (q : Query) (f : Filters) : Prop where
  included : ∀ name ∈ q.included, s.Carries m.id name
  optional : q.optional ≠ [] → ∃ name ∈ q.optional, s.Carries m.id name
  excluded : ∀ name ∈ q.excluded, ¬s.Carries m.id name
  admitted : f.Admits m

instance (m : Media) (s : Store) (q : Query) (f : Filters) : Decidable (m.Matches s q f) :=
  decidable_of_iff _ (Media.matches_iff m s q f).symm

/-- What a query demands of the names that are carried: all included ones, one of the optional ones
if there are any, and no excluded one. -/
structure Query.Demands (q : Query) (carried : String → Prop) : Prop where
  included : ∀ name ∈ q.included, carried name
  optional : q.optional ≠ [] → ∃ name ∈ q.optional, carried name
  excluded : ∀ name ∈ q.excluded, ¬carried name

/-- The names of a query hold no NUL. Those of a query that was read from a text never do. -/
def Query.IsReadable (q : Query) : Prop :=
  ∀ name ∈ q.names, '\x00' ∉ name.toList

/-- A valid name has no NUL. -/
theorem Tag.IsName.nul_notMem {name : String} (h : Tag.IsName name) : '\x00' ∉ name.toList :=
  fun hNul => absurd (h.chars _ hNul) (by decide)

/-- The names of a parsed query are read to their end. -/
theorem Query.isReadable_of_parse {text : String} {q : Query} (h : Query.parse text = .ok q) :
    q.IsReadable := by
  intro name hName
  exact (mem_names_of_parse h name hName).nul_notMem

theorem Query.isReadable_empty : Query.IsReadable {} := by
  intro name hName
  cases hName

namespace Store

variable {s : Store}

/-- What a medium carries, it carries to the store as well. -/
theorem Carries.same {mediaId : Int} {name : String} (h : s.Carries mediaId name) :
    s.CarriesSame mediaId name := by
  obtain ⟨tag, hTag, hAttached, hName⟩ := h
  exact ⟨tag, hTag, hAttached, .of_fold_eq hName⟩

/-- To the store, as to a reader, names without a NUL are one if they differ in letter case at most.
-/
theorem carriesSame_iff {name : String} (h : '\x00' ∉ name.toList) (mediaId : Int) :
    s.CarriesSame mediaId name ↔ s.Carries mediaId name := by
  have hTrim : '\x00' ∉ (Text.trim name).toList := fun hNul => h (Text.mem_of_mem_trim hNul)
  simp only [CarriesSame, Carries, Text.oneName_iff_fold_eq hTrim]

/-- A query whose names hold no NUL demands the same of what is carried to the store and to a
reader. -/
theorem demands_carriesSame_iff {q : Query} (hq : q.IsReadable) (mediaId : Int) :
    q.Demands (s.CarriesSame mediaId) ↔ q.Demands (s.Carries mediaId) := by
  have hSame {name : String} (hName : name ∈ q.names) :
      s.CarriesSame mediaId name ↔ s.Carries mediaId name :=
    carriesSame_iff (hq name hName) mediaId
  have hIncluded {name : String} (h : name ∈ q.included) := hSame (Query.mem_names.mpr (.inl h))
  have hOptional {name : String} (h : name ∈ q.optional) :=
    hSame (Query.mem_names.mpr (.inr (.inl h)))
  have hExcluded {name : String} (h : name ∈ q.excluded) :=
    hSame (Query.mem_names.mpr (.inr (.inr h)))
  constructor
  · rintro ⟨hAll, hAny, hNone⟩
    refine ⟨fun name h => (hIncluded h).mp (hAll name h), fun hNe => ?_,
      fun name h hCarried => hNone name h ((hExcluded h).mpr hCarried)⟩
    obtain ⟨name, h, hCarried⟩ := hAny hNe
    exact ⟨name, h, (hOptional h).mp hCarried⟩
  · rintro ⟨hAll, hAny, hNone⟩
    refine ⟨fun name h => (hIncluded h).mpr (hAll name h), fun hNe => ?_,
      fun name h hCarried => hNone name h ((hExcluded h).mp hCarried)⟩
    obtain ⟨name, h, hCarried⟩ := hAny hNe
    exact ⟨name, h, (hOptional h).mpr hCarried⟩

end Store

/-- To match is to meet the demands of the query and to be admitted by the filters. -/
theorem Media.matches_iff_demands (m : Media) (s : Store) (q : Query) (f : Filters) :
    m.Matches s q f ↔ q.Demands (s.Carries m.id) ∧ f.Admits m := by
  constructor
  · rintro ⟨hIncluded, hOptional, hExcluded, hAdmitted⟩
    exact ⟨⟨hIncluded, hOptional, hExcluded⟩, hAdmitted⟩
  · rintro ⟨⟨hIncluded, hOptional, hExcluded⟩, hAdmitted⟩
    exact ⟨hIncluded, hOptional, hExcluded, hAdmitted⟩

namespace Selection

-- ---------------------------------------------------------------------------
-- Truth values
-- ---------------------------------------------------------------------------

theorem Truth.selects_or (a b : Truth) : (a.or b).selects = (a.selects || b.selects) := by
  rcases a with _ | _ | _ <;> rcases b with _ | _ | _ <;> rfl

/-- A disjunction of a list selects exactly if some member does. -/
theorem Truth.selects_any (ts : List Truth) : (Truth.any ts).selects = ts.any Truth.selects := by
  induction ts with
  | nil => rfl
  | cons t rest ih =>
    rw [List.any_cons, ← ih, ← Truth.selects_or]
    rfl

-- ---------------------------------------------------------------------------
-- Clauses of tags
-- ---------------------------------------------------------------------------

variable {s : Store} {row : MediaRow}

/-- The names of the tags of a medium. -/
def tagNames (s : Store) (row : MediaRow) : List String :=
  (s.tagsOf row.id).map (·.name)

/-- The medium of the row carries a tag that is looked up by this form of a name. -/
def IsFound (s : Store) (row : MediaRow) (text : String) : Prop :=
  ∃ tag ∈ s.tagsOf row.id, Text.sameName tag.name text = true

/-- A normal name is found on a medium just if the medium carries its name. -/
theorem isFound_iff (name : String) :
    IsFound s row (normalName name) ↔ s.CarriesSame row.id name := by
  have hSame (tag : TagRow) : Text.OneName tag.name (Text.fold (Text.trim name)) ↔
      Text.OneName tag.name (Text.trim name) :=
    ⟨fun h => h.trans (Text.oneName_fold _), fun h => h.trans (Text.oneName_fold _).symm⟩
  simp [IsFound, Store.CarriesSame, Store.tagsOf, normalName, hSame, and_assoc]

/-- Any of the names is found just if one of them is. -/
theorem anyNamed_iff (texts : List String) :
    Condition.anyNamed (tagNames s row) (texts.map .text) = true ↔
      ∃ text ∈ texts, IsFound s row text := by
  simp only [Condition.anyNamed, tagNames, List.any_map, List.any_eq_true, Function.comp_apply,
    Condition.isNamed]
  constructor
  · rintro ⟨tag, hTag, text, hText, hSame⟩
    exact ⟨text, hText, tag, hTag, hSame⟩
  · rintro ⟨text, hText, tag, hTag, hSame⟩
    exact ⟨tag, hTag, text, hText, hSame⟩

/-- The clause of some texts selects unless there are texts and its condition fails. -/
theorem all_textsClause (facet : String) (condition : Nat → Condition) (texts names : List String) :
    ((textsClause facet condition texts).all fun c => c.selects row names) = true ↔
      (texts ≠ [] →
        ((condition texts.length).holds row names (texts.map .text)).selects = true) := by
  cases texts <;> simp [textsClause, clause, Clause.selects]

variable {group : TagGroup} {names known : List String}

theorem known_ne_nil (h : normalNames group names = .ok known) (hNames : names ≠ []) :
    known ≠ [] := by
  obtain ⟨name, hName⟩ := List.exists_mem_of_ne_nil names hNames
  exact List.ne_nil_of_mem ((mem_normalNames h _).mpr ⟨name, hName, rfl⟩)

/-- The clauses of the included names ask for each of them. -/
theorem all_included (h : normalNames group names = .ok known) :
    ((known.map fun name => clause "include" .carries [.text name]).all fun c =>
        c.selects row (tagNames s row)) = true ↔
      ∀ name ∈ names, s.CarriesSame row.id name := by
  have hEach (text : String) :
      (clause "include" .carries [.text text]).selects row (tagNames s row) = true ↔
        IsFound s row text := by
    have hAny : Condition.anyNamed (tagNames s row) [.text text] = true ↔ _ := anyNamed_iff [text]
    simpa [Clause.selects, clause, Condition.holds, Truth.selects] using hAny
  simp only [List.all_map, List.all_eq_true, Function.comp_apply, hEach]
  constructor
  · intro hAll name hName
    exact (isFound_iff name).mp (hAll _ ((mem_normalNames h _).mpr ⟨name, hName, rfl⟩))
  · intro hAll text hText
    obtain ⟨name, hName, rfl⟩ := (mem_normalNames h text).mp hText
    exact (isFound_iff name).mpr (hAll name hName)

/-- Some form of a group is found exactly if some member is carried. -/
theorem exists_isFound (h : normalNames group names = .ok known) :
    (∃ text ∈ known, IsFound s row text) ↔ ∃ name ∈ names, s.CarriesSame row.id name := by
  constructor
  · rintro ⟨text, hText, hFound⟩
    obtain ⟨name, hName, rfl⟩ := (mem_normalNames h text).mp hText
    exact ⟨name, hName, (isFound_iff name).mp hFound⟩
  · rintro ⟨name, hName, hCarries⟩
    exact ⟨_, (mem_normalNames h _).mpr ⟨name, hName, rfl⟩, (isFound_iff name).mpr hCarries⟩

/-- The clause of the optional names asks for one of them, if there are any. -/
theorem all_optional (h : normalNames group names = .ok known) :
    ((textsClause "optional" .carriesAny known).all fun c =>
        c.selects row (tagNames s row)) = true ↔
      (names ≠ [] → ∃ name ∈ names, s.CarriesSame row.id name) := by
  have hHolds : ((Condition.carriesAny known.length).holds row (tagNames s row)
      (known.map .text)).selects = true ↔ ∃ name ∈ names, s.CarriesSame row.id name := by
    rw [← exists_isFound h, ← anyNamed_iff]
    simp [Condition.holds, Truth.selects]
  rw [all_textsClause, hHolds]
  constructor
  · intro hKnown hNames
    exact hKnown (known_ne_nil h hNames)
  · intro hNames hKnown
    obtain ⟨text, hText⟩ := List.exists_mem_of_ne_nil known hKnown
    obtain ⟨name, hName, -⟩ := (mem_normalNames h text).mp hText
    exact hNames (List.ne_nil_of_mem hName)

/-- The clause of the excluded names asks for none of them. -/
theorem all_excluded (h : normalNames group names = .ok known) :
    ((textsClause "exclude" .carriesNone known).all fun c =>
        c.selects row (tagNames s row)) = true ↔
      ∀ name ∈ names, ¬s.CarriesSame row.id name := by
  have hHolds : ((Condition.carriesNone known.length).holds row (tagNames s row)
      (known.map .text)).selects = true ↔ ¬∃ name ∈ names, s.CarriesSame row.id name := by
    rw [← exists_isFound h, ← anyNamed_iff]
    simp [Condition.holds, Truth.selects]
  rw [all_textsClause, hHolds]
  constructor
  · intro hKnown name hName hCarries
    exact hKnown (known_ne_nil h (List.ne_nil_of_mem hName)) ⟨name, hName, hCarries⟩
  · rintro hNone - ⟨name, hName, hCarries⟩
    exact hNone name hName hCarries

-- ---------------------------------------------------------------------------
-- Clauses of filters
-- ---------------------------------------------------------------------------

/-- A clause that is there for a value only asks of each value that is there. -/
theorem all_toList {α : Type} (o : Option α) (g : α → Clause Condition) :
    ((o.map g).toList.all fun c => c.selects row names) = true ↔
      ∀ a ∈ o, (g a).selects row names = true := by
  cases o <;> simp

/-- The clauses of a range ask for a value within it, which an absent value is not. -/
theorem all_rangeClauses (facet : String) {column : Column} {value : Option Int}
    (hValue : column.value row = .ofOption value) (range : IntRange) :
    ((rangeClauses facet column range).all fun c => c.selects row names) = true ↔
      range.Contains value := by
  simp only [rangeClauses, clause, List.all_append, Bool.and_eq_true, all_toList,
    selects_compared names hValue, Comparison.Relates]
  rfl

/-- The clause of a flag asks for its value. -/
theorem all_flagClauses (facet : String) {column : Column} {value : Bool}
    (hValue : column.value row = .ofBool value) (flag : Option Bool) :
    ((flagClauses facet column flag).all fun c => c.selects row names) = true ↔
      ∀ b ∈ flag, value = b := by
  have hValue' : column.value row = .ofOption (some (if value then 1 else 0)) := hValue
  simp only [flagClauses, clause, all_toList, selects_compared names hValue', Comparison.Relates]
  refine forall₂_congr fun b _ => ?_
  cases value <;> cases b <;> simp

/-- The clause on parents asks whether there is one. -/
theorem all_parentClauses (hasParent : Option Bool) :
    ((parentClauses hasParent).all fun c => c.selects row names) = true ↔
      ∀ b ∈ hasParent, row.parentId.isSome = b := by
  rcases hasParent with _ | _ | _ <;> rcases hParent : row.parentId with _ | id <;>
    simp [parentClauses, clause, Clause.selects, Condition.holds, Column.value, hParent,
      Datum.ofOption, Truth.selects]

/-- A list of words restricts a column to them, unless it is empty. -/
theorem all_wordsClause {α : Type} (facet : String) (column : Column) (word : α → String)
    {value : α} (hWord : ∀ a, word value = word a → value = a)
    (hValue : column.value row = .text (word value)) (values : List α) :
    ((textsClause facet (.oneOf column) (values.map word)).all fun c =>
        c.selects row names) = true ↔
      (values ≠ [] → value ∈ values) := by
  have hSelects (text : String) :
      (Comparison.equal.holds (column.value row) (.text text)).selects = true ↔
        word value = text := by
    simp [Comparison.holds, hValue, Datum.compare?, Comparison.accepts, Truth.selects]
  rw [all_textsClause]
  simp only [Condition.holds, Truth.selects_any, List.any_map, List.any_eq_true,
    Function.comp_apply, hSelects, ne_eq, List.map_eq_nil_iff]
  refine imp_congr_right fun _ => ?_
  constructor
  · rintro ⟨a, ha, hEq⟩
    rwa [hWord a hEq]
  · intro hMem
    exact ⟨value, hMem, rfl⟩

/-- The clause on the parent asks for this one. -/
theorem all_parentId (parentId : Option Int) :
    ((parentId.map fun id =>
        clause "parent_id" (.compared .parentId .equal) [.int id]).toList.all fun c =>
      c.selects row names) = true ↔ ∀ id ∈ parentId, row.parentId = some id := by
  have hValue : Column.parentId.value row = .ofOption row.parentId := rfl
  simp only [clause, all_toList, selects_compared names hValue, Comparison.Relates]
  refine forall₂_congr fun id _ => ?_
  cases row.parentId <;> simp

/-- A time of creation is compared with whole seconds. -/
theorem all_createdClauses (range : TimeRange) :
    ((createdClauses range).all fun c => c.selects row names) = true ↔
      (∀ t ∈ range.after, t.unixSeconds ≤ row.createdAt) ∧
        ∀ t ∈ range.before, row.createdAt ≤ t.unixSeconds := by
  have hValue : Column.createdAt.value row = .ofOption (some row.createdAt) := rfl
  simp only [createdClauses, clause, List.all_append, Bool.and_eq_true, all_toList,
    selects_compared names hValue, Comparison.Relates]
  simp

/-- The clauses of the filters select the rows of the media that the filters admit. -/
theorem all_filterClauses {kind : MediaKind} {rating : Rating} (hKind : row.kind = kind.name)
    (hRating : row.rating = rating.name) (f : Filters) :
    ((filterClauses f).all fun c => c.selects row names) = true ↔ f.Admits row.read := by
  rw [Filters.admits_iff, MediaRow.read_kind hKind, MediaRow.read_rating hRating]
  simp only [filterClauses, List.all_append, Bool.and_eq_true, and_assoc]
  exact and_congr (all_wordsClause "rating" .rating Rating.name (fun _ => Rating.name_injective)
      (congrArg Datum.text hRating) f.ratings) <|
    and_congr (all_wordsClause "media_type" .kind MediaKind.name (fun _ => MediaKind.name_injective)
      (congrArg Datum.text hKind) f.kinds) <|
    and_congr (all_rangeClauses "width" rfl f.width) <|
    and_congr (all_rangeClauses "height" rfl f.height) <|
    and_congr (all_rangeClauses "file_size" rfl f.fileSize) <|
    and_congr (all_rangeClauses "view_count" rfl f.viewCount) <|
    and_congr (all_flagClauses "favorite" rfl f.isFavorite) <|
    and_congr (all_parentClauses f.hasParent) <|
    and_congr (all_parentId f.parentId) <|
    and_congr (all_flagClauses "has_children" rfl f.hasChildren) <|
    all_createdClauses f.created

-- ---------------------------------------------------------------------------
-- Selections
-- ---------------------------------------------------------------------------

/-- A selection that comes from a search selects the rows of media that carry what the query
demands, to the store, and that the filters admit. -/
theorem holdsFor_iff_demands {sel : Selection Condition} {q : Query} {f : Filters}
    (h : compile q f = .ok sel) {kind : MediaKind} {rating : Rating} (hKind : row.kind = kind.name)
    (hRating : row.rating = rating.name) :
    sel.holdsFor row (tagNames s row) = true ↔
      q.Demands (s.CarriesSame row.id) ∧ f.Admits row.read := by
  rw [holdsFor_eq_all (aligned_of_compile h)]
  obtain ⟨included, optional, excluded, hIncluded, hOptional, hExcluded, rfl⟩ := compile_ok h
  simp only [List.all_append, Bool.and_eq_true, all_included hIncluded, all_optional hOptional,
    all_excluded hExcluded, all_filterClauses hKind hRating]
  constructor
  · rintro ⟨⟨⟨hAll, hAny⟩, hNone⟩, hAdmitted⟩
    exact ⟨⟨hAll, hAny, hNone⟩, hAdmitted⟩
  · rintro ⟨⟨hAll, hAny, hNone⟩, hAdmitted⟩
    exact ⟨⟨⟨hAll, hAny⟩, hNone⟩, hAdmitted⟩

/-- These are the rows of the media that match, if the names of the query hold no NUL. -/
theorem holdsFor_iff_matches {sel : Selection Condition} {q : Query} {f : Filters}
    (h : compile q f = .ok sel) (hq : q.IsReadable) {kind : MediaKind} {rating : Rating}
    (hKind : row.kind = kind.name) (hRating : row.rating = rating.name) :
    sel.holdsFor row (tagNames s row) = true ↔ row.read.Matches s q f := by
  rw [holdsFor_iff_demands h hKind hRating, Media.matches_iff_demands,
    Store.demands_carriesSame_iff hq]
  rfl

end Selection

end MediaLibrary
