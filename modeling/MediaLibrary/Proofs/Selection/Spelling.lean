import Mathlib
import MediaLibrary.Proofs.Selection.Binding
import MediaLibrary.Proofs.Selection.Names
import MediaLibrary.Proofs.Text.Trim

/-!
# Selection — spellings

How names are spelled does not matter to a search: blanks around them, the case of `A` to `Z`, and
names that come again in another spelling. All that is left of the names of a group is its normal
form, and a search compiles to the same selection for all groups of one normal form. The parameters
of a group are its normal form, a blank name is a defect of the first group that has one, and
conditions are only missing where nothing is asked for.

* `IsSpelling`, `isSpelling_iff` — two texts spell one name;
* `Respelled`, `normalForm_of_respelled` — two groups that name the same;
* `IsNormalForm`, `isNormalForm_normalForm` — the normal form of a group;
* `compile_eq` — what a search compiles to, by the normal forms of its groups;
* `compile_follows_normal_form` — spellings, parameters, faults and empty searches.
-/

namespace MediaLibrary

-- ---------------------------------------------------------------------------
-- Spellings
-- ---------------------------------------------------------------------------

/-- The names of a group of a query. -/
def Query.group (q : Query) : TagGroup → List String
  | .included => q.included
  | .optional => q.optional
  | .excluded => q.excluded

namespace Selection

variable {a b : String} {names names' : List String}

/-- Two texts spell one name: without blanks around them, they differ at most in the case of `A` to
`Z`. -/
def IsSpelling (a b : String) : Prop :=
  ∃ core core', Text.Surrounds a core ∧ Text.Surrounds b core' ∧
    core.map Char.toLower = core'.map Char.toLower

/-- Spellings of one name are looked up alike, and only these are. -/
theorem isSpelling_iff : IsSpelling a b ↔ normalName a = normalName b := by
  constructor
  · rintro ⟨core, core', ha, hb, hSame⟩
    have hLower : Text.fold (String.ofList core) = Text.fold (String.ofList core') := by
      rw [Text.fold, Text.fold, String.toList_ofList, String.toList_ofList, hSame]
    rw [normalName, normalName, Text.trim_of_surrounds ha, Text.trim_of_surrounds hb,
      Text.fold_trim, Text.fold_trim, hLower]
  · intro hSame
    refine ⟨_, _, Text.surrounds_trim a, Text.surrounds_trim b, ?_⟩
    rw [← Text.toList_fold, ← Text.toList_fold]
    exact congrArg String.toList hSame

/-- One change that leaves what a group names: a name is spelled in another way, or a name that is
there comes again, spelled in any way. -/
inductive Respelled : List String → List String → Prop where
  | spelled {a b : String} (before after : List String) : IsSpelling a b →
      Respelled (before ++ a :: after) (before ++ b :: after)
  | again {a b : String} (before between after : List String) : IsSpelling a b →
      Respelled (before ++ a :: (between ++ after)) (before ++ a :: (between ++ b :: after))

/-- Names spelled another way have the same normal form. -/
theorem normalForm_of_respelled (h : Respelled names names') :
    normalForm names = normalForm names' := by
  cases h with
  | spelled before after hSpelling =>
    rw [normalForm, normalForm, List.map_append, List.map_append, List.map_cons, List.map_cons,
      isSpelling_iff.mp hSpelling]
  | @again a b before between after hSpelling =>
    have hMem : normalName b ∈ (before ++ a :: between).map normalName := by
      rw [← isSpelling_iff.mp hSpelling]
      exact List.mem_map_of_mem (by simp)
    have hAgain := eraseDups_append_cons hMem (after.map normalName)
    rw [normalForm, normalForm]
    simpa using hAgain.symm

/-- Groups that come from each other by any such changes have one normal form. -/
theorem normalForm_of_eqvGen (h : Relation.EqvGen Respelled names names') :
    normalForm names = normalForm names' := by
  induction h with
  | rel _ _ hStep => exact normalForm_of_respelled hStep
  | refl _ => rfl
  | symm _ _ _ ih => exact ih.symm
  | trans _ _ _ _ _ ih ih' => exact ih.trans ih'

-- ---------------------------------------------------------------------------
-- Normal forms
-- ---------------------------------------------------------------------------

/-- A normal name has no blanks around it. -/
theorem isTrimmed_normalName (name : String) : Text.IsTrimmed (normalName name) := by
  rw [normalName, Text.fold_trim]
  exact Text.isTrimmed_trim _

/-- To normalise a second time changes nothing. -/
theorem normalName_normalName (name : String) : normalName (normalName name) = normalName name := by
  rw [normalName, normalName, ← Text.fold_trim, Text.trim_trim, Text.fold_fold]

/-- What is looked up is a spelling of the name. -/
theorem isSpelling_normalName (name : String) : IsSpelling name (normalName name) :=
  isSpelling_iff.mpr (normalName_normalName name).symm

/-- A name is a spelling of the normal name that it is brought to. -/
theorem isSpelling_iff_of_mem {name text : String} (h : text ∈ normalForm names) :
    IsSpelling name text ↔ normalName name = text := by
  obtain ⟨name', -, rfl⟩ := (mem_normalForm text).mp h
  rw [isSpelling_iff, normalName_normalName]

/-- Only a blank name has an empty normal form. -/
theorem normalName_eq_empty_iff {name : String} : normalName name = "" ↔ Text.trim name = "" :=
  Text.fold_eq_empty_iff

/-- These texts are the names of a group in normal form: each name once, trimmed and without
capitals from `A` to `Z`, and in the order in which they are named first. -/
structure IsNormalForm (names texts : List String) : Prop where
  named : ∀ text ∈ texts, ∃ name ∈ names, IsSpelling name text
  complete : ∀ name ∈ names, ∃ text ∈ texts, IsSpelling name text
  trimmed : ∀ text ∈ texts, Text.IsTrimmed text
  lower : ∀ text ∈ texts, ∀ c ∈ text.toList, c.isUpper = false
  distinct : texts.Nodup
  ordered : texts.Pairwise fun text text' =>
    ∃ before name after, names = before ++ name :: after ∧ IsSpelling name text ∧
      ∀ earlier ∈ before, ¬IsSpelling earlier text'

/-- The texts that are bound for a group are its names in normal form. -/
theorem isNormalForm_normalForm (names : List String) : IsNormalForm names (normalForm names) where
  named := by
    intro text hText
    obtain ⟨name, hName, rfl⟩ := (mem_normalForm text).mp hText
    exact ⟨name, hName, isSpelling_normalName name⟩
  complete := fun name hName =>
    ⟨_, (mem_normalForm _).mpr ⟨name, hName, rfl⟩, isSpelling_normalName name⟩
  trimmed := by
    intro text hText
    obtain ⟨name, -, rfl⟩ := (mem_normalForm text).mp hText
    exact isTrimmed_normalName name
  lower := by
    intro text hText c hc
    obtain ⟨name, -, rfl⟩ := (mem_normalForm text).mp hText
    exact Text.not_isUpper_of_mem_fold hc
  distinct := nodup_eraseDups _
  ordered := by
    refine (pairwise_eraseDups (names.map normalName)).imp_of_mem ?_
    rintro text text' hText hText' ⟨-, before, after, hSplit, hFirst⟩
    obtain ⟨earlier, rest, rfl, rfl, hRest⟩ := List.map_eq_append_iff.mp hSplit
    obtain ⟨name, later, rfl, hName, -⟩ := List.map_eq_cons_iff.mp hRest
    refine ⟨earlier, name, later, rfl, (isSpelling_iff_of_mem hText).mpr hName, ?_⟩
    intro name' hName' hSpelling
    rw [isSpelling_iff_of_mem hText'] at hSpelling
    exact hFirst (hSpelling ▸ List.mem_map_of_mem hName')

end Selection

-- ---------------------------------------------------------------------------
-- Queries
-- ---------------------------------------------------------------------------

open Selection

/-- The query with the normal forms of its groups. -/
def Query.normal (q : Query) : Query :=
  ⟨normalForm q.included, normalForm q.optional, normalForm q.excluded⟩

theorem Query.group_normal (q : Query) (group : TagGroup) :
    q.normal.group group = normalForm (q.group group) := by
  cases group <;> rfl

/-- A blank name is what is left of it in the normal form. -/
theorem Query.blank_mem_normal_iff {q : Query} {group : TagGroup} :
    "" ∈ q.normal.group group ↔ ∃ name ∈ q.group group, Text.trim name = "" := by
  simp only [group_normal, mem_normalForm, normalName_eq_empty_iff]

/-- Queries whose groups are respelled have one normal form. -/
theorem Query.normal_eq {q q' : Query}
    (h : ∀ group, Relation.EqvGen Respelled (q.group group) (q'.group group)) :
    q.normal = q'.normal := by
  have hIncluded := normalForm_of_eqvGen (h .included)
  have hOptional := normalForm_of_eqvGen (h .optional)
  have hExcluded := normalForm_of_eqvGen (h .excluded)
  simp only [group] at hIncluded hOptional hExcluded
  rw [normal, normal, hIncluded, hOptional, hExcluded]

namespace Selection

variable {q : Query} {f : Filters} {sel : Selection Condition} {e : Error}

/-- The clauses of the names of a query, as they are. -/
def nameClauses (q : Query) : List (Clause Condition) :=
  q.included.map (fun name => clause "include" .carries [.text name])
    ++ textsClause "optional" .carriesAny q.optional
    ++ textsClause "exclude" .carriesNone q.excluded

/-- What a search compiles to is told by the normal form of its query: the first group that holds a
blank name, or the clauses of all names and filters. -/
theorem compile_eq (q : Query) (f : Filters) :
    compile q f =
      if "" ∈ q.normal.included then .error (.defect (.blankName .included))
      else if "" ∈ q.normal.optional then .error (.defect (.blankName .optional))
      else if "" ∈ q.normal.excluded then .error (.defect (.blankName .excluded))
      else .ok ⟨nameClauses q.normal ++ filterClauses f⟩ := by
  rw [compile, normalNames_eq, normalNames_eq, normalNames_eq, Query.normal]
  split_ifs <;> rfl

/-- A selection that is compiled has no blank name, and has the clauses of the normal query. -/
theorem compile_eq_ok (h : compile q f = .ok sel) :
    (∀ group, "" ∉ q.normal.group group) ∧ sel = ⟨nameClauses q.normal ++ filterClauses f⟩ := by
  rw [compile_eq] at h
  split_ifs at h with hIncluded hOptional hExcluded
  cases h
  refine ⟨fun group => ?_, rfl⟩
  cases group
  · exact hIncluded
  · exact hOptional
  · exact hExcluded

/-- A search that does not compile has a blank name, and a defect is the first group that has. -/
theorem compile_eq_error (h : compile q f = .error e) : ∃ before group after,
    [TagGroup.included, .optional, .excluded] = before ++ group :: after ∧
      (∀ group' ∈ before, "" ∉ q.normal.group group') ∧ "" ∈ q.normal.group group ∧
      e = .defect (.blankName group) := by
  rw [compile_eq] at h
  split_ifs at h with hIncluded hOptional hExcluded <;> cases h
  · exact ⟨[], .included, [.optional, .excluded], rfl, by simp, hIncluded, rfl⟩
  · exact ⟨[.included], .optional, [.excluded], rfl, List.forall_mem_singleton.mpr hIncluded,
      hOptional, rfl⟩
  · exact ⟨[.included, .optional], .excluded, [], rfl,
      List.forall_mem_cons.mpr ⟨hIncluded, List.forall_mem_singleton.mpr hOptional⟩, hExcluded, rfl⟩

-- ---------------------------------------------------------------------------
-- Searches for nothing
-- ---------------------------------------------------------------------------

/-- A group without names adds no clause. -/
theorem textsClause_eq_nil_iff {facet : String} {condition : Nat → Condition}
    {texts : List String} : textsClause facet condition texts = [] ↔ texts = [] := by
  cases texts <;> simp [textsClause]

theorem rangeClauses_eq_nil_iff {facet : String} {column : Column} {range : IntRange} :
    rangeClauses facet column range = [] ↔ range = {} := by
  rcases range with ⟨_ | _, _ | _⟩ <;> simp [rangeClauses]

theorem flagClauses_eq_nil_iff {facet : String} {column : Column} {flag : Option Bool} :
    flagClauses facet column flag = [] ↔ flag = none := by
  cases flag <;> simp [flagClauses]

theorem parentClauses_eq_nil_iff {hasParent : Option Bool} :
    parentClauses hasParent = [] ↔ hasParent = none := by
  rcases hasParent with _ | _ | _ <;> simp [parentClauses]

theorem createdClauses_eq_nil_iff {range : TimeRange} :
    createdClauses range = [] ↔ range = {} := by
  rcases range with ⟨_ | _, _ | _⟩ <;> simp [createdClauses]

/-- Every filter adds a condition. -/
theorem filterClauses_eq_nil_iff {f : Filters} : filterClauses f = [] ↔ f.isEmpty = true := by
  rw [Filters.isEmpty, beq_iff_eq]
  obtain ⟨ratings, kinds, width, height, fileSize, viewCount, isFavorite, hasParent, hasChildren,
    parentId, created⟩ := f
  simp only [filterClauses, List.append_eq_nil_iff, textsClause_eq_nil_iff, List.map_eq_nil_iff,
    rangeClauses_eq_nil_iff, flagClauses_eq_nil_iff, parentClauses_eq_nil_iff,
    createdClauses_eq_nil_iff, Option.toList_eq_nil_iff, Option.map_eq_none_iff, Filters.mk.injEq]
  tauto

/-- No name is lost altogether: only no names have no normal form. -/
theorem normalForm_eq_nil_iff {names : List String} : normalForm names = [] ↔ names = [] := by
  simp only [List.eq_nil_iff_forall_not_mem, mem_normalForm]
  constructor
  · intro hNone name hName
    exact hNone _ ⟨name, hName, rfl⟩
  · rintro hNone text ⟨name, hName, -⟩
    exact hNone name hName

/-- Every name adds a condition, or is part of one. -/
theorem nameClauses_normal_eq_nil_iff : nameClauses q.normal = [] ↔ q.isEmpty = true := by
  simp only [nameClauses, Query.normal, Query.isEmpty, List.append_eq_nil_iff, List.map_eq_nil_iff,
    textsClause_eq_nil_iff, normalForm_eq_nil_iff, Bool.and_eq_true, List.isEmpty_iff]

-- ---------------------------------------------------------------------------
-- Facets
-- ---------------------------------------------------------------------------

/-- The parameters of the clauses of one facet. -/
def facetParams (clauses : List (Clause Condition)) (facet : String) : List Param :=
  (clauses.filter (·.facet == some facet)).flatMap (·.params)

section Facets

variable {clauses : List (Clause Condition)} {facet : String}

theorem facetParams_append (before after : List (Clause Condition)) (facet : String) :
    facetParams (before ++ after) facet = facetParams before facet ++ facetParams after facet := by
  rw [facetParams, List.filter_append, List.flatMap_append]
  rfl

/-- Clauses of a facet give it all their parameters. -/
theorem facetParams_own (h : ∀ c ∈ clauses, c.OfFacet facet) :
    facetParams clauses facet = clauses.flatMap (·.params) := by
  rw [facetParams, List.filter_eq_self.mpr fun c hc => beq_iff_eq.mpr (h c hc).facet_eq]

/-- Clauses of other facets give it none. -/
theorem facetParams_other (h : ∀ c ∈ clauses, ∃ facet', facet' ≠ facet ∧ c.OfFacet facet') :
    facetParams clauses facet = [] := by
  have hNone : clauses.filter (·.facet == some facet) = [] := by
    rw [List.filter_eq_nil_iff]
    intro c hc
    obtain ⟨facet', hNe, hFacet⟩ := h c hc
    simpa [hFacet.facet_eq] using hNe
  rw [facetParams, hNone, List.flatMap_nil]

/-- The parameters of a group are its normal names. -/
theorem params_textsClause (facet : String) (condition : Nat → Condition) (texts : List String) :
    (textsClause facet condition texts).flatMap (·.params) = texts.map .text := by
  cases texts <;> simp [textsClause, clause]

/-- No filter has the facet of a group of names. -/
theorem facetParams_filterClauses (f : Filters) (group : TagGroup) :
    facetParams (filterClauses f) group.name = [] := by
  have hGroup : group.name ∉ filterFacets := by
    cases group <;> decide
  refine facetParams_other fun c hc => ?_
  obtain ⟨facet, hMem, hFacet⟩ := ofFacet_filterClauses f c hc
  exact ⟨facet, ne_of_mem_of_not_mem hMem hGroup, hFacet⟩

/-- Each group has its own facet. -/
theorem facetParams_nameClauses (q : Query) (group : TagGroup) :
    facetParams (nameClauses q) group.name = (q.group group).map .text := by
  have hIncluded : ∀ c ∈ q.included.map (fun name => clause "include" .carries [.text name]),
      c.OfFacet "include" :=
    List.forall_mem_map.mpr fun _ _ => ⟨rfl, rfl⟩
  have hParams : (q.included.map fun name => clause "include" .carries [.text name]).flatMap
      (·.params) = q.included.map .text := by
    rw [List.flatMap_map, List.map_eq_flatMap]
    rfl
  have hOptional : ∀ c ∈ textsClause "optional" .carriesAny q.optional, c.OfFacet "optional" :=
    ofFacet_textsClause _ _ fun _ => rfl
  have hExcluded : ∀ c ∈ textsClause "exclude" .carriesNone q.excluded, c.OfFacet "exclude" :=
    ofFacet_textsClause _ _ fun _ => rfl
  have hOther {facet facet' : String} {clauses : List (Clause Condition)}
      (h : ∀ c ∈ clauses, c.OfFacet facet') (hNe : facet' ≠ facet) :
      facetParams clauses facet = [] :=
    facetParams_other fun c hc => ⟨facet', hNe, h c hc⟩
  rw [nameClauses, facetParams_append, facetParams_append]
  cases group with
  | included =>
    change facetParams _ "include" ++ facetParams _ "include" ++ facetParams _ "include" = _
    rw [facetParams_own hIncluded, hOther hOptional (by decide), hOther hExcluded (by decide),
      hParams, List.append_nil, List.append_nil]
    rfl
  | optional =>
    change facetParams _ "optional" ++ facetParams _ "optional" ++ facetParams _ "optional" = _
    rw [hOther hIncluded (by decide), facetParams_own hOptional, hOther hExcluded (by decide),
      params_textsClause, List.append_nil, List.nil_append]
    rfl
  | excluded =>
    change facetParams _ "exclude" ++ facetParams _ "exclude" ++ facetParams _ "exclude" = _
    rw [hOther hIncluded (by decide), hOther hOptional (by decide), facetParams_own hExcluded,
      params_textsClause, List.append_nil, List.nil_append]
    rfl

end Facets

end Selection

/-- Searches of one normal form compile to the same, so it does not matter how the names of a group
are spelled and which of them come again. If a search compiles, the parameters of each group are the
normal form of its names, and there are no conditions just if nothing is asked for. It does not
compile just if some name is blank, and then this is a defect of the first group that has a blank
name. -/
theorem compile_follows_normal_form (q : Query) (f : Filters) :
    (∀ q' : Query, q.normal = q'.normal → compile q f = compile q' f) ∧
      (∀ q' : Query, (∀ group, Relation.EqvGen Respelled (q.group group) (q'.group group)) →
        compile q f = compile q' f) ∧
      (∀ sel, compile q f = .ok sel →
        (∀ group, ∃ texts, facetParams sel.clauses group.name = texts.map .text ∧
          IsNormalForm (q.group group) texts) ∧
        (sel.conditions = [] ↔ q.isEmpty = true ∧ f.isEmpty = true)) ∧
      ((∃ e, compile q f = .error e) ↔ ∃ group, ∃ name ∈ q.group group, Text.trim name = "") ∧
      ∀ e, compile q f = .error e → ∃ before group after,
        [TagGroup.included, .optional, .excluded] = before ++ group :: after ∧
          (∀ group' ∈ before, ∀ name ∈ q.group group', Text.trim name ≠ "") ∧
          (∃ name ∈ q.group group, Text.trim name = "") ∧
          e.code = "E_INTERNAL" ∧ e.message = "内部错误: " ++ group.name ++ " 组中存在空标签名" := by
  have hCongr (q' : Query) (hNormal : q.normal = q'.normal) : compile q f = compile q' f := by
    rw [compile_eq, compile_eq, hNormal]
  refine ⟨hCongr, fun q' hSame => hCongr q' (Query.normal_eq hSame), ?_, ?_, ?_⟩
  · intro sel hOk
    obtain ⟨-, rfl⟩ := compile_eq_ok hOk
    refine ⟨fun group => ⟨q.normal.group group, ?_, ?_⟩, ?_⟩
    · rw [facetParams_append, facetParams_nameClauses, facetParams_filterClauses, List.append_nil]
    · rw [Query.group_normal]
      exact isNormalForm_normalForm _
    · rw [conditions, List.map_eq_nil_iff, List.append_eq_nil_iff, filterClauses_eq_nil_iff,
        nameClauses_normal_eq_nil_iff]
  · constructor
    · rintro ⟨e, hFault⟩
      obtain ⟨-, group, -, -, -, hBlank, -⟩ := compile_eq_error hFault
      exact ⟨group, Query.blank_mem_normal_iff.mp hBlank⟩
    · rintro ⟨group, hBlank⟩
      cases hCompile : compile q f with
      | error e => exact ⟨e, rfl⟩
      | ok sel =>
        have hNone := (compile_eq_ok hCompile).1 group
        exact absurd (Query.blank_mem_normal_iff.mpr hBlank) hNone
  · intro e hFault
    obtain ⟨before, group, after, hOrder, hBefore, hBlank, rfl⟩ := compile_eq_error hFault
    refine ⟨before, group, after, hOrder, fun group' hGroup' name hName hTrim => ?_,
      Query.blank_mem_normal_iff.mp hBlank, rfl, ?_⟩
    · exact hBefore group' hGroup' (Query.blank_mem_normal_iff.mpr ⟨name, hName, hTrim⟩)
    · rw [String.append_assoc]
      rfl

/-- One cat in two spellings and a dog are asked for as a cat and a dog are; and a blank name among
the optional ones is found before an empty one among the excluded ones. -/
theorem compile_follows_normal_form_ofCat :
    compile { included := [" Cat", "dog", "cAT\u3000"] } {} =
        compile { included := ["cat", "DOG"] } {} ∧
      ∃ e, compile { included := ["cat"], optional := ["\t"], excluded := [""] } {} = .error e ∧
        e.message = "内部错误: optional 组中存在空标签名" := by
  constructor
  · have hCats : IsSpelling " Cat" "cAT\u3000" := isSpelling_iff.mpr (by decide)
    have hCat : IsSpelling " Cat" "cat" := isSpelling_iff.mpr (by decide)
    have hDog : IsSpelling "dog" "DOG" := isSpelling_iff.mpr (by decide)
    have hTwo : Relation.EqvGen Respelled [" Cat", "dog"] [" Cat", "dog", "cAT\u3000"] :=
      .rel _ _ (.again [] ["dog"] [] hCats)
    have hSmall : Relation.EqvGen Respelled [" Cat", "dog"] ["cat", "DOG"] :=
      .trans _ ["cat", "dog"] _ (.rel _ _ (.spelled [] ["dog"] hCat))
        (.rel _ _ (.spelled ["cat"] [] hDog))
    refine (compile_follows_normal_form { included := [" Cat", "dog", "cAT\u3000"] } {}).2.1
      { included := ["cat", "DOG"] } fun group => ?_
    cases group with
    | included => exact .trans _ _ _ (.symm _ _ hTwo) hSmall
    | optional => exact .refl _
    | excluded => exact .refl _
  · obtain ⟨-, -, -, hFails, hFault⟩ := compile_follows_normal_form
      { included := ["cat"], optional := ["\t"], excluded := [""] } {}
    obtain ⟨e, he⟩ := hFails.mpr ⟨.optional, "\t", List.mem_singleton_self _, by decide⟩
    refine ⟨e, he, ?_⟩
    obtain ⟨before, group, after, hOrder, hBefore, ⟨name, hName, hTrim⟩, -, hMessage⟩ := hFault e he
    rcases before with _ | ⟨_, _ | ⟨_, before⟩⟩
    · cases hOrder
      obtain rfl := List.mem_singleton.mp hName
      exact absurd hTrim (by decide)
    · cases hOrder
      exact hMessage
    · obtain ⟨-, rfl, -⟩ : _ ∧ TagGroup.optional = _ ∧ _ := by
        simpa only [List.cons_append, List.cons.injEq] using hOrder
      have hTab := hBefore .optional (by simp) "\t" (List.mem_singleton_self _)
      exact absurd (by decide) hTab

end MediaLibrary
