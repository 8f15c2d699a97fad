import Mathlib
import MediaLibrary.Proofs.Basic
import MediaLibrary.Proofs.Query.Names
import MediaLibrary.Selection.Compile

/-!
# Selection — the names of a group

A group of names is looked up by the forms of its members, each once and in the order in which they
come first. Every member has a form unless it is blank; a blank member is a defect, whatever the
others are. A query that was read from a text has no blank name: so it compiles.

* `normalForm`, `normalNames_eq` — the forms of a group, and what comes of a blank name;
* `mem_normalNames`, `nodup_normalNames` — the forms of a group are those of its members;
* `exists_compile_of_parse` — a query that was read compiles with any filters.
-/

namespace MediaLibrary.Selection

variable {group : TagGroup} {names known : List String}

-- ---------------------------------------------------------------------------
-- Groups
-- ---------------------------------------------------------------------------

/-- The forms in which the names of a group are looked up, each once. -/
def normalForm (names : List String) : List String :=
  (names.map normalName).eraseDups

/-- The normal form has the normal names of all names. -/
theorem mem_normalForm (x : String) :
    x ∈ normalForm names ↔ ∃ name ∈ names, normalName name = x := by
  rw [normalForm, List.mem_eraseDups, List.mem_map]

/-- One more name is kept if its normal name is new. -/
theorem normalForm_concat (names : List String) (name : String) :
    normalForm (names ++ [name]) =
      if (normalForm names).contains (normalName name) then normalForm names
      else normalForm names ++ [normalName name] := by
  simp [normalForm, eraseDups_concat]

/-- The names that are known after one more name of a group. -/
def addName (group : TagGroup) (known : List String) (name : String) : Except Error (List String) :=
  if (normalName name).isEmpty then .error (.defect (.blankName group))
  else if known.contains (normalName name) then .ok known
  else .ok (known ++ [normalName name])

theorem normalNames_concat (group : TagGroup) (names : List String) (name : String) :
    normalNames group (names ++ [name]) =
      (normalNames group names).bind fun known => addName group known name := by
  have hFold (names : List String) : normalNames group names = names.foldlM (addName group) [] :=
    rfl
  simp only [hFold, List.foldlM_append, List.foldlM_cons, List.foldlM_nil, bind_pure]
  rfl

/-- A group is looked up by the forms of its members, unless one of them is blank. -/
theorem normalNames_eq (group : TagGroup) (names : List String) :
    normalNames group names =
      if "" ∈ normalForm names then .error (.defect (.blankName group))
      else .ok (normalForm names) := by
  induction names using List.reverseRecOn with
  | nil => rfl
  | append_singleton names name ih =>
    have hBlank : "" ∈ normalForm (names ++ [name]) ↔
        "" ∈ normalForm names ∨ normalName name = "" := by
      simp [mem_normalForm, or_and_right, exists_or]
    rw [normalNames_concat, ih]
    by_cases hBefore : "" ∈ normalForm names
    · rw [if_pos hBefore, if_pos (hBlank.mpr (.inl hBefore)), Except.bind]
    rw [if_neg hBefore, Except.bind, addName]
    by_cases hName : normalName name = ""
    · rw [if_pos (hBlank.mpr (.inr hName)), if_pos (String.isEmpty_iff.mpr hName)]
    · rw [if_neg (mt hBlank.mp (not_or.mpr ⟨hBefore, hName⟩)),
        if_neg (mt String.isEmpty_iff.mp hName), normalForm_concat]
      split <;> rfl

/-- Names are accepted just if none is blank, and then in normal form. -/
theorem normalNames_eq_ok_iff :
    normalNames group names = .ok known ↔ "" ∉ normalForm names ∧ normalForm names = known := by
  rw [normalNames_eq]
  split <;> simp_all

/-- The names of a group are those of its members, in the form in which they are looked up. -/
theorem mem_normalNames (h : normalNames group names = .ok known) (x : String) :
    x ∈ known ↔ ∃ name ∈ names, normalName name = x := by
  obtain ⟨-, rfl⟩ := normalNames_eq_ok_iff.mp h
  exact mem_normalForm x

/-- No name is bound twice. -/
theorem nodup_normalNames (h : normalNames group names = .ok known) : known.Nodup := by
  obtain ⟨-, rfl⟩ := normalNames_eq_ok_iff.mp h
  exact nodup_eraseDups _

/-- The name of a tag has a form in which it is looked up. -/
theorem normalName_ne_empty {name : String} (h : Tag.IsName name) :
    (normalName name).isEmpty = false := by
  rw [Bool.eq_false_iff]
  intro hEmpty
  have hNil : (normalName name).toList = [] := by
    rw [String.isEmpty_iff.mp hEmpty]
    rfl
  rw [normalName, h.trim_eq, Text.toList_fold, List.map_eq_nil_iff] at hNil
  exact h.ne_nil hNil

/-- Valid names are accepted. -/
theorem exists_normalNames (group : TagGroup) (names : List String)
    (h : ∀ name ∈ names, Tag.IsName name) : ∃ known, normalNames group names = .ok known := by
  refine ⟨_, normalNames_eq_ok_iff.mpr ⟨fun hBlank => ?_, rfl⟩⟩
  obtain ⟨name, hName, hEmpty⟩ := (mem_normalForm _).mp hBlank
  have hNe := normalName_ne_empty (h name hName)
  rw [hEmpty] at hNe
  cases hNe

/-- A query that was read from a text compiles, whatever the filters are. -/
theorem exists_compile_of_parse {text : String} {q : Query} (h : Query.parse text = .ok q)
    (f : Filters) : ∃ sel, compile q f = .ok sel := by
  have hNames := Query.mem_names_of_parse h
  obtain ⟨included, hIncluded⟩ := exists_normalNames .included q.included
    fun name hName => hNames name (Query.mem_names.mpr (.inl hName))
  obtain ⟨optional, hOptional⟩ := exists_normalNames .optional q.optional
    fun name hName => hNames name (Query.mem_names.mpr (.inr (.inl hName)))
  obtain ⟨excluded, hExcluded⟩ := exists_normalNames .excluded q.excluded
    fun name hName => hNames name (Query.mem_names.mpr (.inr (.inr hName)))
  rw [compile, hIncluded, hOptional, hExcluded]
  exact ⟨_, rfl⟩

end MediaLibrary.Selection
