import MediaLibrary.Query.Parser

/-!
# Query — the names in a query that was read

A query that was read from a text names tags only by characters of tag names, and by
at least one of them. No such character is a blank, so trimming does nothing to a
name, and a query that was read never names a tag by nothing.

* `Query.mem_names_of_parse` — the names of a query are names of tags;
* `Tag.IsName.trim_eq` — trimming does nothing to the name of a tag.
-/

namespace MediaLibrary

-- ---------------------------------------------------------------------------
-- Names of tags
-- ---------------------------------------------------------------------------

/-- A text that can be typed as the name of a tag. -/
structure Tag.IsName (name : String) : Prop where
  ne_nil : name.toList ≠ []
  chars : ∀ c ∈ name.toList, Tag.isTagChar c = true

/-- No character of a name is a blank. -/
theorem Tag.isBlank_of_isTagChar {c : Char} (h : Tag.isTagChar c = true) :
    Text.isBlank c = false := by
  simp only [Tag.isTagChar, Bool.and_eq_true, decide_eq_true_eq] at h
  obtain ⟨⟨⟨hLow, hHigh⟩, -⟩, -⟩ := h
  simp only [Text.isBlank, Bool.or_eq_false_iff, Bool.and_eq_false_iff, decide_eq_false_iff_not,
    beq_eq_false_iff_ne]
  omega

/-- A valid name has no blanks around it. -/
theorem Tag.IsName.trim_eq {name : String} (h : Tag.IsName name) : Text.trim name = name := by
  have hKept {cs : List Char} (hcs : ∀ c ∈ cs, Tag.isTagChar c = true) :
      cs.dropWhile Text.isBlank = cs := by
    cases cs with
    | nil => rfl
    | cons c rest =>
      have hBlank := Tag.isBlank_of_isTagChar (hcs c (List.mem_cons_self ..))
      rw [List.dropWhile_cons_of_neg (by simp [hBlank])]
  have hReverse : ∀ c ∈ name.toList.reverse, Tag.isTagChar c = true :=
    fun c hc => h.chars c (List.mem_reverse.mp hc)
  rw [Text.trim, Text.trimStart, Text.trimEnd, hKept h.chars, hKept hReverse,
    List.reverse_reverse, String.ofList_toList]

namespace Query

-- ---------------------------------------------------------------------------
-- Terms
-- ---------------------------------------------------------------------------

/-- The name in a term. -/
def Term.name : Term → String
  | .plain name => name
  | .marked _ name => name

theorem all_isTagChar_of_firstInvalid? {position : Nat} {cs : List Char}
    (h : firstInvalid? position cs = none) : ∀ c ∈ cs, Tag.isTagChar c = true := by
  induction cs generalizing position with
  | nil => simp
  | cons c rest ih =>
    rw [firstInvalid?] at h
    split at h
    · rename_i hc
      intro c' hc'
      rcases List.mem_cons.mp hc' with rfl | hc'
      · exact hc
      · exact ih h c' hc'
    · cases h

/-- A name that is read is valid. -/
theorem isName_of_readName {start position : Nat} {cs : List Char} {name : String}
    (h : readName start position cs = .ok name) : Tag.IsName name := by
  unfold readName at h
  split at h
  · cases h
  · rename_i hEmpty
    split at h
    · cases h
    · rename_i hInvalid
      cases h
      refine ⟨?_, ?_⟩
      · simpa using hEmpty
      · rw [String.toList_ofList]
        exact all_isTagChar_of_firstInvalid? hInvalid

theorem isName_of_readTerm {word : Nat × List Char} {term : Term} (h : readTerm word = .ok term) :
    Tag.IsName term.name := by
  have hMap {start position : Nat} {cs : List Char} {f : String → Term}
      (hf : ∀ name, (f name).name = name) (h : (readName start position cs).map f = .ok term) :
      Tag.IsName term.name := by
    cases hName : readName start position cs with
    | error e => rw [hName] at h; cases h
    | ok name =>
      rw [hName] at h
      cases h
      rw [hf]
      exact isName_of_readName hName
  simp only [readTerm] at h
  split at h
  · exact hMap (fun _ => rfl) h
  · exact hMap (fun _ => rfl) h
  · exact hMap (fun _ => rfl) h

-- ---------------------------------------------------------------------------
-- Groups
-- ---------------------------------------------------------------------------

/-- The names in a query, group by group. -/
def names (q : Query) : List String :=
  q.included ++ q.optional ++ q.excluded

theorem mem_names {q : Query} {name : String} :
    name ∈ q.names ↔ name ∈ q.included ∨ name ∈ q.optional ∨ name ∈ q.excluded := by
  simp [names]

/-- One more term brings no name but its own. -/
theorem mem_names_add {g : Grouping} {term : Term} {name : String}
    (h : name ∈ (g.add term).query.names) : name ∈ g.query.names ∨ name = term.name := by
  unfold Grouping.add at h
  split at h
  · simp only [mem_names, List.mem_append, List.mem_singleton, Term.name] at h ⊢
    grind
  · simp only [mem_names, List.mem_append, List.mem_singleton, Term.name] at h ⊢
    grind
  · split at h
    · exact .inl h
    · split at h
      · simp only [mem_names, List.mem_append, List.mem_singleton, Term.name] at h ⊢
        grind
      · simp only [mem_names, List.mem_append, List.mem_singleton, Term.name] at h ⊢
        grind

/-- No name comes from anywhere but the terms. -/
theorem mem_names_foldl {terms : List Term} {g : Grouping} {name : String}
    (h : name ∈ (terms.foldl Grouping.add g).query.names) :
    name ∈ g.query.names ∨ ∃ term ∈ terms, name = term.name := by
  induction terms generalizing g with
  | nil => exact .inl h
  | cons term rest ih =>
    rcases ih h with hAdd | ⟨term', hTerm', rfl⟩
    · rcases mem_names_add hAdd with hOld | rfl
      · exact .inl hOld
      · exact .inr ⟨term, List.mem_cons_self .., rfl⟩
    · exact .inr ⟨term', List.mem_cons_of_mem term hTerm', rfl⟩

/-- Each term is read from a word. -/
theorem exists_word_of_mapM {words : List (Nat × List Char)} {terms : List Term}
    (h : words.mapM readTerm = .ok terms) :
    ∀ term ∈ terms, ∃ word ∈ words, readTerm word = .ok term := by
  induction words generalizing terms with
  | nil =>
    cases h
    simp
  | cons word rest ih =>
    rw [List.mapM_cons] at h
    cases hTerm : readTerm word with
    | error e => rw [hTerm] at h; cases h
    | ok term =>
      cases hTerms : rest.mapM readTerm with
      | error e => rw [hTerm, hTerms] at h; cases h
      | ok terms' =>
        rw [hTerm, hTerms] at h
        cases h
        intro term' hTerm'
        rcases List.mem_cons.mp hTerm' with rfl | hTerm'
        · exact ⟨word, List.mem_cons_self .., hTerm⟩
        · obtain ⟨word', hWord', hRead⟩ := ih hTerms term' hTerm'
          exact ⟨word', List.mem_cons_of_mem word hWord', hRead⟩

/-- A query that was read names tags. -/
theorem mem_names_of_parse {text : String} {q : Query} (h : parse text = .ok q) :
    ∀ name ∈ q.names, Tag.IsName name := by
  unfold parse at h
  cases hTerms : (Text.wordsAt 0 text.toList).mapM readTerm with
  | error e => rw [hTerms] at h; cases h
  | ok terms =>
    rw [hTerms] at h
    cases h
    intro name hName
    rcases mem_names_foldl hName with hNone | ⟨term, hTerm, rfl⟩
    · cases hNone
    · obtain ⟨word, -, hRead⟩ := exists_word_of_mapM hTerms term hTerm
      exact isName_of_readTerm hRead

end Query

end MediaLibrary
