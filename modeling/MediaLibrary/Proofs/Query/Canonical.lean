import MediaLibrary.Proofs.Query.Grammar

/-!
# Query — canonical texts

A query has a canonical text, and reading it gives the query back, provided that the
query could have come from a text at all: its names are names of tags, and none of
the included ones would be read as another term. Every query that was read is of this
kind, so its canonical text says the same and is its own canonical text.

* `IsCanonical` — queries that their text gives back;
* `words_text` — the words of a canonical text are the terms of the query;
* `isCanonical_of_parse` — a query that was read is canonical;
* `parse_canonical_text` — reading undoes writing for these queries and no others.
-/

namespace MediaLibrary.Query

/-- All names are names of tags, and the included ones begin with no mark and are not the
word `or`. -/
structure IsCanonical (q : Query) : Prop where
  names : ∀ name ∈ q.names, Tag.IsName name
  included : ∀ name ∈ q.included, IsPlain name.toList

-- ---------------------------------------------------------------------------
-- The words of a canonical text
-- ---------------------------------------------------------------------------

/-- The terms are the plain names, then the marked ones. -/
theorem toList_terms (q : Query) :
    q.terms.map String.toList =
      q.included.map String.toList ++ (q.optional.map (fun name => '~' :: name.toList) ++
        q.excluded.map fun name => '-' :: name.toList) := by
  have hMark (m : Tag.Mark) (name : String) :
      (m.char.toString ++ name).toList = m.char :: name.toList := by
    rw [String.toList_append, Char.toString, String.toList_singleton, List.singleton_append]
  simp only [terms, List.map_append, List.map_map, List.append_assoc, Function.comp_def, hMark]
  rfl

/-- A name behind a mark is a term. -/
theorem isTermText_marked {name : String} (h : Tag.IsName name) (m : Tag.Mark) :
    IsTermText (m.char :: name.toList) where
  chars := by
    intro c hc
    rcases List.mem_cons.mp hc with rfl | hc
    · exact isTagChar_mark m
    · exact h.chars c hc
  ne_mark := by
    intro m' hEq
    simp only [List.cons.injEq] at hEq
    exact h.ne_nil hEq.2

/-- A valid name that is plain is a term text. -/
theorem IsPlain.isTermText {name : String} (hPlain : IsPlain name.toList) (h : Tag.IsName name) :
    IsTermText name.toList where
  chars := h.chars
  ne_mark := by
    intro m hEq
    exact hPlain.unmarked m (by rw [hEq]; rfl)

/-- A term text is one word. -/
theorem IsTermText.noSeparator {word : List Char} (h : IsTermText word) :
    ∀ c ∈ word, Text.isSeparator c = false := by
  intro c hc
  cases hSeparator : Text.isSeparator c with
  | false => rfl
  | true =>
    have hNot := Tag.isTagChar_of_isSeparator hSeparator
    rw [h.chars c hc] at hNot
    cases hNot

namespace IsCanonical

variable {q : Query}

/-- Each term of a canonical query is a term text. -/
theorem terms_isTermText (h : q.IsCanonical) :
    ∀ word ∈ q.terms.map String.toList, word ≠ [] ∧ IsTermText word := by
  intro word hWord
  simp only [toList_terms, List.mem_append, List.mem_map] at hWord
  rcases hWord with ⟨name, hName, rfl⟩ | ⟨name, hName, rfl⟩ | ⟨name, hName, rfl⟩
  · have hIs := h.names name (mem_names.mpr (.inl hName))
    exact ⟨hIs.ne_nil, (h.included name hName).isTermText hIs⟩
  · have hIs := h.names name (mem_names.mpr (.inr (.inl hName)))
    exact ⟨List.cons_ne_nil _ _, isTermText_marked hIs .optional⟩
  · have hIs := h.names name (mem_names.mpr (.inr (.inr hName)))
    exact ⟨List.cons_ne_nil _ _, isTermText_marked hIs .exclude⟩

/-- The words of the canonical text are the terms. -/
theorem words_text (h : q.IsCanonical) : Text.words q.text = q.terms.map String.toList := by
  refine Text.words_intercalate fun term hTerm => ?_
  obtain ⟨hNe, hText⟩ := h.terms_isTermText term.toList (List.mem_map_of_mem hTerm)
  exact ⟨hNe, hText.noSeparator⟩

end IsCanonical

-- ---------------------------------------------------------------------------
-- What terms say
-- ---------------------------------------------------------------------------

/-- Marked names are read as excluded ones. -/
theorem reads_excluded (nextOptional : Bool) (names : List String) :
    Reads nextOptional (names.map fun name => '-' :: name.toList) { excluded := names } := by
  induction names with
  | nil => exact .nil
  | cons name rest ih => simpa using @Reads.excluded _ name.toList _ _ ih

/-- Names with the other mark are read as optional ones. -/
theorem Reads.optional_append {nextOptional : Bool} {ws : List (List Char)} {q : Query}
    (h : Reads nextOptional ws q) (names : List String) :
    Reads nextOptional (names.map (fun name => '~' :: name.toList) ++ ws)
      { q with optional := names ++ q.optional } := by
  induction names with
  | nil => exact h
  | cons name rest ih => simpa using @Reads.marked _ name.toList _ _ ih

/-- Plain names are read as included ones as long as no keyword is pending. -/
theorem Reads.included_append {ws : List (List Char)} {q : Query} (h : Reads false ws q)
    {names : List String} (hPlain : ∀ name ∈ names, IsPlain name.toList) :
    Reads false (names.map String.toList ++ ws) { q with included := names ++ q.included } := by
  induction names with
  | nil => exact h
  | cons name rest ih =>
    have hRest := ih fun name' hName' => hPlain name' (List.mem_cons_of_mem name hName')
    simpa using hRest.included (hPlain name (List.mem_cons_self ..))

/-- What words say never includes a name that would be read as another term. -/
theorem Reads.isPlain_included {nextOptional : Bool} {ws : List (List Char)} {q : Query}
    (h : Reads nextOptional ws q) : ∀ name ∈ q.included, IsPlain name.toList := by
  induction h with
  | nil => simp
  | excluded _ ih => exact ih
  | marked _ ih => exact ih
  | or _ ih => exact ih
  | optional _ _ ih => exact ih
  | included hPlain _ ih =>
    intro name hName
    rcases List.mem_cons.mp hName with rfl | hName
    · rwa [String.toList_ofList]
    · exact ih name hName

-- ---------------------------------------------------------------------------
-- Reading and writing
-- ---------------------------------------------------------------------------

/-- A parsed query is canonical. -/
theorem isCanonical_of_parse {text : String} {q : Query} (h : parse text = .ok q) :
    q.IsCanonical where
  names := mem_names_of_parse h
  included := (parse_eq_ok_iff.mp h).2.isPlain_included

/-- A canonical query is read back from its text. -/
theorem IsCanonical.parse_text {q : Query} (h : q.IsCanonical) : parse q.text = .ok q := by
  refine parse_of_words h.words_text (fun word hWord => (h.terms_isTermText word hWord).2) ?_
  rw [toList_terms]
  -- from the last group to the first, as the relation reads from the right
  have hReads := ((reads_excluded false q.excluded).optional_append q.optional).included_append
    h.included
  simpa using hReads

/-- Reading the canonical text of a query gives the query back exactly if it is canonical, and
every query that was read from a text is: its canonical text reads as the same query, which has
the same canonical text again. -/
theorem parse_canonical_text :
    (∀ q : Query, parse q.text = .ok q ↔ q.IsCanonical) ∧
      ∀ (text : String) (q : Query), parse text = .ok q →
        q.IsCanonical ∧ parse q.text = .ok q ∧ (parse q.text).map Query.text = .ok q.text := by
  refine ⟨fun q => ⟨isCanonical_of_parse, IsCanonical.parse_text⟩, ?_⟩
  intro text q h
  have hCanonical := isCanonical_of_parse h
  refine ⟨hCanonical, hCanonical.parse_text, ?_⟩
  rw [hCanonical.parse_text]
  rfl

end MediaLibrary.Query
