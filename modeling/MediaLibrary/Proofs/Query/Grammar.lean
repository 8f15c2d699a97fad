import MediaLibrary.Proofs.Query.Names
import MediaLibrary.Proofs.Text.Words

/-!
# Query — the grammar of queries

A text is a query if its words are terms: characters of names, and not a mark alone.
What the terms say together is a relation of words and queries that reads from left to
right and remembers whether the word `or` has made the next plain word optional. A
text that is no query has faults, each at its place, and the error is the first one.

* `IsTermText` — the words that are terms;
* `Reads` — what a list of words says;
* `IsFault`, `IsFirstFault` — what is wrong in a text, and where;
* `parse_eq_ok_iff`, `parse_eq_error_iff` — reading a query is just that;
* `parse_follows_grammar` — the grammar as a whole.
-/

namespace MediaLibrary.Query

open MediaLibrary.Text (wordsAt IsWordAt AreWords isSeparator)

-- ---------------------------------------------------------------------------
-- The grammar
-- ---------------------------------------------------------------------------

/-- A word that is a term: it consists of characters of names, and it is not a mark alone. -/
structure IsTermText (word : List Char) : Prop where
  chars : ∀ c ∈ word, Tag.isTagChar c = true
  ne_mark : ∀ m : Tag.Mark, word ≠ [m.char]

/-- A word that begins with no mark and is not the word `or`. -/
structure IsPlain (word : List Char) : Prop where
  unmarked : ∀ m : Tag.Mark, word.head? ≠ some m.char
  ne_or : word ≠ orWord.toList

/-- What words say, read from left to right. The flag tells whether the next plain word is
optional. -/
inductive Reads : Bool → List (List Char) → Query → Prop where
  | nil {nextOptional : Bool} : Reads nextOptional [] {}
  | excluded {nextOptional : Bool} {name : List Char} {ws : List (List Char)} {q : Query} :
      Reads nextOptional ws q →
      Reads nextOptional (('-' :: name) :: ws)
        { q with excluded := String.ofList name :: q.excluded }
  | marked {nextOptional : Bool} {name : List Char} {ws : List (List Char)} {q : Query} :
      Reads nextOptional ws q →
      Reads nextOptional (('~' :: name) :: ws)
        { q with optional := String.ofList name :: q.optional }
  | or {nextOptional : Bool} {ws : List (List Char)} {q : Query} :
      Reads true ws q → Reads nextOptional (orWord.toList :: ws) q
  | optional {word : List Char} {ws : List (List Char)} {q : Query} :
      IsPlain word → Reads false ws q →
      Reads true (word :: ws) { q with optional := String.ofList word :: q.optional }
  | included {word : List Char} {ws : List (List Char)} {q : Query} :
      IsPlain word → Reads false ws q →
      Reads false (word :: ws) { q with included := String.ofList word :: q.included }

/-- What is wrong in a text: a character that is neither a separator nor a character of names, or a
word that is a mark alone. -/
inductive IsFault (cs : List Char) : ParseError → Prop where
  | invalidCharacter {c : Char} {place : Nat} :
      cs[place]? = some c → isSeparator c = false → Tag.isTagChar c = false →
      IsFault cs (.invalidCharacter c place)
  | emptyTag {m : Tag.Mark} {place : Nat} :
      IsWordAt cs place [m.char] → IsFault cs (.emptyTag place)

/-- The fault that comes before all others. -/
structure IsFirstFault (cs : List Char) (e : ParseError) : Prop where
  isFault : IsFault cs e
  first : ∀ e', IsFault cs e' → e' = e ∨ e.position < e'.position

/-- The name in a word that begins with the mark of excluded tags. -/
def excludedName? : List Char → Option String
  | '-' :: name => some (String.ofList name)
  | _ => none

-- ---------------------------------------------------------------------------
-- Words
-- ---------------------------------------------------------------------------

/-- The term that a word stands for, whatever its characters. -/
def termOf : List Char → Term
  | '-' :: name => .marked .exclude (String.ofList name)
  | '~' :: name => .marked .optional (String.ofList name)
  | name => .plain (String.ofList name)

theorem isTagChar_mark (m : Tag.Mark) : Tag.isTagChar m.char = true := by
  cases m <;> decide

/-- A word begins with one of the marks or with none. -/
@[elab_as_elim]
theorem word_cases {motive : List Char → Prop} (exclude : ∀ name, motive ('-' :: name))
    (optional : ∀ name, motive ('~' :: name))
    (plain : ∀ word : List Char, (∀ m : Tag.Mark, word.head? ≠ some m.char) → motive word)
    (word : List Char) : motive word := by
  by_cases hMark : ∃ m : Tag.Mark, word.head? = some m.char
  · obtain ⟨m, hm⟩ := hMark
    obtain ⟨name, rfl⟩ := List.head?_eq_some_iff.mp hm
    cases m with
    | exclude => exact exclude name
    | optional => exact optional name
  · exact plain word fun m hm => hMark ⟨m, hm⟩

/-- A word without a mark in front is a plain term. -/
theorem termOf_plain {word : List Char} (h : ∀ m : Tag.Mark, word.head? ≠ some m.char) :
    termOf word = .plain (String.ofList word) := by
  unfold termOf
  split
  · exact absurd rfl (h .exclude)
  · exact absurd rfl (h .optional)
  · rfl

/-- No character is at fault just if all may stand in a tag. -/
theorem firstInvalid?_eq_none_iff {position : Nat} {cs : List Char} :
    firstInvalid? position cs = none ↔ ∀ c ∈ cs, Tag.isTagChar c = true := by
  refine ⟨all_isTagChar_of_firstInvalid?, fun h => ?_⟩
  induction cs generalizing position with
  | nil => rfl
  | cons c rest ih =>
    rw [firstInvalid?, if_pos (h c (List.mem_cons_self ..))]
    exact ih fun d hd => h d (List.mem_cons_of_mem c hd)

/-- The fault is told of the first character that may not stand there, with its place. -/
theorem exists_of_firstInvalid? {position : Nat} {cs : List Char} {e : ParseError}
    (h : firstInvalid? position cs = some e) :
    ∃ c j, cs[j]? = some c ∧ Tag.isTagChar c = false ∧ e = .invalidCharacter c (position + j) ∧
      ∀ i d, i < j → cs[i]? = some d → Tag.isTagChar d = true := by
  induction cs generalizing position with
  | nil => cases h
  | cons c rest ih =>
    rw [firstInvalid?] at h
    split at h
    · rename_i hc
      obtain ⟨c', j, hc', hInvalid, rfl, hBefore⟩ := ih h
      refine ⟨c', j + 1, hc', hInvalid, by rw [Nat.add_right_comm, Nat.add_assoc], ?_⟩
      intro i d hi hd
      cases i with
      | zero =>
        rw [List.getElem?_cons_zero, Option.some_inj] at hd
        rwa [← hd]
      | succ i => exact hBefore i d (by omega) hd
    · rename_i hc
      cases h
      refine ⟨c, 0, rfl, by simpa using hc, rfl, ?_⟩
      intro i d hi
      omega

/-- A mark alone is a term without a name. -/
theorem readTerm_mark (m : Tag.Mark) (place : Nat) :
    readTerm (place, [m.char]) = .error (.emptyTag place) := by
  cases m <;> rfl

/-- A word that is not a mark alone is read as its term if all its characters are characters of
names. A mark is one of them, so it does not matter whether it belongs to the name. -/
theorem readTerm_eq {place : Nat} {word : List Char} (hNe : word ≠ [])
    (hMark : ∀ m : Tag.Mark, word ≠ [m.char]) :
    readTerm (place, word) =
      match firstInvalid? place word with
      | some e => .error e
      | none => .ok (termOf word) := by
  have hMarked (m : Tag.Mark) (name : List Char) (hName : name ≠ []) (term : String → Term) :
      (readName place (place + 1) name).map term =
        match firstInvalid? place (m.char :: name) with
        | some e => .error e
        | none => .ok (term (String.ofList name)) := by
    rw [firstInvalid?, if_pos (isTagChar_mark m), readName, if_neg (by simpa using hName)]
    cases firstInvalid? (place + 1) name <;> rfl
  induction word using word_cases with
  | exclude name =>
    exact hMarked .exclude name (fun h => hMark .exclude (by rw [h]; rfl)) (.marked .exclude)
  | optional name =>
    exact hMarked .optional name (fun h => hMark .optional (by rw [h]; rfl)) (.marked .optional)
  | plain word hUnmarked =>
    have hRead : readTerm (place, word) = (readName place place word).map .plain := by
      simp only [readTerm]
      split
      · exact absurd rfl (hUnmarked .exclude)
      · exact absurd rfl (hUnmarked .optional)
      · rfl
    rw [hRead, termOf_plain hUnmarked, readName, if_neg (by simpa using hNe)]
    cases firstInvalid? place word <;> rfl

-- ---------------------------------------------------------------------------
-- Faults
-- ---------------------------------------------------------------------------

/-- What is wrong in a word at a place. -/
inductive IsFaultIn : Nat × List Char → ParseError → Prop where
  | invalidCharacter {w : Nat × List Char} {c : Char} {j : Nat} :
      w.2[j]? = some c → Tag.isTagChar c = false → IsFaultIn w (.invalidCharacter c (w.1 + j))
  | emptyTag {w : Nat × List Char} {m : Tag.Mark} :
      w.2 = [m.char] → IsFaultIn w (.emptyTag w.1)

/-- A text is at fault where one of its words is. -/
theorem isFault_iff {cs : List Char} {e : ParseError} :
    IsFault cs e ↔ ∃ w ∈ wordsAt 0 cs, IsFaultIn w e := by
  constructor
  · rintro (⟨hc, hNo, hInvalid⟩ | @⟨m, place, hWord⟩)
    · obtain ⟨w, hw, j, hj, hPlace⟩ := Text.getElem?_iff_mem_wordsAt.mp ⟨hc, hNo⟩
      rw [Nat.zero_add] at hPlace
      exact ⟨w, hw, hPlace ▸ .invalidCharacter hj hInvalid⟩
    · exact ⟨(place, [m.char]), ((Text.areWords_wordsAt cs).mem_iff _ _).mpr hWord,
        .emptyTag (w := (place, [m.char])) rfl⟩
  · rintro ⟨w, hw, @⟨c, j, hj, hInvalid⟩ | @⟨m, hMark⟩⟩
    · obtain ⟨hc, hNo⟩ := Text.getElem?_iff_mem_wordsAt.mpr ⟨w, hw, j, hj, Nat.zero_add _⟩
      exact .invalidCharacter hc hNo hInvalid
    · refine .emptyTag (m := m) (((Text.areWords_wordsAt cs).mem_iff _ _).mp ?_)
      rwa [← hMark]

/-- A fault has its place within the text. -/
theorem IsFault.position_lt {cs : List Char} {e : ParseError} (h : IsFault cs e) :
    e.position < cs.length := by
  obtain ⟨hc, -, -⟩ | hWord := h
  · exact (List.getElem?_eq_some_iff.mp hc).1
  · obtain ⟨-, -, before, after, rfl, rfl, -, -⟩ := hWord
    simp only [ParseError.position, List.length_append, List.length_singleton]
    omega

/-- A term text has no fault. -/
theorem not_isFaultIn {w : Nat × List Char} (h : IsTermText w.2) (e : ParseError) :
    ¬IsFaultIn w e := by
  rintro (⟨hj, hInvalid⟩ | hMark)
  · rw [h.chars _ (List.mem_of_getElem? hj)] at hInvalid
    cases hInvalid
  · exact h.ne_mark _ hMark

/-- The fault of a word lies within it. -/
theorem IsFaultIn.position_mem {w : Nat × List Char} {e : ParseError} (h : IsFaultIn w e) :
    w.1 ≤ e.position ∧ e.position < w.1 + w.2.length := by
  obtain ⟨hj, -⟩ | hMark := h
  · have := (List.getElem?_eq_some_iff.mp hj).1
    simp only [ParseError.position]
    omega
  · simp [ParseError.position, hMark]

/-- A word is read as its term, or it is not a term and its first fault is reported. -/
theorem readTerm_cases {w : Nat × List Char} (hNe : w.2 ≠ []) :
    (readTerm w = .ok (termOf w.2) ∧ IsTermText w.2) ∨
      ∃ e, readTerm w = .error e ∧ IsFaultIn w e ∧
        ∀ e', IsFaultIn w e' → e' = e ∨ e.position < e'.position := by
  obtain ⟨place, word⟩ := w
  by_cases hMark : ∃ m : Tag.Mark, word = [m.char]
  · obtain ⟨m, rfl⟩ := hMark
    refine .inr ⟨_, readTerm_mark m place, .emptyTag (w := (place, [m.char])) rfl, ?_⟩
    rintro e' (@⟨d, i, hi, hInvalid⟩ | -)
    · -- the only character is the mark
      have hd := List.mem_singleton.mp (List.mem_of_getElem? hi)
      rw [hd, isTagChar_mark] at hInvalid
      cases hInvalid
    · exact .inl rfl
  · have hMark' : ∀ m : Tag.Mark, word ≠ [m.char] := fun m hm => hMark ⟨m, hm⟩
    rw [readTerm_eq hNe hMark']
    cases hFirst : firstInvalid? place word with
    | none => exact .inl ⟨rfl, firstInvalid?_eq_none_iff.mp hFirst, hMark'⟩
    | some e =>
      obtain ⟨c, j, hj, hInvalid, rfl, hBefore⟩ := exists_of_firstInvalid? hFirst
      refine .inr ⟨_, rfl, .invalidCharacter (w := (place, word)) hj hInvalid, ?_⟩
      rintro e' (@⟨d, i, hi, hInvalid'⟩ | hMark'')
      · rcases Nat.lt_trichotomy i j with hLt | rfl | hGt
        · rw [hBefore i d hLt hi] at hInvalid'
          cases hInvalid'
        · have hSame : some d = some c := hi.symm.trans hj
          cases hSame
          exact .inl rfl
        · right
          simp only [ParseError.position]
          omega
      · exact absurd hMark'' (hMark' _)

/-- Words are read as their terms, or there is a first one that is not a term. -/
theorem mapM_readTerm_cases {ws : List (Nat × List Char)} (hNe : ∀ w ∈ ws, w.2 ≠ []) :
    (ws.mapM readTerm = .ok (ws.map fun w => termOf w.2) ∧ ∀ w ∈ ws, IsTermText w.2) ∨
      ∃ before w after e, ws = before ++ w :: after ∧ (∀ v ∈ before, IsTermText v.2) ∧
        ws.mapM readTerm = .error e ∧ IsFaultIn w e ∧
        ∀ e', IsFaultIn w e' → e' = e ∨ e.position < e'.position := by
  induction ws with
  | nil => exact .inl ⟨rfl, by simp⟩
  | cons w rest ih =>
    rw [List.mapM_cons]
    rcases readTerm_cases (hNe w (List.mem_cons_self ..)) with ⟨hRead, hTerm⟩ | ⟨e, hRead, hFault⟩
    · rw [hRead]
      rcases ih fun v hv => hNe v (List.mem_cons_of_mem w hv) with
        ⟨hRest, hTerms⟩ | ⟨before, v, after, e, rfl, hBefore, hRest, hFault⟩
      · refine .inl ⟨by rw [hRest]; rfl, ?_⟩
        intro v hv
        rcases List.mem_cons.mp hv with rfl | hv
        · exact hTerm
        · exact hTerms v hv
      · refine .inr ⟨w :: before, v, after, e, rfl, ?_, by rw [hRest]; rfl, hFault⟩
        intro u hu
        rcases List.mem_cons.mp hu with rfl | hu
        · exact hTerm
        · exact hBefore u hu
    · exact .inr ⟨[], w, rest, e, rfl, by simp, by rw [hRead]; rfl, hFault⟩

/-- A text is read as the terms of its words, or its first fault is reported. -/
theorem parse_cases (text : String) :
    (parse text = .ok (((wordsAt 0 text.toList).map fun w => termOf w.2).foldl
        Grouping.add {}).query ∧ ∀ w ∈ wordsAt 0 text.toList, IsTermText w.2) ∨
      ∃ e, parse text = .error e ∧ IsFirstFault text.toList e := by
  have hNe : ∀ w ∈ wordsAt 0 text.toList, w.2 ≠ [] := Text.wordsAt_ne_nil
  rcases mapM_readTerm_cases hNe with
    ⟨hRead, hTerms⟩ | ⟨before, w, after, e, hSplit, hBefore, hRead, hFault, hFirst⟩
  · exact .inl ⟨by rw [parse, hRead]; rfl, hTerms⟩
  · refine .inr ⟨e, by rw [parse, hRead]; rfl, isFault_iff.mpr ⟨w, by simp [hSplit], hFault⟩, ?_⟩
    -- no fault in the words before, the first one in this word, and all others behind it
    intro e' he'
    obtain ⟨v, hv, hFault'⟩ := isFault_iff.mp he'
    have hOrder := Text.wordsAt_pairwise 0 text.toList
    rw [hSplit] at hv hOrder
    rcases List.mem_append.mp hv with hv | hv
    · exact absurd hFault' (not_isFaultIn (hBefore v hv) e')
    · rcases List.mem_cons.mp hv with rfl | hv
      · exact hFirst e' hFault'
      · have hLater := (List.pairwise_cons.mp (List.pairwise_append.mp hOrder).2.1).1 v hv
        have := hFault.position_mem
        have := hFault'.position_mem
        right
        omega

/-- Only one fault is the first. -/
theorem IsFirstFault.eq {cs : List Char} {e e' : ParseError} (h : IsFirstFault cs e)
    (h' : IsFirstFault cs e') : e = e' := by
  rcases h.first e' h'.isFault with rfl | hLt
  · rfl
  · rcases h'.first e h.isFault with rfl | hLt'
    · rfl
    · omega

theorem not_isFault {cs : List Char} (h : ∀ w ∈ wordsAt 0 cs, IsTermText w.2) (e : ParseError) :
    ¬IsFault cs e := by
  intro hFault
  obtain ⟨w, hw, hIn⟩ := isFault_iff.mp hFault
  exact not_isFaultIn (h w hw) e hIn

-- ---------------------------------------------------------------------------
-- Groups
-- ---------------------------------------------------------------------------

/-- Two queries as one, group by group. -/
def append (q q' : Query) : Query where
  included := q.included ++ q'.included
  optional := q.optional ++ q'.optional
  excluded := q.excluded ++ q'.excluded

/-- A plain word is not the keyword. -/
theorem IsPlain.beq_orWord {word : List Char} (h : IsPlain word) :
    (String.ofList word == orWord) = false := by
  rw [beq_eq_false_iff_ne]
  intro hOr
  exact h.ne_or (by rw [← hOr, String.toList_ofList])

/-- Grouping the terms of words adds what the words say. -/
theorem Reads.foldl {nextOptional : Bool} {ws : List (List Char)} {q : Query}
    (h : Reads nextOptional ws q) (base : Query) :
    ((ws.map termOf).foldl Grouping.add ⟨base, nextOptional⟩).query = base.append q := by
  -- `base` is what was grouped before, and the flags of both sides go together
  induction h generalizing base with
  | nil => simp [append]
  | excluded _ ih =>
    rw [List.map_cons, List.foldl_cons]
    refine (ih _).trans ?_
    simp [append]
  | marked _ ih =>
    rw [List.map_cons, List.foldl_cons]
    refine (ih _).trans ?_
    simp [append]
  | or _ ih =>
    rw [List.map_cons, List.foldl_cons]
    exact ih base
  | optional hPlain _ ih =>
    rw [List.map_cons, List.foldl_cons, termOf_plain hPlain.unmarked, Grouping.add,
      hPlain.beq_orWord]
    refine (ih _).trans ?_
    simp [append]
  | included hPlain _ ih =>
    rw [List.map_cons, List.foldl_cons, termOf_plain hPlain.unmarked, Grouping.add,
      hPlain.beq_orWord]
    refine (ih _).trans ?_
    simp [append]

/-- Words always say something. -/
theorem exists_reads (nextOptional : Bool) (ws : List (List Char)) :
    ∃ q, Reads nextOptional ws q := by
  induction ws generalizing nextOptional with
  | nil => exact ⟨{}, .nil⟩
  | cons word ws ih =>
    induction word using word_cases with
    | exclude name => exact (ih nextOptional).elim fun q hq => ⟨_, .excluded hq⟩
    | optional name => exact (ih nextOptional).elim fun q hq => ⟨_, .marked hq⟩
    | plain word hUnmarked =>
      by_cases hOr : word = orWord.toList
      · subst hOr
        exact (ih true).elim fun q hq => ⟨q, .or hq⟩
      · cases nextOptional with
        | false => exact (ih false).elim fun q hq => ⟨_, .included ⟨hUnmarked, hOr⟩ hq⟩
        | true => exact (ih false).elim fun q hq => ⟨_, .optional ⟨hUnmarked, hOr⟩ hq⟩

/-- The excluded tags are named by the words with their mark, in order. -/
theorem Reads.excluded_eq {nextOptional : Bool} {ws : List (List Char)} {q : Query}
    (h : Reads nextOptional ws q) : q.excluded = ws.filterMap excludedName? := by
  have hPlain {word : List Char} (hWord : IsPlain word) : excludedName? word = none := by
    unfold excludedName?
    split
    · exact absurd rfl (hWord.unmarked .exclude)
    · rfl
  induction h with
  | nil => rfl
  | excluded _ ih => rw [List.filterMap_cons, ← ih]; rfl
  | marked _ ih => exact ih
  | or _ ih => exact ih
  | optional hWord _ ih => rw [List.filterMap_cons, hPlain hWord]; exact ih
  | included hWord _ ih => rw [List.filterMap_cons, hPlain hWord]; exact ih

-- ---------------------------------------------------------------------------
-- Reading a query
-- ---------------------------------------------------------------------------

/-- A text is read as a query exactly if its words are terms that say it. -/
theorem parse_eq_ok_iff {text : String} {q : Query} :
    parse text = .ok q ↔
      (∀ w ∈ wordsAt 0 text.toList, IsTermText w.2) ∧ Reads false (Text.words text) q := by
  have hSays {q' : Query} (h : Reads false (Text.words text) q') :
      (((wordsAt 0 text.toList).map fun w => termOf w.2).foldl Grouping.add {}).query = q' := by
    have hFold := h.foldl {}
    rw [Text.words, List.map_map] at hFold
    refine hFold.trans ?_
    simp [append]
  rcases parse_cases text with ⟨hParse, hTerms⟩ | ⟨e, hParse, hFirst⟩
  · rw [hParse, Except.ok.injEq]
    constructor
    · rintro rfl
      obtain ⟨q', hq'⟩ := exists_reads false (Text.words text)
      rw [hSays hq']
      exact ⟨hTerms, hq'⟩
    · rintro ⟨-, hq⟩
      exact hSays hq
  · rw [hParse]
    constructor
    · rintro ⟨⟩
    · rintro ⟨hTerms, -⟩
      exact absurd hFirst.isFault (not_isFault hTerms e)

/-- A text whose words are terms is read as the query that they say. -/
theorem parse_of_words {text : String} {ws : List (List Char)} {q : Query}
    (hWords : Text.words text = ws) (hTerms : ∀ word ∈ ws, IsTermText word)
    (hReads : Reads false ws q) : parse text = .ok q := by
  subst hWords
  exact parse_eq_ok_iff.mpr ⟨fun w hw => hTerms w.2 (List.mem_map_of_mem hw), hReads⟩

/-- A text is refused with an error exactly if that is its first fault. -/
theorem parse_eq_error_iff {text : String} {e : ParseError} :
    parse text = .error e ↔ IsFirstFault text.toList e := by
  rcases parse_cases text with ⟨hParse, hTerms⟩ | ⟨e', hParse, hFirst⟩
  · rw [hParse]
    constructor
    · rintro ⟨⟩
    · intro hFirst
      exact absurd hFirst.isFault (not_isFault hTerms e)
  · rw [hParse, Except.error.injEq]
    constructor
    · rintro rfl
      exact hFirst
    · exact hFirst.eq

/-- A text is read as a query exactly if all its words are terms, and then the query is what they
say, with the excluded tags named by the words that begin with their mark. Otherwise the error is
the first fault in the text. -/
theorem parse_follows_grammar (text : String) :
    ∃ ws, AreWords text.toList ws ∧
      ((∃ q, parse text = .ok q) ↔ ∀ w ∈ ws, IsTermText w.2) ∧
      (∀ q, parse text = .ok q ↔
        (∀ w ∈ ws, IsTermText w.2) ∧ Reads false (ws.map Prod.snd) q) ∧
      (∀ q, parse text = .ok q → q.excluded = (ws.map Prod.snd).filterMap excludedName?) ∧
      ∀ e, parse text = .error e ↔ IsFirstFault text.toList e := by
  refine ⟨wordsAt 0 text.toList, Text.areWords_wordsAt _, ?_, fun _ => parse_eq_ok_iff, ?_,
    fun _ => parse_eq_error_iff⟩
  · constructor
    · rintro ⟨q, hq⟩
      exact (parse_eq_ok_iff.mp hq).1
    · intro hTerms
      obtain ⟨q, hq⟩ := exists_reads false (Text.words text)
      exact ⟨q, parse_eq_ok_iff.mpr ⟨hTerms, hq⟩⟩
  · intro q hq
    exact (parse_eq_ok_iff.mp hq).2.excluded_eq

/-- The word `or` waits for the next plain word. -/
example : parse "or -a b c" = .ok ⟨["c"], ["b"], ["a"]⟩ := by cbv

end MediaLibrary.Query
