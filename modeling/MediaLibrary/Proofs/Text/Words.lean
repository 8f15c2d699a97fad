import MediaLibrary.Proofs.Basic
import MediaLibrary.Text.Words

/-!
# Text — words are maximal runs

The words of a text are found by skipping separators and taking what comes up to the
next one. Told without any scanning, a word is a run of other characters that cannot
be made longer: a separator, or nothing, stands on either side of it. The two are the
same, and every character that is no separator stands in a word.

* `words_induction` — a text is empty, or begins with a separator or with a word;
* `IsWordAt`, `mem_wordsAt_iff` — the words found are the maximal runs;
* `AreWords`, `areWords_wordsAt` — all of them are found, in the order of the text;
* `getElem?_iff_mem_wordsAt` — the characters of words;
* `Spaced`, `Spaced.map_wordsAt` — words joined by separators are found again;
* `words_intercalate` — words joined by spaces are.
-/

namespace MediaLibrary.Text

-- ---------------------------------------------------------------------------
-- Scanning
-- ---------------------------------------------------------------------------

@[simp] theorem wordsAt_nil (start : Nat) : wordsAt start [] = [] := by
  rw [wordsAt]
  rfl

/-- A separator in front only moves the words. -/
theorem wordsAt_cons_separator {c : Char} (hc : isSeparator c = true) (start : Nat)
    (cs : List Char) : wordsAt start (c :: cs) = wordsAt (start + 1) cs := by
  have hDrop : (c :: cs).dropWhile isSeparator = cs.dropWhile isSeparator :=
    List.dropWhile_cons_of_pos hc
  have hTake : ((c :: cs).takeWhile isSeparator).length =
      (cs.takeWhile isSeparator).length + 1 := by
    rw [List.takeWhile_cons_of_pos hc, List.length_cons]
  rw [wordsAt, wordsAt]
  split
  · rename_i hNone
    rw [hDrop] at hNone
    split
    · rfl
    · rename_i hSome
      rw [hNone] at hSome
      cases hSome
  · rename_i d rest hSome
    rw [hDrop] at hSome
    split
    · rename_i hNone
      rw [hNone] at hSome
      cases hSome
    · rename_i hSome'
      rw [hSome] at hSome'
      cases hSome'
      have hPlace : start + ((c :: cs).takeWhile isSeparator).length =
          start + 1 + (cs.takeWhile isSeparator).length := by omega
      simp only [hPlace]

/-- A run of word characters with a separator or nothing behind it is the first word. -/
theorem wordsAt_word_append {word rest : List Char} (hNe : word ≠ [])
    (hWord : ∀ c ∈ word, isSeparator c = false) (hRest : ∀ c ∈ rest.head?, isSeparator c = true)
    (start : Nat) :
    wordsAt start (word ++ rest) = (start, word) :: wordsAt (start + word.length) rest := by
  obtain ⟨c, run, rfl⟩ := List.exists_cons_of_ne_nil hNe
  have hc : isSeparator c = false := hWord c (List.mem_cons_self ..)
  have hRun : ∀ d ∈ run, isWordChar d = true := by
    intro d hd
    simp [isWordChar, hWord d (List.mem_cons_of_mem c hd)]
  have hStop : ∀ d ∈ rest.head?, isWordChar d = false := by
    intro d hd
    simp [isWordChar, hRest d hd]
  have hTake : (run ++ rest).takeWhile isWordChar = run := takeWhile_run hRun hStop
  have hDrop : (run ++ rest).dropWhile isWordChar = rest := dropWhile_run hRun hStop
  have hNoSeparator : (c :: run ++ rest).dropWhile isSeparator = c :: (run ++ rest) := by
    rw [List.cons_append, List.dropWhile_cons_of_neg (by simp [hc])]
  rw [wordsAt]
  split
  · rename_i hNone
    rw [hNoSeparator] at hNone
    cases hNone
  · rename_i d rest' hSome
    rw [hNoSeparator] at hSome
    cases hSome
    simp [hTake, hDrop, hc]

/-- A text is empty, or it begins with a separator, or with a word that ends at a separator or
with the text. -/
@[elab_as_elim]
theorem words_induction {motive : List Char → Prop} (nil : motive [])
    (separator : ∀ c cs, isSeparator c = true → motive cs → motive (c :: cs))
    (word : ∀ word rest : List Char, word ≠ [] → (∀ c ∈ word, isSeparator c = false) →
      (∀ c ∈ rest.head?, isSeparator c = true) → motive rest → motive (word ++ rest))
    (cs : List Char) : motive cs := by
  induction hLength : cs.length using Nat.strongRecOn generalizing cs with
  | ind n ih =>
    cases cs with
    | nil => exact nil
    | cons c cs =>
      by_cases hc : isSeparator c = true
      · exact separator c cs hc (ih cs.length (by simp [← hLength]) cs rfl)
      · have hSplit : c :: cs = (c :: cs.takeWhile isWordChar) ++ cs.dropWhile isWordChar := by
          rw [List.cons_append, List.takeWhile_append_dropWhile]
        rw [hSplit]
        refine word _ _ (List.cons_ne_nil _ _) ?_ ?_ (ih _ ?_ _ rfl)
        · intro d hd
          rcases List.mem_cons.mp hd with rfl | hd
          · simpa using hc
          · have hAll := List.all_eq_true.mp (List.all_takeWhile (p := isWordChar) (l := cs)) d hd
            simpa [isWordChar] using hAll
        · intro d hd
          have hNot := List.head?_dropWhile_not isWordChar cs
          rw [Option.mem_def] at hd
          simpa [hd, isWordChar] using hNot
        · have := (List.dropWhile_sublist isWordChar (l := cs)).length_le
          simp only [List.length_cons] at hLength
          omega

-- ---------------------------------------------------------------------------
-- Maximal runs
-- ---------------------------------------------------------------------------

/-- A word stands at a place of a text: a run of characters other than separators that no such
character comes before or after. -/
structure IsWordAt (cs : List Char) (place : Nat) (word : List Char) : Prop where
  ne_nil : word ≠ []
  noSeparator : ∀ c ∈ word, isSeparator c = false
  maximal : ∃ before after, cs = before ++ word ++ after ∧ before.length = place ∧
    (∀ c ∈ before.getLast?, isSeparator c = true) ∧ ∀ c ∈ after.head?, isSeparator c = true

theorem not_isWordAt_nil {place : Nat} {word : List Char} : ¬IsWordAt [] place word := by
  rintro ⟨hNe, -, before, after, hSplit, -, -, -⟩
  simp only [List.nil_eq, List.append_eq_nil_iff] at hSplit
  exact hNe hSplit.1.2

/-- The words behind a separator are those of the rest, one place later. -/
theorem isWordAt_cons_separator {c : Char} (hc : isSeparator c = true) {cs word : List Char}
    {place : Nat} :
    IsWordAt (c :: cs) place word ↔ ∃ p, place = p + 1 ∧ IsWordAt cs p word := by
  constructor
  · rintro ⟨hNe, hNo, before, after, hSplit, rfl, hBefore, hAfter⟩
    cases before with
    | nil =>
      -- the word would begin with the separator
      obtain ⟨d, run, rfl⟩ := List.exists_cons_of_ne_nil hNe
      simp only [List.nil_append, List.cons_append, List.cons.injEq] at hSplit
      have hd := hNo d (List.mem_cons_self ..)
      rw [← hSplit.1, hc] at hd
      cases hd
    | cons d before =>
      simp only [List.cons_append, List.cons.injEq] at hSplit
      refine ⟨before.length, by simp, hNe, hNo, before, after, hSplit.2, rfl, ?_, hAfter⟩
      intro x hx
      refine hBefore x ?_
      rw [Option.mem_def] at hx ⊢
      rw [List.getLast?_cons, hx]
      rfl
  · rintro ⟨p, rfl, hNe, hNo, before, after, rfl, rfl, hBefore, hAfter⟩
    refine ⟨hNe, hNo, c :: before, after, rfl, rfl, ?_, hAfter⟩
    intro x hx
    rw [Option.mem_def, List.getLast?_cons, Option.some_inj] at hx
    cases hLast : before.getLast? with
    | none =>
      rw [hLast] at hx
      rwa [← hx]
    | some y =>
      rw [hLast] at hx
      rw [← hx]
      exact hBefore y hLast

/-- Two runs that both end at a separator or with the text and begin at one place are the same. -/
private theorem run_unique {word word' rest rest' : List Char} (h : word ++ rest = word' ++ rest')
    (hWord : ∀ c ∈ word, isSeparator c = false) (hRest : ∀ c ∈ rest.head?, isSeparator c = true)
    (hWord' : ∀ c ∈ word', isSeparator c = false)
    (hRest' : ∀ c ∈ rest'.head?, isSeparator c = true) : word = word' := by
  induction word generalizing word' with
  | nil =>
    cases word' with
    | nil => rfl
    | cons d run' =>
      have hd := hRest d (by rw [show rest = d :: (run' ++ rest') from h]; rfl)
      rw [hWord' d (List.mem_cons_self ..)] at hd
      cases hd
  | cons c run ih =>
    cases word' with
    | nil =>
      have hc := hRest' c (by rw [show rest' = c :: (run ++ rest) from h.symm]; rfl)
      rw [hWord c (List.mem_cons_self ..)] at hc
      cases hc
    | cons d run' =>
      simp only [List.cons_append, List.cons.injEq] at h
      rw [h.1, ih h.2 (fun x hx => hWord x (List.mem_cons_of_mem c hx))
        fun x hx => hWord' x (List.mem_cons_of_mem d hx)]

/-- The words of a text that begins with a word are this word and those of the rest. -/
theorem isWordAt_word_append {first rest : List Char} (hNe : first ≠ [])
    (hFirst : ∀ c ∈ first, isSeparator c = false) (hRest : ∀ c ∈ rest.head?, isSeparator c = true)
    {place : Nat} {word : List Char} :
    IsWordAt (first ++ rest) place word ↔
      (place = 0 ∧ word = first) ∨ ∃ p, place = first.length + p ∧ IsWordAt rest p word := by
  constructor
  · rintro ⟨hNe', hNo, before, after, hSplit, rfl, hBefore, hAfter⟩
    by_cases hNil : before = []
    · subst hNil
      exact .inl ⟨rfl, run_unique hSplit.symm hNo hAfter hFirst hRest⟩
    · right
      -- what comes before the word ends with a separator, so it goes beyond the first word
      have hLast : isSeparator (before.getLast hNil) = true :=
        hBefore _ (List.getLast?_eq_some_getLast hNil)
      rw [List.append_assoc, List.append_eq_append_iff] at hSplit
      rcases hSplit with ⟨between, rfl, hRest'⟩ | ⟨between, rfl, -⟩
      · refine ⟨between.length, List.length_append, hNe', hNo, between, after, ?_, rfl, ?_, hAfter⟩
        · rw [hRest', List.append_assoc]
        · intro c hc
          refine hBefore c ?_
          rw [Option.mem_def] at hc ⊢
          rw [List.getLast?_append, hc]
          rfl
      · have hIn := hFirst _ (List.mem_append_left between (List.getLast_mem hNil))
        rw [hLast] at hIn
        cases hIn
  · rintro (⟨rfl, rfl⟩ | ⟨p, rfl, hNe', hNo, before, after, rfl, rfl, hBefore, hAfter⟩)
    · exact ⟨hNe, hFirst, [], rest, rfl, rfl, by simp, hRest⟩
    · have hNil : before ≠ [] := by
        rintro rfl
        obtain ⟨c, run, rfl⟩ := List.exists_cons_of_ne_nil hNe'
        have hc := hRest c rfl
        rw [hNo c (List.mem_cons_self ..)] at hc
        cases hc
      refine ⟨hNe', hNo, first ++ before, after, by simp, by simp, ?_, hAfter⟩
      intro c hc
      refine hBefore c ?_
      rwa [List.getLast?_append, List.getLast?_eq_some_getLast hNil, Option.some_or,
        ← List.getLast?_eq_some_getLast hNil] at hc

/-- The words that are found are the maximal runs. -/
theorem mem_wordsAt_iff {start : Nat} {cs : List Char} {place : Nat} {word : List Char} :
    (place, word) ∈ wordsAt start cs ↔ ∃ p, place = start + p ∧ IsWordAt cs p word := by
  induction cs using words_induction generalizing start with
  | nil => simp [not_isWordAt_nil]
  | separator c cs hc ih =>
    rw [wordsAt_cons_separator hc, ih]
    simp only [isWordAt_cons_separator hc]
    constructor
    · rintro ⟨p, rfl, hp⟩
      exact ⟨p + 1, by omega, p, rfl, hp⟩
    · rintro ⟨-, rfl, p, rfl, hp⟩
      exact ⟨p, by omega, hp⟩
  | word first rest hNe hFirst hRest ih =>
    rw [wordsAt_word_append hNe hFirst hRest, List.mem_cons, ih]
    simp only [isWordAt_word_append hNe hFirst hRest, Prod.mk.injEq]
    constructor
    · rintro (⟨rfl, rfl⟩ | ⟨p, rfl, hp⟩)
      · exact ⟨0, rfl, .inl ⟨rfl, rfl⟩⟩
      · exact ⟨first.length + p, by omega, .inr ⟨p, rfl, hp⟩⟩
    · rintro ⟨-, rfl, ⟨rfl, rfl⟩ | ⟨p, rfl, hp⟩⟩
      · exact .inl ⟨rfl, rfl⟩
      · exact .inr ⟨p, by omega, hp⟩

/-- No word begins before the text does. -/
theorem le_of_mem_wordsAt {start : Nat} {cs : List Char} {w : Nat × List Char}
    (h : w ∈ wordsAt start cs) : start ≤ w.1 := by
  obtain ⟨p, hp, -⟩ := mem_wordsAt_iff.mp h
  omega

/-- The words stand one behind the other. -/
theorem wordsAt_pairwise (start : Nat) (cs : List Char) :
    (wordsAt start cs).Pairwise fun v w => v.1 + v.2.length ≤ w.1 := by
  induction cs using words_induction generalizing start with
  | nil => simp
  | separator c cs hc ih =>
    rw [wordsAt_cons_separator hc]
    exact ih (start + 1)
  | word first rest hNe hFirst hRest ih =>
    rw [wordsAt_word_append hNe hFirst hRest, List.pairwise_cons]
    exact ⟨fun w hw => le_of_mem_wordsAt hw, ih _⟩

/-- A word has characters of the text only. -/
theorem IsWordAt.subset {cs : List Char} {place : Nat} {word : List Char}
    (h : IsWordAt cs place word) : word ⊆ cs := by
  obtain ⟨before, after, rfl, -⟩ := h.maximal
  intro c hc
  simp [hc]

/-- All words of a text with their places, in the order of the text. -/
structure AreWords (cs : List Char) (ws : List (Nat × List Char)) : Prop where
  ordered : ws.Pairwise fun v w => v.1 < w.1
  mem_iff : ∀ place word, (place, word) ∈ ws ↔ IsWordAt cs place word

/-- The words that are found are the words of the text. -/
theorem areWords_wordsAt (cs : List Char) : AreWords cs (wordsAt 0 cs) where
  ordered := by
    refine (wordsAt_pairwise 0 cs).imp_of_mem ?_
    intro v w hv _ hBehind
    have := List.length_pos_iff.mpr (wordsAt_ne_nil v hv)
    omega
  mem_iff := by
    intro place word
    rw [mem_wordsAt_iff]
    simp

/-- The characters of words are the characters other than separators. -/
theorem getElem?_iff_mem_wordsAt {start : Nat} {cs : List Char} {i : Nat} {c : Char} :
    (cs[i]? = some c ∧ isSeparator c = false) ↔
      ∃ w ∈ wordsAt start cs, ∃ j, w.2[j]? = some c ∧ start + i = w.1 + j := by
  induction cs using words_induction generalizing start i with
  | nil => simp
  | separator d cs hd ih =>
    rw [wordsAt_cons_separator hd]
    cases i with
    | zero =>
      constructor
      · rintro ⟨hc, hNo⟩
        rw [List.getElem?_cons_zero, Option.some_inj] at hc
        rw [← hc, hd] at hNo
        cases hNo
      · rintro ⟨w, hw, j, -, hPlace⟩
        have := le_of_mem_wordsAt hw
        omega
    | succ i =>
      have hPlace : start + (i + 1) = start + 1 + i := by omega
      rw [List.getElem?_cons_succ, hPlace]
      exact ih
  | word first rest hNe hFirst hRest ih =>
    rw [wordsAt_word_append hNe hFirst hRest]
    simp only [List.mem_cons, exists_eq_or_imp]
    by_cases hi : i < first.length
    · rw [List.getElem?_append_left hi]
      constructor
      · rintro ⟨hc, -⟩
        exact .inl ⟨i, hc, rfl⟩
      · rintro (⟨j, hc, hPlace⟩ | ⟨w, hw, j, -, hPlace⟩)
        · obtain rfl : i = j := by omega
          exact ⟨hc, hFirst c (List.mem_of_getElem? hc)⟩
        · have := le_of_mem_wordsAt hw
          omega
    · have hPlace : start + i = start + first.length + (i - first.length) := by omega
      rw [List.getElem?_append_right (by omega), hPlace]
      constructor
      · intro hc
        exact .inr (ih.mp hc)
      · rintro (⟨j, hc, hPlace'⟩ | hLater)
        · have := (List.getElem?_eq_some_iff.mp hc).1
          omega
        · exact ih.mpr hLater

-- ---------------------------------------------------------------------------
-- Words joined by separators
-- ---------------------------------------------------------------------------

/-- A text is made of these words, with separators around them wherever one likes and at least one
between two of them. -/
inductive Spaced : List (List Char) → List Char → Prop where
  | nil : Spaced [] []
  | separator {c : Char} {ws : List (List Char)} {cs : List Char} :
      isSeparator c = true → Spaced ws cs → Spaced ws (c :: cs)
  | word {w : List Char} {ws : List (List Char)} {rest : List Char} :
      (∀ c ∈ rest.head?, isSeparator c = true) → Spaced ws rest → Spaced (w :: ws) (w ++ rest)

/-- Words with separators between them are found again. -/
theorem Spaced.map_wordsAt {ws : List (List Char)} {cs : List Char} (h : Spaced ws cs)
    (hWords : ∀ w ∈ ws, w ≠ [] ∧ ∀ c ∈ w, isSeparator c = false) (start : Nat) :
    (wordsAt start cs).map Prod.snd = ws := by
  induction h generalizing start with
  | nil => simp
  | separator hc _ ih =>
    rw [wordsAt_cons_separator hc]
    exact ih hWords (start + 1)
  | @word w ws rest hRest _ ih =>
    obtain ⟨hNe, hNo⟩ := hWords w (List.mem_cons_self ..)
    rw [wordsAt_word_append hNe hNo hRest, List.map_cons,
      ih fun v hv => hWords v (List.mem_cons_of_mem w hv)]

/-- Nothing but separators stands between the words. -/
theorem Spaced.separator_or_mem {ws : List (List Char)} {cs : List Char} (h : Spaced ws cs)
    {c : Char} (hc : c ∈ cs) : isSeparator c = true ∨ ∃ w ∈ ws, c ∈ w := by
  induction h with
  | nil => cases hc
  | separator hSeparator _ ih =>
    rcases List.mem_cons.mp hc with rfl | hc
    · exact .inl hSeparator
    · exact ih hc
  | @word w ws rest _ _ ih =>
    rcases List.mem_append.mp hc with hc | hc
    · exact .inr ⟨w, List.mem_cons_self .., hc⟩
    · exact (ih hc).imp_right fun hMem => List.exists_mem_cons_of_exists hMem

/-- Separators may stand in front. -/
theorem Spaced.separators_append {ws : List (List Char)} {gap cs : List Char}
    (hGap : ∀ c ∈ gap, isSeparator c = true) (h : Spaced ws cs) : Spaced ws (gap ++ cs) := by
  induction gap with
  | nil => exact h
  | cons c gap ih =>
    exact .separator (hGap c (List.mem_cons_self ..))
      (ih fun d hd => hGap d (List.mem_cons_of_mem c hd))

/-- The same separators may stand between any two words. -/
theorem spaced_intercalate {gap : List Char} (hNe : gap ≠ [])
    (hGap : ∀ c ∈ gap, isSeparator c = true) (ws : List (List Char)) :
    Spaced ws (gap.intercalate ws) := by
  induction ws with
  | nil => exact .nil
  | cons word ws ih =>
    cases ws with
    | nil =>
      have hAlone : Spaced [word] (word ++ []) := .word (by simp) .nil
      simpa using hAlone
    | cons next ws =>
      rw [List.intercalate_cons_cons, List.append_assoc]
      refine .word ?_ (ih.separators_append hGap)
      obtain ⟨d, gap', rfl⟩ := List.exists_cons_of_ne_nil hNe
      intro c hc
      rw [List.cons_append, List.head?_cons, Option.mem_def, Option.some_inj] at hc
      rw [← hc]
      exact hGap d (List.mem_cons_self ..)

/-- Texts that are words, with a space between them, are the words of the whole. -/
theorem words_intercalate {texts : List String}
    (h : ∀ text ∈ texts, text.toList ≠ [] ∧ ∀ c ∈ text.toList, isSeparator c = false) :
    words (String.intercalate " " texts) = texts.map String.toList := by
  have hSpace : " ".toList = [' '] := rfl
  rw [words, String.toList_intercalate, hSpace]
  have hGap : ∀ c ∈ [' '], isSeparator c = true := by simp [isSeparator]
  exact (spaced_intercalate (List.cons_ne_nil _ _) hGap _).map_wordsAt (List.forall_mem_map.mpr h) 0

end MediaLibrary.Text
