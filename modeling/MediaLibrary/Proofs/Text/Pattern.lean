import Mathlib.Data.List.Forall2
import MediaLibrary.Proofs.Text.Collation
import MediaLibrary.Text.Pattern

/-!
# Text — what patterns stand for

A pattern stands for the texts that can be cut into pieces, one for each of its parts: a
single character for most of them, any piece at all for a run. Written with a `\` in front
of its special characters, a text is the pattern that has just its characters as parts,
whatever they are; so with a run behind it the pattern stands for the texts that begin with
it, and nothing in the text acts as a mark. Only a NUL does: it hides what stands behind it,
and so the run as well.

* `Pattern.Part.StandsFor`, `Pattern.fits_cons_iff` — the texts of a pattern, piece by piece;
* `Pattern.parts?_escape` — the parts of a text that is written as a pattern;
* `Begins`, `Pattern.accepts_beginning_iff` — the pattern of the texts that begin with another;
* `Pattern.utf8ByteSize_beginning` — how long it is;
* `IsTested`, `Pattern.isTested_iff` — the names that are held against it.
-/

namespace MediaLibrary.Text

/-- A text begins with another one, as far as the store reads them: in front of a NUL it has the
characters that the other one has there, the case of `A` to `Z` aside. A NUL in the other one ends
what the text may have as well. -/
def Begins (text start : String) : Prop :=
  ∃ opening rest front, IsFront (opening ++ rest) text.toList ∧ IsFront front start.toList ∧
    List.Forall₂ SameChar opening front ∧ ('\x00' ∈ start.toList → rest = [])

/-- A name is met where the store looks for those that begin with some characters. Where `@` is the
last of them, so are the names that have another character there which comes before the letters and
not before `@`. -/
def IsMet (name head : List Char) : Prop :=
  (∃ front rest, name = front ++ rest ∧ List.Forall₂ SameChar front head) ∨
    ∃ start front c rest, head = start ++ ['@'] ∧ name = front ++ c :: rest ∧
      List.Forall₂ SameChar front start ∧ '@' ≤ c.toLower ∧ c.toLower < 'a'

/-- A name is held against the pattern of a text: all names are if the text has nothing in front of
a NUL to look names up by, and otherwise the names that are met there, if there is a NUL or an `@`
comes last, so that a name that is met need not begin with the text. -/
def IsTested (start name : String) : Prop :=
  ∃ front, IsFront front start.toList ∧
    (front = [] ∨ (('\x00' ∈ start.toList ∨ front.getLast? = some '@') ∧
      ∃ front', IsFront front' name.toList ∧ IsMet front' front))

/-- The characters that have another sense in a pattern, and are written with a `\` there. -/
def marks : List Char := ['%', '_', '\\']

namespace Pattern

-- ---------------------------------------------------------------------------
-- Pieces
-- ---------------------------------------------------------------------------

/-- A part of a pattern stands for a piece of a text. -/
def Part.StandsFor : Part → List Char → Prop
  | char d, piece => ∃ c : Char, piece = [c] ∧ c.toLower = d.toLower
  | anyChar, piece => ∃ c, piece = [c]
  | anyRun, _ => True

variable {part : Part} {parts : List Part} {cs : List Char}

/-- Some end passes the test just if the text ends so. -/
theorem anyEnd_iff {test : List Char → Bool} :
    anyEnd test cs = true ↔ ∃ front rest, cs = front ++ rest ∧ test rest = true := by
  induction cs with
  | nil => simp [anyEnd]
  | cons c cs ih =>
    rw [anyEnd, Bool.or_eq_true, ih]
    constructor
    · rintro (hAll | ⟨front, rest, rfl, hRest⟩)
      · exact ⟨[], c :: cs, rfl, hAll⟩
      · exact ⟨c :: front, rest, rfl, hRest⟩
    · rintro ⟨_ | ⟨d, front⟩, rest, hSplit, hRest⟩
      · obtain rfl : c :: cs = rest := hSplit
        exact .inl hRest
      · obtain ⟨rfl, rfl⟩ := List.cons.inj hSplit
        exact .inr ⟨front, rest, rfl, hRest⟩

/-- What fits begins with a piece for the first part, and the rest fits the other parts. -/
theorem fits_cons_iff :
    fits (part :: parts) cs = true ↔
      ∃ piece rest, cs = piece ++ rest ∧ part.StandsFor piece ∧ fits parts rest = true := by
  cases part with
  | anyRun => simp [fits, anyEnd_iff, Part.StandsFor]
  | char d =>
    cases cs with
    | nil => simp [fits, Part.StandsFor]
    | cons c cs => simp [fits, Part.StandsFor, and_assoc]
  | anyChar =>
    cases cs with
    | nil => simp [fits, Part.StandsFor]
    | cons c cs => simp [fits, Part.StandsFor]

-- ---------------------------------------------------------------------------
-- Texts as patterns
-- ---------------------------------------------------------------------------

/-- A character behind the escape stands for itself. -/
theorem parts?_special (c : Char) (rest : List Char) :
    parts? ('\\' :: c :: rest) = (parts? rest).map (.char c :: ·) := by
  rw [parts?]

/-- A character that is not special is a part by itself. -/
theorem parts?_plain {c : Char} (hc : isSpecial c = false) (rest : List Char) :
    parts? (c :: rest) = (parts? rest).map (.char c :: ·) := by
  simp only [isSpecial, Bool.or_eq_false_iff, beq_eq_false_iff_ne] at hc
  obtain ⟨⟨hRun, hOne⟩, hMark⟩ := hc
  rw [parts?]
  · simp [partOf, hRun, hOne]
  · simp [hMark]
  · simp [hMark]

/-- The parts of a text that is written as a pattern are its characters. -/
theorem parts?_escape (cs rest : List Char) :
    parts? (escape cs ++ rest) = (parts? rest).map (cs.map .char ++ ·) := by
  induction cs with
  | nil => simp [escape]
  | cons c cs ih =>
    have hCons : escape (c :: cs) = (if isSpecial c then ['\\', c] else [c]) ++ escape cs := rfl
    rw [hCons, List.append_assoc]
    split
    · rw [List.cons_append, List.cons_append, List.nil_append, parts?_special, ih, Option.map_map]
      rfl
    · rename_i hPlain
      rw [List.cons_append, List.nil_append, parts?_plain (by simpa using hPlain), ih,
        Option.map_map]
      rfl

/-- A NUL ends a text that is written as a pattern where it ends the text. -/
theorem readable_escape (cs : List Char) : readable (escape cs) = escape (readable cs) := by
  induction cs with
  | nil => rfl
  | cons c cs ih =>
    have hCons : escape (c :: cs) = (if isSpecial c then ['\\', c] else [c]) ++ escape cs := rfl
    by_cases hNul : c = '\x00'
    · subst hNul
      rfl
    · have hRead (d : Char) (ds : List Char) (hd : d ≠ '\x00') :
          readable (d :: ds) = d :: readable ds :=
        List.takeWhile_cons_of_pos (bne_iff_ne.mpr hd)
      have hEscape : escape (c :: readable cs) =
          (if isSpecial c then ['\\', c] else [c]) ++ escape (readable cs) := rfl
      rw [hCons, hRead c cs hNul, hEscape, ← ih]
      split
      · exact (hRead _ _ (by decide)).trans (congrArg _ (hRead c _ hNul))
      · exact hRead c _ hNul

/-- To escape a text adds no NUL. -/
theorem nul_mem_escape_iff {cs : List Char} : '\x00' ∈ escape cs ↔ '\x00' ∈ cs := by
  simp only [escape, List.mem_flatMap]
  constructor
  · rintro ⟨c, hc, hMem⟩
    split at hMem
    · simp only [List.mem_cons, List.not_mem_nil, or_false] at hMem
      rcases hMem with hSlash | rfl
      · cases hSlash
      · exact hc
    · rwa [List.mem_singleton.mp hMem]
  · intro h
    exact ⟨'\x00', h, List.mem_singleton.mpr rfl⟩

/-- The parts of the pattern are the characters of the text, and a run unless a NUL hides it. -/
theorem parts?_beginning (start : String) :
    parts? (readable (beginning start).toList) =
      some ((readable start.toList).map .char
        ++ if '\x00' ∈ start.toList then [] else [.anyRun]) := by
  rw [beginning, String.toList_ofList]
  by_cases hNul : '\x00' ∈ start.toList
  · rw [readable_append (nul_mem_escape_iff.mpr hNul), readable_escape, if_pos hNul,
      ← List.append_nil (escape _), parts?_escape]
    rfl
  · have hAll : '\x00' ∉ escape start.toList ++ ['%'] := by
      rw [List.mem_append, nul_mem_escape_iff]
      rintro (h | h)
      · exact hNul h
      · exact absurd h (by decide)
    rw [readable_eq_self hAll, readable_eq_self hNul, if_neg hNul, parts?_escape]
    rfl

/-- Characters as parts stand for the characters themselves, in either case. -/
theorem fits_chars_append {ds : List Char} :
    fits (ds.map .char ++ parts) cs = true ↔
      ∃ front rest, cs = front ++ rest ∧
        List.Forall₂ SameChar front ds ∧
        fits parts rest = true := by
  induction ds generalizing cs with
  | nil => simp
  | cons d ds ih =>
    rw [List.map_cons, List.cons_append, fits_cons_iff]
    simp only [ih]
    constructor
    · rintro ⟨_, _, rfl, ⟨c, rfl, hc⟩, front, rest, rfl, hFront, hRest⟩
      exact ⟨c :: front, rest, rfl, .cons hc hFront, hRest⟩
    · rintro ⟨_, rest, rfl, hChars, hRest⟩
      obtain ⟨c, front, hc, hFront, rfl⟩ := List.forall₂_cons_right_iff.mp hChars
      exact ⟨[c], front ++ rest, rfl, ⟨c, rfl, hc⟩, front, rest, rfl, hFront, hRest⟩

/-- The pattern made of a text stands for the texts that begin with it, whatever characters it
has. -/
theorem accepts_beginning_iff {start text : String} :
    accepts (beginning start) text = true ↔ Begins text start := by
  have hRun (rest : List Char) : fits [.anyRun] rest = true :=
    fits_cons_iff.mpr ⟨rest, [], (List.append_nil rest).symm, trivial, rfl⟩
  have hRest (rest : List Char) :
      fits (if '\x00' ∈ start.toList then [] else [.anyRun]) rest = true ↔
      ('\x00' ∈ start.toList → rest = []) := by
    split
    · rename_i hNul
      simp [fits, hNul]
    · rename_i hNul
      simp [hRun, hNul]
  rw [accepts, parts?_beginning]
  simp only [fits_chars_append, hRest, Begins, isFront_iff, exists_and_left, exists_eq_left']

/-- The pattern of a text takes another byte for each of its marks, and one for the run. -/
theorem utf8ByteSize_beginning (start : String) :
    (beginning start).utf8ByteSize = start.utf8ByteSize + start.toList.countP (· ∈ marks) + 1 := by
  have hEscape (cs : List Char) :
      byteSize (escape cs) = byteSize cs + cs.countP (· ∈ marks) := by
    induction cs with
    | nil => rfl
    | cons c cs ih =>
      have hCons : escape (c :: cs) = (if isSpecial c then ['\\', c] else [c]) ++ escape cs := rfl
      have hMarks : isSpecial c = true ↔ c ∈ marks := by simp [isSpecial, marks, or_assoc]
      have hSize : byteSize (c :: cs) = c.utf8Size + byteSize cs := rfl
      rw [hCons, byteSize_append, ih, hSize]
      by_cases hMark : c ∈ marks
      · rw [if_pos (hMarks.mpr hMark), List.countP_cons, if_pos (decide_eq_true hMark)]
        have hTwo : byteSize ['\\', c] = 1 + c.utf8Size := rfl
        omega
      · rw [if_neg (mt hMarks.mp hMark), List.countP_cons, if_neg (by simpa using hMark)]
        have hOne : byteSize [c] = c.utf8Size := rfl
        omega
  rw [utf8ByteSize_eq, utf8ByteSize_eq, beginning, String.toList_ofList, byteSize_append, hEscape]
  rfl

-- ---------------------------------------------------------------------------
-- Names that are tested
-- ---------------------------------------------------------------------------

/-- Before the last character, names have the characters that they are looked up by. -/
theorem isMet_cons_iff {c d : Char} {cs ds : List Char} (h : d = '@' → ds ≠ []) :
    IsMet (c :: cs) (d :: ds) ↔ SameChar c d ∧ IsMet cs ds := by
  constructor
  · rintro (⟨front, rest, hName, hFront⟩ | ⟨start, front, a, rest, hHead, hName, hFront, hRange⟩)
    · obtain ⟨b, front, hb, hOthers, rfl⟩ := List.forall₂_cons_right_iff.mp hFront
      obtain ⟨rfl, rfl⟩ := List.cons.inj hName
      exact ⟨hb, .inl ⟨front, rest, rfl, hOthers⟩⟩
    · cases hFront with
      | nil =>
        obtain ⟨rfl, rfl⟩ := List.cons.inj hHead
        exact absurd rfl (h rfl)
      | cons hb hFront =>
        obtain ⟨rfl, rfl⟩ := List.cons.inj hHead
        obtain ⟨rfl, rfl⟩ := List.cons.inj hName
        exact ⟨hb, .inr ⟨_, _, a, rest, rfl, rfl, hFront, hRange⟩⟩
  · rintro ⟨hc, ⟨front, rest, rfl, hFront⟩ | ⟨start, front, a, rest, rfl, rfl, hFront, hRange⟩⟩
    · exact .inl ⟨c :: front, rest, rfl, .cons hc hFront⟩
    · exact .inr ⟨d :: start, c :: front, a, rest, rfl, rfl, .cons hc hFront, hRange⟩

/-- Where `@` is the last character, it stands for all up to the letters. -/
theorem isMet_at_iff {c : Char} {cs : List Char} :
    IsMet (c :: cs) ['@'] ↔ '@' ≤ c.toLower ∧ c.toLower < 'a' := by
  constructor
  · rintro (⟨front, rest, hName, hFront⟩ | ⟨start, front, a, rest, hHead, hName, hFront, hRange⟩)
    · obtain ⟨b, front, hb, -, rfl⟩ := List.forall₂_cons_right_iff.mp hFront
      obtain ⟨rfl, rfl⟩ := List.cons.inj hName
      rw [hb]
      decide
    · cases hFront with
      | nil =>
        obtain ⟨rfl, rfl⟩ := List.cons.inj hName
        exact hRange
      | cons _ _ => simp at hHead
  · exact fun hRange => .inr ⟨[], [], c, cs, rfl, rfl, .nil, hRange⟩

/-- Characters are near just if a name that begins with them is met. -/
theorem isNear_iff {head name : List Char} : isNear head name = true ↔ IsMet name head := by
  fun_induction isNear head name with
  | case1 name => exact iff_of_true rfl (.inl ⟨[], name, rfl, .nil⟩)
  | case2 d ds =>
    refine iff_of_false Bool.false_ne_true ?_
    rintro (⟨front, rest, hName, hFront⟩ | ⟨_, front, a, rest, _, hName, _, _⟩)
    · obtain ⟨b, front, -, -, rfl⟩ := List.forall₂_cons_right_iff.mp hFront
      cases hName
    · simp at hName
  | case3 c cs =>
    rw [isMet_at_iff, Bool.and_eq_true, decide_eq_true_eq, decide_eq_true_eq]
  | case4 d ds c cs hNot ih =>
    rw [isMet_cons_iff (fun hAt hLast => hNot hAt hLast), Bool.and_eq_true, beq_iff_eq, ih,
      SameChar]

/-- The pattern comes to be tested just against the names that are held against it. -/
theorem isTested_iff {start name : String} : isTested start name = true ↔ IsTested start name := by
  simp [isTested, isNear_iff, IsTested, isFront_iff]

end Pattern

instance (text start : String) : Decidable (Begins text start) :=
  decidable_of_iff _ Pattern.accepts_beginning_iff

end MediaLibrary.Text
