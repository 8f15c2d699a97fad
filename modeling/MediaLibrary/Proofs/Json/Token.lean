import MediaLibrary.Json.Reader
import MediaLibrary.Json.Value
import MediaLibrary.Proofs.Basic
import MediaLibrary.Proofs.Text.Digits

/-!
# Json — tokens are read as they are written

A token is read up to its own end: a string ends with its quote, and a whole number
ends where no digit, point or exponent follows. Escapes hide every character that
could end a string, so a string comes back character by character.

* `scanString_escape`, `readString_text` — strings;
* `Ends`, `scanNumeral_int` — whole numbers;
* `quantity_ofInt` — a whole number of 64 bits is read as whole.
-/

namespace MediaLibrary.Json

open Text

-- ---------------------------------------------------------------------------
-- Gaps
-- ---------------------------------------------------------------------------

/-- There are only blanks in this text. -/
def IsGapText (cs : List Char) : Prop :=
  ∀ c ∈ cs, isGap c = true

theorem isGapText_nil : IsGapText [] :=
  fun _ hc => absurd hc List.not_mem_nil

/-- A gap is skipped with all that it is made of. -/
theorem skipGaps_append {gap : List Char} (hGap : IsGapText gap) (cs : List Char) :
    skipGaps (gap ++ cs) = skipGaps cs :=
  List.dropWhile_append_of_pos hGap

theorem skipGaps_cons {c : Char} (hc : isGap c = false) (cs : List Char) :
    skipGaps (c :: cs) = c :: cs :=
  List.dropWhile_cons_of_neg (by simp [hc])

/-- A gap reaches up to the next token. -/
theorem skipGaps_gap {gap : List Char} (hGap : IsGapText gap) {c : Char} (hc : isGap c = false)
    (cs : List Char) : skipGaps (gap ++ c :: cs) = c :: cs := by
  rw [skipGaps_append hGap, skipGaps_cons hc]

-- ---------------------------------------------------------------------------
-- Strings
-- ---------------------------------------------------------------------------

/-- The piece that a written character is scanned as: controls without a letter of their own are
written as units. -/
def pieceOf (c : Char) : Piece :=
  if escapeLetter? c = none ∧ c < ' ' then .unit c.toNat else .char c

/-- The control characters are the 32 before the blank. -/
theorem toNat_lt_of_control {c : Char} (hc : c < ' ') : c.toNat < 32 :=
  hc

/-- The four digits of a control write its code point. -/
theorem hexValue?_control {n : Nat} (hn : n < 32) :
    hexValue? ['0', '0', Nat.digitChar (n / 16), Nat.digitChar (n % 16)] = some n := by
  have hAll : ∀ n < 32,
      hexValue? ['0', '0', Nat.digitChar (n / 16), Nat.digitChar (n % 16)] = some n := by
    decide
  exact hAll n hn

/-- A letter after a backslash stands for the character that it was written for. -/
theorem unescapeLetter?_escapeLetter? {c letter : Char} (h : escapeLetter? c = some letter) :
    unescapeLetter? letter = some c ∧ letter ≠ 'u' := by
  simp only [escapeLetter?, beq_iff_eq] at h
  split_ifs at h <;> cases h <;> subst c <;> decide

theorem escapeLetter?_none {c : Char} (h : escapeLetter? c = none) : c ≠ '"' ∧ c ≠ '\\' := by
  constructor <;> rintro rfl <;> cases h

/-- What a character is written as is scanned as its piece. -/
theorem scanString_escape (c : Char) (rest : List Char) :
    scanString (escape c ++ rest) = withPiece (pieceOf c) (scanString rest) := by
  unfold escape pieceOf
  cases hLetter : escapeLetter? c with
  | some letter =>
    obtain ⟨hUnescape, hNotUnit⟩ := unescapeLetter?_escapeLetter? hLetter
    rw [List.cons_append, scanString.eq_def]
    simp [hUnescape, hNotUnit]
  | none =>
    obtain ⟨hNotQuote, hNotBackslash⟩ := escapeLetter?_none hLetter
    by_cases hControl : c < ' '
    · simp only [hControl, if_true, and_self, List.cons_append, List.nil_append]
      rw [scanString.eq_def]
      simp [hexValue?_control (toNat_lt_of_control hControl)]
    · simp only [hControl, if_false, and_false, List.cons_append, List.nil_append]
      rw [scanString.eq_def]
      simp [hControl, hNotQuote, hNotBackslash]

/-- An escaped text is read up to its closing quote, piece by piece. -/
theorem scanString_text (cs rest : List Char) :
    scanString (cs.flatMap escape ++ '"' :: rest) = (cs.map pieceOf, .ok rest) := by
  induction cs with
  | nil =>
    rw [List.flatMap_nil, List.nil_append, scanString.eq_def]
    rfl
  | cons c cs ih =>
    rw [List.flatMap_cons, List.append_assoc, scanString_escape, ih]
    rfl

/-- The pieces of written characters are these characters. No control is half a surrogate pair. -/
theorem joinPieces_pieceOf (cs : List Char) : joinPieces none (cs.map pieceOf) = .ok cs := by
  induction cs with
  | nil => rfl
  | cons c cs ih =>
    by_cases hControl : escapeLetter? c = none ∧ c < ' '
    · have hSmall := toNat_lt_of_control hControl.2
      have hNotTrailing : isTrailing c.toNat = false := by
        simp [isTrailing]
        omega
      have hNotLeading : isLeading c.toNat = false := by
        simp [isLeading]
        omega
      have hPiece : pieceOf c = .unit c.toNat := if_pos hControl
      rw [List.map_cons, hPiece, joinPieces.eq_def]
      simp only [hNotTrailing, hNotLeading, ih, Char.ofNat_toNat]
      rfl
    · have hPiece : pieceOf c = .char c := if_neg hControl
      rw [List.map_cons, hPiece, joinPieces, ih]
      rfl

/-- The pieces of a text make up the text. -/
theorem literalText_pieceOf (s : String) : literalText (s.toList.map pieceOf) = .ok s := by
  rw [literalText, joinPieces_pieceOf]
  exact congrArg Except.ok String.ofList_toList

/-- A written string after its first quote. -/
theorem readString_text (s : String) (rest : List Char) :
    readString (s.toList.flatMap escape ++ '"' :: rest) = (.string (.ok s), some rest) := by
  rw [readString, scanString_text]
  simp only [literalText_pieceOf]

-- ---------------------------------------------------------------------------
-- Whole numbers
-- ---------------------------------------------------------------------------

/-- A number that stands in front of this text ends there. -/
def Ends (rest : List Char) : Prop :=
  ∀ c ∈ rest.head?, c.isDigit = false ∧ c ≠ '.' ∧ c ≠ 'e' ∧ c ≠ 'E'

theorem ends_nil : Ends [] :=
  fun _ hc => absurd hc (by simp)

/-- A number ends at a gap and at everything that may follow it. -/
theorem ends_gap {gap : List Char} (hGap : IsGapText gap) {c : Char}
    (hc : c = ',' ∨ c = ']' ∨ c = '\x7d') (rest : List Char) : Ends (gap ++ c :: rest) := by
  cases gap with
  | nil =>
    rintro d hd
    cases hd
    rcases hc with rfl | rfl | rfl <;> decide
  | cons g gap =>
    rintro d hd
    cases hd
    have hg : isGap g = true := hGap g (List.mem_cons_self ..)
    simp only [isGap, Bool.or_eq_true, beq_iff_eq] at hg
    rcases hg with ((rfl | rfl) | rfl) | rfl <;> decide

/-- The numeral of a whole number. -/
def Numeral.ofInt (n : Int) : Numeral :=
  ⟨decide (n < 0), Nat.toDigits 10 n.natAbs, [], none⟩

/-- A whole number is written as its sign and its digits. -/
theorem toList_toString_int (n : Int) :
    (toString n).toList = (if n < 0 then ['-'] else []) ++ Nat.toDigits 10 n.natAbs := by
  rw [Int.toString_eq_repr, Int.repr_eq_if]
  by_cases hn : n < 0
  · have hAbs : (-n).toNat = n.natAbs := by omega
    simp [Int.not_le.mpr hn, hn, hAbs, Nat.repr_eq_ofList_toDigits]
  · have hAbs : n.toNat = n.natAbs := by omega
    simp [hn, Int.not_lt.mp hn, hAbs, Nat.repr_eq_ofList_toDigits]

/-- A number begins with this character: a sign or a digit. -/
def beginsNumber (c : Char) : Bool :=
  c == '-' || c.isDigit

theorem ne_of_beginsNumber {c d : Char} (hc : beginsNumber c = true)
    (hd : beginsNumber d = false) : c ≠ d := by
  rintro rfl
  rw [hc] at hd
  cases hd

theorem isGap_of_beginsNumber {c : Char} (hc : beginsNumber c = true) : isGap c = false := by
  simp [isGap, ne_of_beginsNumber hc (d := ' ') (by decide),
    ne_of_beginsNumber hc (d := '\n') (by decide), ne_of_beginsNumber hc (d := '\t') (by decide),
    ne_of_beginsNumber hc (d := '\r') (by decide)]

/-- A written number begins as a number. -/
theorem head_toString_int (n : Int) :
    ∃ c tail, (toString n).toList = c :: tail ∧ beginsNumber c = true := by
  rw [toList_toString_int]
  by_cases hn : n < 0
  · exact ⟨'-', _, by rw [if_pos hn]; rfl, by decide⟩
  · obtain ⟨d, ds, hDigits⟩ := List.exists_cons_of_ne_nil
      (Nat.toDigits_ne_nil (n := n.natAbs) (b := 10))
    have hDigit : d.isDigit = true := isDigit_of_mem_toDigits (hDigits ▸ List.mem_cons_self ..)
    exact ⟨d, ds, by rw [if_neg hn, hDigits]; rfl, by simp [beginsNumber, hDigit]⟩

/-- All digits of a number belong to it. -/
theorem scanWhole_toDigits {rest : List Char} (hRest : Ends rest) (n : Nat) :
    scanWhole (Nat.toDigits 10 n ++ rest) = .ok (Nat.toDigits 10 n, rest) := by
  have hStop : ∀ c ∈ rest.head?, c.isDigit = false := fun c hc => (hRest c hc).1
  rw [scanWhole, scanDigits, takeWhile_run (fun _ => isDigit_of_mem_toDigits) hStop,
    dropWhile_run (fun _ => isDigit_of_mem_toDigits) hStop]
  simp only
  split
  · rename_i hNil
    exact absurd hNil Nat.toDigits_ne_nil
  · rename_i hZero
    exact absurd hZero (toDigits_ne_zero_cons n _ _)
  · rfl

/-- A whole number has no fraction. -/
theorem scanFraction_ends {rest : List Char} (hRest : Ends rest) :
    scanFraction rest = .ok ([], rest) := by
  cases rest with
  | nil => rfl
  | cons c rest =>
    have hNotPoint : c ≠ '.' := (hRest c rfl).2.1
    rw [scanFraction]
    rintro cs hcs
    cases hcs
    exact hNotPoint rfl

theorem scanExponent_ends {rest : List Char} (hRest : Ends rest) :
    scanExponent rest = .ok (none, rest) := by
  cases rest with
  | nil => rfl
  | cons c rest =>
    obtain ⟨-, -, hSmall, hGreat⟩ := hRest c rfl
    simp [scanExponent, hSmall, hGreat]

/-- A written whole number is scanned as its numeral. -/
theorem scanNumeral_int {rest : List Char} (hRest : Ends rest) (n : Int) :
    scanNumeral ((toString n).toList ++ rest) = .ok (.ofInt n, rest) := by
  have hSign : scanNumeral ((toString n).toList ++ rest) = (do
      let whole ← scanWhole (Nat.toDigits 10 n.natAbs ++ rest)
      let fraction ← scanFraction whole.2
      let exponent ← scanExponent fraction.2
      return (⟨decide (n < 0), whole.1, fraction.1, exponent.1⟩, exponent.2)) := by
    rw [toList_toString_int]
    by_cases hn : n < 0
    · simp [scanNumeral, hn]
    · obtain ⟨d, ds, hDigits⟩ := List.exists_cons_of_ne_nil
        (Nat.toDigits_ne_nil (n := n.natAbs) (b := 10))
      have hNotMinus : d ≠ '-' := by
        rintro rfl
        exact absurd (isDigit_of_mem_toDigits (hDigits ▸ List.mem_cons_self ..)) (by decide)
      simp [scanNumeral, hn, hDigits, hNotMinus]
  rw [hSign, scanWhole_toDigits hRest]
  simp only [bind, Except.bind, scanFraction_ends hRest, scanExponent_ends hRest]
  rfl

/-- A whole number is read as itself. -/
theorem readNumber_int {rest : List Char} (hRest : Ends rest) (n : Int) :
    readNumber ((toString n).toList ++ rest) = (.number (.ofInt n), some rest) := by
  rw [readNumber, scanNumeral_int hRest]

/-- A whole number of 64 bits, with a sign or without, is read as whole. -/
theorem quantity_ofInt {n : Int} (hLow : int64Min ≤ n) (hHigh : n ≤ nat64Max) :
    (Numeral.ofInt n).quantity = .whole n := by
  simp only [Numeral.quantity, Numeral.ofInt, digitsValue_toDigits, List.isEmpty_nil,
    Option.isNone_none, Bool.and_self, if_true]
  by_cases hn : n < 0
  · have hAbs : -(n.natAbs : Int) = n := by omega
    have hPos : 0 < n.natAbs := by omega
    simp only [hn, hAbs, hPos, hLow, decide_true, Bool.and_self, if_true]
  · have hAbs : (n.natAbs : Int) = n := by omega
    have hFits : n.natAbs ≤ nat64Max := by omega
    simp only [hn, hAbs, hFits, decide_false, Bool.false_eq_true, if_false, if_true]

end MediaLibrary.Json
