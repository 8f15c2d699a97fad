import MediaLibrary.Text.Blank

/-!
# Text — words

The words of a text are its maximal runs of characters other than separators.
`wordsAt` lists them with the place of their first character, counted in
characters from the beginning of the text; `words` forgets the places.

* `wordsAt_ne_nil` — no word is empty;
* `wordsAt_no_separator` — no word holds a separator.
-/

namespace MediaLibrary.Text

/-- A character of a word. -/
def isWordChar (c : Char) : Bool :=
  !isSeparator c

/-- The words of `cs`, each with its place, when `cs` itself begins at place `start`. -/
def wordsAt (start : Nat) (cs : List Char) : List (Nat × List Char) :=
  match _h : cs.dropWhile isSeparator with
  | [] => []
  | c :: rest =>
    let place := start + (cs.takeWhile isSeparator).length
    let word := c :: rest.takeWhile isWordChar
    (place, word) :: wordsAt (place + word.length) (rest.dropWhile isWordChar)
termination_by cs.length
decreasing_by
  have h₁ : (rest.dropWhile isWordChar).length ≤ rest.length :=
    (List.dropWhile_sublist _).length_le
  have h₂ : (c :: rest).length ≤ cs.length := _h ▸ (List.dropWhile_sublist _).length_le
  simp only [List.length_cons] at h₂
  omega

/-- The words of a text, in order. -/
def words (s : String) : List (List Char) :=
  (wordsAt 0 s.toList).map Prod.snd

/-- No word is empty. -/
theorem wordsAt_ne_nil {start : Nat} {cs : List Char} :
    ∀ w ∈ wordsAt start cs, w.2 ≠ [] := by
  fun_induction wordsAt start cs with
  | case1 => simp
  | case2 start cs c rest _ place word ih =>
    intro w hw
    rcases List.mem_cons.1 hw with rfl | hw
    · simp [word]
    · exact ih w hw

/-- No word holds a separator. -/
theorem wordsAt_no_separator {start : Nat} {cs : List Char} :
    ∀ w ∈ wordsAt start cs, ∀ c ∈ w.2, isSeparator c = false := by
  fun_induction wordsAt start cs with
  | case1 => simp
  | case2 start cs c rest h place word ih =>
    intro w hw
    rcases List.mem_cons.1 hw with rfl | hw
    · intro d hd
      rcases List.mem_cons.1 hd with rfl | hd
      · have := List.head?_dropWhile_not isSeparator cs
        simpa [h] using this
      · have := List.all_takeWhile (p := isWordChar) (l := rest)
        have := List.all_eq_true.1 this d hd
        simpa [isWordChar] using this
    · exact ih w hw

end MediaLibrary.Text
