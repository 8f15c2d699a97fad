import MediaLibrary.Text.Blank

/-!
# Tag — the characters of names

A tag name as it is typed consists of printable ASCII characters other than `*`
and `,`. Two of them also act as marks in front of a term of a query: `-` for a
tag that must be absent and `~` for a tag of the optional group. Inside a name
they are ordinary characters.

* `isTagChar` — the characters of names;
* `classify` — what a character means where a new term may begin.
-/

namespace MediaLibrary.Tag

open MediaLibrary.Text

/-- A character of a tag name. -/
def isTagChar (c : Char) : Bool :=
  0x21 ≤ c.toNat && c.toNat ≤ 0x7e && c != '*' && c != ','

/-- A mark in front of a term. -/
inductive Mark where
  | exclude
  | optional
deriving DecidableEq

/-- The character of a mark. -/
def Mark.char : Mark → Char
  | .exclude => '-'
  | .optional => '~'

/-- What a character means where a new term may begin. -/
inductive CharClass where
  | separator
  | mark (m : Mark)
  | tag
  | invalid
deriving DecidableEq

/-- The class of a character. -/
def classify (c : Char) : CharClass :=
  if isSeparator c then .separator
  else if c == Mark.exclude.char then .mark .exclude
  else if c == Mark.optional.char then .mark .optional
  else if isTagChar c then .tag
  else .invalid

/-- A mark is classified as itself. -/
theorem classify_mark (m : Mark) : classify m.char = .mark m := by
  cases m <;> decide

/-- No separator is a character of a name. -/
theorem isTagChar_of_isSeparator {c : Char} (h : isSeparator c = true) : isTagChar c = false := by
  simp only [isSeparator, Bool.or_eq_true, beq_iff_eq] at h
  rcases h with ((rfl | rfl) | rfl) | rfl <;> decide

end MediaLibrary.Tag
