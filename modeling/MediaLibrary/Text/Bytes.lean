/-!
# Text — places in bytes

Places in a text are counted in the bytes of its UTF-8 form where a limit or a
cut asks for it. A cut has to fall between two characters.

* `withPlaces` — the characters, each with the place where it begins;
* `cut?` — the characters between two places.
-/

namespace MediaLibrary.Text

/-- The size of a text in bytes. -/
def byteSize (cs : List Char) : Nat :=
  (cs.map Char.utf8Size).foldr (· + ·) 0

/-- The characters, each with its place, when the first one begins at `place`. -/
def withPlaces (place : Nat) : List Char → List (Char × Nat)
  | [] => []
  | c :: cs => (c, place) :: withPlaces (place + c.utf8Size) cs

/-- The characters after the first `n` bytes, unless these end inside a character. -/
def dropBytes? : Nat → List Char → Option (List Char)
  | 0, cs => some cs
  | _ + 1, [] => none
  | n + 1, c :: cs => if c.utf8Size ≤ n + 1 then dropBytes? (n + 1 - c.utf8Size) cs else none

/-- The characters in the first `n` bytes, unless these end inside a character. -/
def takeBytes? : Nat → List Char → Option (List Char)
  | 0, _ => some []
  | _ + 1, [] => none
  | n + 1, c :: cs =>
    if c.utf8Size ≤ n + 1 then (takeBytes? (n + 1 - c.utf8Size) cs).map (c :: ·) else none

/-- The characters from one place to another, unless one of the places is inside a character. -/
def cut? (cs : List Char) (start stop : Nat) : Option (List Char) :=
  dropBytes? start cs >>= takeBytes? (stop - start)

end MediaLibrary.Text
