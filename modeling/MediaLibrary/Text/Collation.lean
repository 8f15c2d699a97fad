import MediaLibrary.Text.Bytes
import MediaLibrary.Text.Fold

/-!
# Text — names as the store compares them

The store reads a name as far as its first NUL. It tells names apart, and puts them in
order, by the characters up to there, without regard to the case of `A` to `Z`. Of what
stands from the NUL on it only knows how long it is, in bytes: `a\0b` and `A\0c` are one
name to it, and `a\0b` comes before `a\0bc`.

* `readable`, `unread` — a text up to its first NUL, and from there on;
* `collated` — what the store compares of a name: equal names, and only these, have equal
  ones, and their order is the order of the names;
* `sameName` — whether two names are one to the store.
-/

namespace MediaLibrary.Text

/-- The characters up to the first NUL. -/
def readable (cs : List Char) : List Char :=
  cs.takeWhile (· != '\x00')

/-- The characters from the first NUL on. -/
def unread (cs : List Char) : List Char :=
  cs.dropWhile (· != '\x00')

/-- What the store compares of a name: what it reads of it, in lower case, and a NUL for each byte
of what it does not read. -/
def collated (s : String) : String :=
  String.ofList ((readable s.toList).map Char.toLower
    ++ List.replicate (byteSize (unread s.toList)) '\x00')

/-- Two names that are one to the store. -/
def sameName (a b : String) : Bool :=
  collated a == collated b

end MediaLibrary.Text
