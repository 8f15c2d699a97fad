import MediaLibrary.Error
import MediaLibrary.Media.Basic
import MediaLibrary.Tag.Basic

/-!
# Store — rows

The rows of the tables. A row of a medium keeps kind and rating as texts and a row
of a tag its category as a number, so a row can hold a value that stands for
nothing; `decode` refuses such a row and names the first value it stumbles over.

* `MediaRow`, `TagRow`, `Attachment`, `View`, `Version` — the rows;
* `MediaRow.decode`, `TagRow.decode` — what they stand for.
-/

namespace MediaLibrary

/-- The row of a medium. -/
abbrev MediaRow := MediaRecord String String

/-- The row of a tag. -/
abbrev TagRow := TagRecord Int

/-- A medium carries a tag. -/
structure Attachment where
  mediaId : Int
  tagId : Int
  createdAt : Int
deriving DecidableEq

/-- A medium was looked at. -/
structure View where
  id : Int
  mediaId : Int
  viewedAt : Int
deriving DecidableEq

/-- The tables were brought to a version. -/
structure Version where
  number : Int
  appliedAt : Int
deriving DecidableEq

/-- The medium of a row. A rating may also be stored as its first letter. -/
def MediaRow.decode (row : MediaRow) : Except Error Media :=
  match MediaKind.ofName? row.kind with
  | none => .error (.storage (.unknownKind row.kind))
  | some kind =>
    match Rating.ofWord? row.rating with
    | none => .error (.storage (.unknownRating row.rating))
    | some rating => .ok { row with kind := kind, rating := rating }

/-- The tag of a row. -/
def TagRow.decode (row : TagRow) : Except Error Tag :=
  match TagCategory.ofCode? row.category with
  | none => .error (.storage (.unknownCategory row.category))
  | some category => .ok { row with category := category }

end MediaLibrary
