import MediaLibrary.Calendar.Instant
import MediaLibrary.Media.Basic

/-!
# Filter — conditions beside tags

Filters restrict the attributes of media. Each of them may be absent, and an
absent one restricts nothing; those present must all hold. Ranges include their
ends.
-/

namespace MediaLibrary

open Calendar

/-- A closed range of whole numbers, open where an end is absent. -/
structure IntRange where
  min : Option Int := none
  max : Option Int := none
deriving DecidableEq

/-- The range has no end. -/
def IntRange.isUnbounded (r : IntRange) : Bool :=
  r.min.isNone && r.max.isNone

/-- A closed range of instants, open where an end is absent. -/
structure TimeRange where
  after : Option Instant := none
  before : Option Instant := none
deriving DecidableEq

/-- The range has no end. -/
def TimeRange.isUnbounded (r : TimeRange) : Bool :=
  r.after.isNone && r.before.isNone

/-- The filters of a search. A list of ratings or of kinds that is empty restricts nothing. -/
structure Filters where
  ratings : List Rating := []
  kinds : List MediaKind := []
  width : IntRange := {}
  height : IntRange := {}
  fileSize : IntRange := {}
  viewCount : IntRange := {}
  isFavorite : Option Bool := none
  hasParent : Option Bool := none
  hasChildren : Option Bool := none
  parentId : Option Int := none
  created : TimeRange := {}
deriving DecidableEq

/-- Nothing is restricted. -/
def Filters.isEmpty (f : Filters) : Bool :=
  f == {}

end MediaLibrary
