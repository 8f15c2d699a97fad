/-!
# Media — kinds, ratings and records

A medium has a content hash, which tells it from all others, technical data, a
rating, counters that the store keeps, and at most one parent. Stored rows keep
kind and rating as texts, which may be texts that stand for none; so a row and a
medium share one shape, `MediaRecord`, and `MediaRow.decode` (in `Store.Row`)
turns the first into the second.
-/

namespace MediaLibrary

-- ---------------------------------------------------------------------------
-- Kinds and ratings
-- ---------------------------------------------------------------------------

/-- The kind of a medium. -/
inductive MediaKind where
  | image
  | video
  | audio
deriving DecidableEq, Repr

namespace MediaKind

/-- The name of a kind. -/
def name : MediaKind → String
  | image => "image"
  | video => "video"
  | audio => "audio"

/-- All kinds, by name. -/
def byName : List (String × MediaKind) :=
  [image, video, audio].map fun kind => (kind.name, kind)

/-- The kind of a name. -/
def ofName? (s : String) : Option MediaKind :=
  (byName.find? fun entry => entry.1 == s).map Prod.snd

end MediaKind

/-- How a medium is rated. -/
inductive Rating where
  | safe
  | questionable
  | explicit
deriving DecidableEq, Repr

namespace Rating

/-- The name of a rating. -/
def name : Rating → String
  | safe => "safe"
  | questionable => "questionable"
  | explicit => "explicit"

/-- All ratings, by name. -/
def byName : List (String × Rating) :=
  [safe, questionable, explicit].map fun rating => (rating.name, rating)

/-- All ratings, by name and by first letter. -/
def byWord : List (String × Rating) :=
  byName ++ [("s", safe), ("q", questionable), ("e", explicit)]

/-- The rating of a name or of its first letter. -/
def ofWord? (s : String) : Option Rating :=
  (byWord.find? fun entry => entry.1 == s).map Prod.snd

end Rating

-- ---------------------------------------------------------------------------
-- Records
-- ---------------------------------------------------------------------------

/-- A medium, or the row of one, by what it holds as its kind and its rating. Times are whole
seconds since 1970. -/
structure MediaRecord (Kind Grade : Type) where
  id : Int
  contentHash : String
  fileExt : String
  kind : Kind
  mimeType : String
  /-- The size of the file in bytes. -/
  fileSize : Int
  width : Option Int
  height : Option Int
  /-- The length of a sound or a film in seconds. -/
  duration : Option Float
  rating : Grade
  isFavorite : Bool
  /-- How many tags the medium carries, in all and by category. -/
  tagCount : Int
  tagCountGeneral : Int
  tagCountMetadata : Int
  tagCountArtist : Int
  parentId : Option Int
  /-- Some medium has this one as its parent. -/
  hasChildren : Bool
  viewCount : Int
  createdAt : Int
  updatedAt : Int
  lastViewedAt : Option Int
deriving DecidableEq

/-- A medium of the library. -/
abbrev Media := MediaRecord MediaKind Rating

/-- A medium to be created. Without a time of creation it gets the current one. -/
structure NewMedia where
  contentHash : String
  fileExt : String
  kind : MediaKind
  mimeType : String
  fileSize : Int
  width : Option Int := none
  height : Option Int := none
  duration : Option Float := none
  rating : Rating := .safe
  parentId : Option Int := none
  createdAt : Option Int := none
deriving DecidableEq

/-- An image of which nothing but the content is known. -/
def NewMedia.image (contentHash : String) : NewMedia where
  contentHash := contentHash
  fileExt := "png"
  kind := .image
  mimeType := "image/png"
  fileSize := 0

end MediaLibrary
