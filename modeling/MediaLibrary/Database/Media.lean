import MediaLibrary.Database.Basic

/-!
# Database — media

Creating, reading, changing and deleting media. Each operation takes the current
time where it leaves one behind. A change of a medium that does not exist answers
`false`, where nothing else is wrong.
-/

namespace MediaLibrary.Database

open Work

-- ---------------------------------------------------------------------------
-- Creating
-- ---------------------------------------------------------------------------

/-- Inserts a medium. -/
def insertMedia (m : NewMedia) (now : Int) : Work Int := do
  inserted ((← tables "media").insertMedia m now)

/-- Creates a medium. -/
def createMedia (m : NewMedia) (now : Int) : Work Int := do
  lock
  insertMedia m now

/-- Creates media, all of them or none. -/
def createMediaBatch (items : List NewMedia) (now : Int) : Work (List Int) :=
  transaction (items.mapM fun m => insertMedia m now)

-- ---------------------------------------------------------------------------
-- Reading
-- ---------------------------------------------------------------------------

/-- The medium of a row that may not exist. -/
def decodeMedia? (row : Option MediaRow) : Work (Option Media) :=
  ofExcept (row.mapM MediaRow.decode)

/-- The medium with an id. -/
def getMedia (id : Int) : Work (Option Media) := do
  lock
  decodeMedia? ((← tables "media").mediaRow? id)

/-- The medium with a content. -/
def getMediaByHash (contentHash : String) : Work (Option Media) := do
  lock
  decodeMedia? ((← tables "media").mediaRowByHash? contentHash)

/-- The number of media. -/
def countMedia : Work Int := do
  lock
  return (← tables "media").media.length

-- ---------------------------------------------------------------------------
-- Changing
-- ---------------------------------------------------------------------------

/-- Changes the tables on behalf of a medium, and tells whether it exists. -/
def changeFor (id : Int) (change : Store → Store) : Work Bool := do
  let s ← tables "media"
  put (change s)
  return s.hasMedia id

/-- Deletes a medium. -/
def deleteMedia (id now : Int) : Work Bool := do
  lock
  changeFor id (·.deleteMedia id now)

/-- Marks a medium as a favourite or not. -/
def setFavorite (id : Int) (isFavorite : Bool) (now : Int) : Work Bool := do
  lock
  changeFor id (·.setFavorite id isFavorite now)

/-- Rates a medium. -/
def setRating (id : Int) (rating : Rating) (now : Int) : Work Bool := do
  lock
  changeFor id (·.setRating id rating now)

/-- Gives a medium a parent other than itself, or none. -/
def setParent (id : Int) (parent : Option Int) (now : Int) : Work Bool := do
  if parent == some id then throw (Error.input .parentOfItself)
  transaction do
    if let some p := parent then
      if !(← tables "media").hasMedia p then throw (Error.notFound (.parent p))
    changeFor id (·.setParent id parent now)

/-- Records that a medium is viewed. -/
def recordView (id now : Int) : Work Unit :=
  transaction do
    let s ← tables "media"
    if !s.hasMedia id then throw (Error.notFound (.media id))
    put (s.view id now)

end MediaLibrary.Database
