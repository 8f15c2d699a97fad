import MediaLibrary.Database.Basic
import MediaLibrary.Text.Blank
import MediaLibrary.Text.Pattern

/-!
# Database — tags

Creating, reading and deleting tags, and attaching them to media. Names are
trimmed before they are stored or looked up, and the case of `A` to `Z` does not
tell two names apart (nor does what stands behind a NUL, if it is as long). A tag
that exists keeps its category, whatever category it is asked for with.

* `Database.addTags` — attaches tags to a medium and creates those that are new;
* `Database.suggest` — the tags that begin like a text.
-/

namespace MediaLibrary.Database

open Work

-- ---------------------------------------------------------------------------
-- Tags
-- ---------------------------------------------------------------------------

/-- Inserts a tag under its trimmed name, which must not be empty. -/
def insertTag (tag : NewTag) (now : Int) : Work Int := do
  let name := Text.trim tag.name
  if name.isEmpty then throw (Error.input .blankTagName)
  inserted ((← tables "tags").insertTag { tag with name := name } now)

/-- The tag of a row that may not exist. -/
def decodeTag? (row : Option TagRow) : Work (Option Tag) :=
  ofExcept (row.mapM TagRow.decode)

/-- The tag with a name. -/
def findTag (name : String) : Work (Option Tag) := do
  decodeTag? ((← tables "tags").tagRowByName? (Text.trim name))

/-- The tag with a name, which is inserted if it does not exist. -/
def findOrInsertTag (tag : NewTag) (now : Int) : Work Tag := do
  if let some found ← findTag tag.name then return found
  let id ← insertTag tag now
  match ← decodeTag? ((← tables "tags").tagRow? id) with
  | some created => return created
  | none => throw (Error.storage .noRow)

/-- Creates a tag. -/
def createTag (tag : NewTag) (now : Int) : Work Int := do
  lock
  insertTag tag now

/-- The tag with an id. -/
def getTag (id : Int) : Work (Option Tag) := do
  lock
  decodeTag? ((← tables "tags").tagRow? id)

/-- The tag with a name. -/
def tagByName (name : String) : Work (Option Tag) := do
  lock
  findTag name

/-- The tag with a name, which is created if it does not exist. -/
def getOrCreateTag (tag : NewTag) (now : Int) : Work Tag :=
  transaction (findOrInsertTag tag now)

/-- Deletes a tag, and tells whether it existed. -/
def deleteTag (id now : Int) : Work Bool :=
  transaction do
    let s ← tables "media_tags"
    put (s.deleteTag id now)
    return (s.tagRow? id).isSome

-- ---------------------------------------------------------------------------
-- Tags of media
-- ---------------------------------------------------------------------------

/-- Attaches one tag to a medium. The tag is returned as it was before. -/
def addTag (mediaId : Int) (now : Int) (tag : NewTag) : Work Tag := do
  let found ← findOrInsertTag tag now
  put ((← tables "media_tags").attach mediaId found.id now)
  return found

/-- Attaches tags to a medium, all of them or none. -/
def addTags (mediaId : Int) (tags : List NewTag) (now : Int) : Work (List Tag) :=
  transaction do
    if !(← tables "media").hasMedia mediaId then throw (Error.notFound (.media mediaId))
    tags.mapM (addTag mediaId now)

/-- Detaches a tag from a medium, and tells whether it was attached. -/
def removeTag (mediaId tagId now : Int) : Work Bool := do
  lock
  let s ← tables "media_tags"
  put (s.detach mediaId tagId now)
  return s.isAttached mediaId tagId

/-- The tags of a medium, by category and name. -/
def tagsFor (mediaId : Int) : Work (List Tag) := do
  lock
  ofExcept ((((← tables "tags").tagsOf mediaId).mergeSort Store.listedBefore).mapM TagRow.decode)

-- ---------------------------------------------------------------------------
-- Suggestions
-- ---------------------------------------------------------------------------

/-- How many tags are suggested at most. -/
def maxSuggestions : Int := 100

/-- The tags that begin like a text, the most used first. A text of blanks begins no tag, and one
that is too long for a pattern is refused if a tag has to be held against it. -/
def suggest (start : String) (limit : Int) : Work (List Tag) := do
  if limit ≤ 0 then throw (Error.input .suggestionLimit)
  let start := Text.trim start
  if start.isEmpty then return []
  lock
  let pattern := Text.Pattern.beginning start
  let s ← tables "tags"
  if Text.Pattern.maxSize < pattern.utf8ByteSize
      && s.tags.any (fun tag => Text.Pattern.isTested start tag.name) then
    throw (Error.storage .patternTooLong)
  let found := s.tags.filter fun tag => Text.Pattern.accepts pattern tag.name
  let chosen := (found.mergeSort Store.suggestedBefore).take (min limit maxSuggestions).toNat
  ofExcept (chosen.mapM TagRow.decode)

end MediaLibrary.Database
