import MediaLibrary.Database.Summary
import MediaLibrary.Filter.Directive
import MediaLibrary.Library.Basic
import MediaLibrary.Search.Basic
import MediaLibrary.Tag.Input

/-!
# Library — commands

What a user interface asks of an open library. Commands work on the database with
the settings in force; changing the settings changes the file first, and only if
that succeeds the settings in force.

* `Library.searchMedia` — a search with the default page size unless another is
  given;
* `Library.tagMedia` — attaches the tags of a typed line;
* `Library.saveSettings`, `Library.resetSettings` — new settings.
-/

namespace MediaLibrary

/-- Work on an open library. -/
abbrev Command (α : Type) := ExceptT Error (StateM Library) α

namespace Command

variable {α : Type}

/-- The outcome of a command, and the library after it. -/
def on (command : Command α) (l : Library) : Except Error α × Library :=
  (ExceptT.run command).run l

/-- Work on the database of the library. -/
def work (w : Work α) : Command α := do
  let l ← get
  let (outcome, database) := w.on l.database
  set { l with database := database }
  ofExcept outcome

end Command

namespace Library

open Command

-- ---------------------------------------------------------------------------
-- Searching
-- ---------------------------------------------------------------------------

/-- The page of a request. -/
def search (r : SearchRequest) : Command Page := do
  work (Database.search r (← get).live.search.maxPageSize)

/-- The page of what is asked for. Without a limit it has the default size. -/
def searchMedia (query : String) (filters : Option Filters)
    (limit afterId beforeId offset : Option Int) : Command Page := do
  search {
    query := query
    filters := filters.getD {}
    limit := limit.getD (← get).live.search.defaultPageSize
    afterId := afterId
    beforeId := beforeId
    offset := offset }

/-- The query of a text. -/
def parseQuery (text : String) : Command Query :=
  ofExcept ((Query.parse text).mapError Error.parse)

/-- The filters of a text. Words that are no filter are passed over. -/
def parseFilters (text : String) : Command Filters :=
  return .ofText text

/-- How much the library holds. -/
def stats : Command Stats :=
  work Database.stats

-- ---------------------------------------------------------------------------
-- Tags
-- ---------------------------------------------------------------------------

/-- How many tags are suggested unless another number is given. -/
def defaultSuggestions : Int := 10

/-- The tag with a name. -/
def tagByName (name : String) : Command (Option Tag) :=
  work (Database.tagByName name)

/-- The tags that begin like a text. -/
def suggestTags (start : String) (limit : Option Int) : Command (List Tag) :=
  work (Database.suggest start (limit.getD defaultSuggestions))

/-- The tags of a medium. -/
def tagsFor (mediaId : Int) : Command (List Tag) :=
  work (Database.tagsFor mediaId)

/-- Attaches the tags of a typed line to a medium. -/
def tagMedia (mediaId : Int) (input : String) (now : Int) : Command (List Tag) := do
  let tags ← ofExcept ((Tag.readInput input).mapError Error.input)
  work (Database.addTags mediaId tags now)

/-- Detaches a tag from a medium. -/
def untagMedia (mediaId tagId now : Int) : Command Bool :=
  work (Database.removeTag mediaId tagId now)

-- ---------------------------------------------------------------------------
-- Settings
-- ---------------------------------------------------------------------------

/-- The settings of the file. -/
def loadSettings : Command Settings := do
  ofExcept ((← get).directory.settings.load.mapError Error.settings)

/-- Makes settings those in force, unchecked. -/
def updateSettings (settings : Settings) : Command Unit :=
  modify fun l => { l with live := settings }

/-- Saves settings and makes them those in force. -/
def saveSettings (settings : Settings) : Command Unit := do
  let l ← get
  let file ← ofExcept ((l.directory.settings.save settings).mapError Error.settings)
  set { l with directory.settings := file }
  updateSettings settings

/-- Saves the default settings and makes them those in force. -/
def resetSettings : Command Settings := do
  saveSettings {}
  return {}

end Library

end MediaLibrary
