import MediaLibrary.Calendar.DateText
import MediaLibrary.Calendar.Instant
import MediaLibrary.Database.Tables
import MediaLibrary.Settings.File

/-!
# Library — opening a library

A library is its settings file, the settings in force, its database and its log
files. Opening one reads the settings first: with settings that cannot be read
nothing else is touched. Then the log file of the day is begun, where logging to
files is wanted, and last the database is prepared.

* `Library.start` — opens a library;
* `Library.restart` — closes it and opens it again.
-/

namespace MediaLibrary

/-- How a library is opened. -/
inductive Opening where
  /-- With a database in memory, whatever its tables. -/
  | inMemory
  /-- With the database in the library's directory. -/
  | onDisk
  /-- With the database in the library's directory, and logging. -/
  | logging
deriving DecidableEq

/-- The directory of a library. -/
structure DataDirectory where
  /-- Something else stands in the place of the directory. -/
  blocked : Bool := false
  settings : SettingsFile := .absent
  /-- The names of the log files, once there is a directory for them. -/
  logFiles : Option (List String) := none
deriving DecidableEq

/-- An open library. -/
structure Library where
  opening : Opening
  directory : DataDirectory
  /-- The settings in force. -/
  live : Settings
  database : Database
deriving DecidableEq

-- ---------------------------------------------------------------------------
-- Log files
-- ---------------------------------------------------------------------------

/-- The name of the log file for the day of a time. -/
def logFileName (now : Int) : String :=
  let day := (Calendar.Date.ofDayNumber? (now.fdiv Calendar.daySeconds)).map fun date =>
    String.ofList date.text
  "booru.log." ++ day.getD ""

/-- The log files with one more, in the order of their names. -/
def withLogFile (files : Option (List String)) (name : String) : List String :=
  let files := files.getD []
  if files.contains name then files else (name :: files).mergeSort fun a b => decide (a ≤ b)

-- ---------------------------------------------------------------------------
-- Opening
-- ---------------------------------------------------------------------------

namespace DataDirectory

/-- The settings to begin with. -/
def loadSettings (d : DataDirectory) : Except Error Settings :=
  if d.blocked then .error (.settings .directoryNotMade)
  else d.settings.load.mapError Error.settings

/-- The directory after logging has begun. -/
def beginLogging (d : DataDirectory) (opening : Opening) (settings : LoggingSettings) (now : Int) :
    DataDirectory :=
  if opening = .logging ∧ settings.fileLogging then
    { d with logFiles := some (withLogFile d.logFiles (logFileName now)) }
  else d

end DataDirectory

namespace Library

/-- Opens a library with the tables it has. In memory they stay as they are, on disk they are
prepared. -/
def start (opening : Opening) (directory : DataDirectory) (store : Option Store) (now : Int) :
    Except Error Library := do
  let settings ← directory.loadSettings
  let directory := directory.beginLogging opening settings.logging now
  match opening with
  | .inMemory => return ⟨opening, directory, settings, { store := store }⟩
  | .onDisk | .logging =>
    let (outcome, database) := (Database.prepare now).on { store := store }
    outcome
    return ⟨opening, directory, settings, database⟩

/-- Closes a library and opens it again. -/
def restart (l : Library) (now : Int) : Except Error Library :=
  start l.opening l.directory l.database.store now

/-- The database takes room on disk. -/
def takesRoom (l : Library) : Bool :=
  l.opening != .inMemory

end Library

end MediaLibrary
