/-!
# Location — where a library lives

A library keeps all its files in one directory. Without a directory of choice that
is one inside the user's data directory, which is a variable of the environment if
it holds an absolute path, else a fixed place in the home directory.

* `Location.join` — a path inside another;
* `Location.ofHome` — the directory of a user's library.
-/

namespace MediaLibrary

/-- The directory of a library. -/
structure Location where
  directory : String
deriving DecidableEq

namespace Location

/-- The path begins at the root. -/
def isAbsolute (path : String) : Bool :=
  path.startsWith "/"

/-- A path inside another. An absolute path stands for itself, whatever it should be inside of. -/
def join (path inner : String) : String :=
  if isAbsolute inner || path.isEmpty then inner
  else if path.endsWith "/" then path ++ inner
  else path ++ "/" ++ inner

/-- The library of a user. -/
def ofHome (home : String) (dataDirectory : Option String) : Location :=
  let userData :=
    match dataDirectory with
    | some path => if isAbsolute path then path else join home ".local/share"
    | none => join home ".local/share"
  ⟨join userData "Booru"⟩

/-- The directory of the database. -/
def databaseDirectory (l : Location) : String :=
  join l.directory "Database"

/-- The file of the database. -/
def database (l : Location) : String :=
  join l.databaseDirectory "booru.db"

/-- The file of the settings. -/
def settings (l : Location) : String :=
  join (join l.directory "Config") "settings.json"

/-- The directory of the log files. -/
def logs (l : Location) : String :=
  join l.directory "Logs"

end Location

end MediaLibrary
