import MediaLibrary.Error

/-!
# Settings

What the user can choose: the sizes of pages, the database's resources and how
much is logged. Settings are kept in a file, and only valid ones are read from it
or written to it.

* `Settings.check` — the first fault of settings.
-/

namespace MediaLibrary

/-- The sizes of pages. -/
structure SearchSettings where
  defaultPageSize : Int := 20
  maxPageSize : Int := 500
deriving DecidableEq

/-- The resources of the database. -/
structure DatabaseSettings where
  busyTimeoutMs : Nat := 5000
  cacheSizeKb : Int := 64000
deriving DecidableEq

/-- How much is logged, and whether to files. -/
structure LoggingSettings where
  level : String := "info"
  fileLogging : Bool := true
deriving DecidableEq

/-- All settings. -/
structure Settings where
  search : SearchSettings := {}
  database : DatabaseSettings := {}
  logging : LoggingSettings := {}
deriving DecidableEq

namespace Settings

/-- The cache has a size, and so have pages; the default size is not above the greatest. -/
def check (s : Settings) : Except SettingsFault Unit := do
  if s.database.cacheSizeKb ≤ 0 then throw (.cacheSize s.database.cacheSizeKb)
  if s.search.defaultPageSize ≤ 0 || s.search.maxPageSize ≤ 0 then throw .pageSize
  if s.search.maxPageSize < s.search.defaultPageSize then
    throw (.pageSizeAboveMax s.search.defaultPageSize s.search.maxPageSize)

end Settings

end MediaLibrary
