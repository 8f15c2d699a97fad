import MediaLibrary.Json.Codec
import MediaLibrary.Settings.Basic

/-!
# Wire — settings

How settings travel and how their file is written. All of them may be left out.
-/

namespace MediaLibrary

open Json

/-- Sizes of pages. -/
def SearchSettings.codec : Codec SearchSettings :=
  .record
    [.of ["defaultPageSize"] .anywhere .int64 (·.defaultPageSize)
       fun s v => { s with defaultPageSize := v },
     .of ["maxPageSize"] .anywhere .int64 (·.maxPageSize) fun s v => { s with maxPageSize := v }]
    {}

/-- Resources of the database. -/
def DatabaseSettings.codec : Codec DatabaseSettings :=
  .record
    [.of ["busyTimeoutMs"] .anywhere .nat64 (·.busyTimeoutMs)
       fun s v => { s with busyTimeoutMs := v },
     .of ["cacheSizeKb"] .anywhere .int64 (·.cacheSizeKb) fun s v => { s with cacheSizeKb := v }]
    {}

/-- How much is logged. -/
def LoggingSettings.codec : Codec LoggingSettings :=
  .record
    [.of ["level"] .anywhere .text (·.level) fun s v => { s with level := v },
     .of ["fileLogging"] .anywhere .boolean (·.fileLogging) fun s v => { s with fileLogging := v }]
    {}

/-- All settings. -/
def Settings.codec : Codec Settings :=
  .record
    [.of ["search"] .anywhere SearchSettings.codec (·.search) fun s v => { s with search := v },
     .of ["database"] .anywhere DatabaseSettings.codec (·.database)
       fun s v => { s with database := v },
     .of ["logging"] .anywhere LoggingSettings.codec (·.logging) fun s v => { s with logging := v }]
    {}

end MediaLibrary
