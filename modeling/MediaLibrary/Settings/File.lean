import MediaLibrary.Wire.Settings

/-!
# Settings — the file

Settings are kept as text, which is read anew whenever they are asked for. Without
a file they are the default settings. Whatever stands at the place of the file,
loading never changes it, and saving changes it only to hold valid settings.

* `SettingsFile.load` — the settings of the file;
* `SettingsFile.save` — the file that holds settings.
-/

namespace MediaLibrary

/-- What stands at the place of the file. -/
inductive SettingsFile where
  | absent
  | text (content : String)
  /-- A file that is no text. -/
  | binary (content : List UInt8)
  | directory
deriving DecidableEq

namespace SettingsFile

/-- The file with these bytes. -/
def ofBytes (bytes : ByteArray) : SettingsFile :=
  match String.fromUTF8? bytes with
  | some content => text content
  | none => binary bytes.toList

/-- The text of the file, if it has one. -/
def text? : SettingsFile → Option String
  | text content => some content
  | _ => none

/-- The settings of a text. -/
def parse (content : String) : Except SettingsFault Settings := do
  let settings ← (Settings.codec.readText content).mapError fun _ => .fileMalformed
  settings.check
  return settings

/-- The settings of the file. -/
def load : SettingsFile → Except SettingsFault Settings
  | absent => .ok {}
  | text content => parse content
  | binary _ | directory => .error .fileNotReadable

/-- The text that settings are kept as. -/
def written (settings : Settings) : String :=
  (Settings.codec.write settings).pretty

/-- The file after saving settings. -/
def save (file : SettingsFile) (settings : Settings) : Except SettingsFault SettingsFile := do
  settings.check
  match file with
  | directory => throw .fileNotWritable
  | _ => return text (written settings)

end SettingsFile

end MediaLibrary
