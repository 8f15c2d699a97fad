import MediaLibrary.Database.Basic

/-!
# Database — creating and upgrading the tables

The tables have a version, which each upgrade records with its time. Version two
lets attachments be looked up by tag. An upgrade is done once: preparing a
database whose tables have the current version changes nothing.

* `Database.prepare` — creates or upgrades the tables;
* `Database.versions` — the versions they went through;
* `Database.damageMedia`, `Database.damageTag` — rows as another program may leave
  them.
-/

namespace MediaLibrary

namespace Store

/-- The version of the tables. -/
def currentVersion : Int := 2

/-- The latest version recorded; zero if there is none. -/
def version (s : Store) : Int :=
  (s.versions.map (·.number)).foldl max 0

/-- New tables. -/
def fresh (now : Int) : Store where
  versions := [⟨currentVersion, now⟩]
  hasTagIndex := true

/-- Tables of the first version, or of a version before versions were recorded. -/
def ofFirstVersion (recorded : Bool) : Store where
  versions := if recorded then [⟨1, 0⟩] else []

/-- The tables brought to the current version. -/
def upgraded (s : Store) (now : Int) : Store :=
  if s.version < currentVersion then
    { s with versions := s.versions ++ [⟨currentVersion, now⟩], hasTagIndex := true }
  else s

end Store

namespace Database

open Work

/-- Creates the tables or brings them to the current version. -/
def prepare (now : Int) : Work Unit := do
  lock
  match (← get).store with
  | none => put (.fresh now)
  | some s => put (s.upgraded now)

/-- The versions recorded, and whether attachments can be looked up by tag. -/
def versions : Work (List Version × Bool) := do
  lock
  let s ← tables "schema_version"
  return (s.versions, s.hasTagIndex)

/-- Stores values in the row of a medium that may stand for nothing. -/
def damageMedia (id : Int) (change : MediaRow → MediaRow) : Work Unit := do
  lock
  let s ← tables "media"
  put (s.changeMedia id change)

/-- Stores values in the row of a tag that may stand for nothing. -/
def damageTag (id : Int) (change : TagRow → TagRow) : Work Unit := do
  lock
  let s ← tables "tags"
  put (s.changeTag id change)

end Database

end MediaLibrary
