import MediaLibrary.Database.Media
import MediaLibrary.Database.Tables
import MediaLibrary.Database.Tags
import MediaLibrary.Text.Integer

/-!
# Database — summaries

* `Database.stats` — how much the database holds;
* `Database.contents` — all it holds.
-/

namespace MediaLibrary

/-- How much a database holds. -/
structure Stats where
  mediaCount : Int
  tagCount : Int
  viewCount : Int
  /-- The size of all files in bytes. -/
  totalFileSize : Int
  version : Int
deriving DecidableEq

namespace Store

/-- The sum of file sizes. -/
def total (sizes : List Int) : Int :=
  sizes.foldr (· + ·) 0

/-- The sum of all file sizes, if it can be formed with 64 bits. The sizes are added in ascending
order, so the least sum on the way is that of the negative ones. -/
def totalFileSize? (s : Store) : Option Int :=
  let sizes := s.media.map (·.fileSize)
  let least := total (sizes.filter (· < 0))
  if Text.fitsInt64 least && Text.fitsInt64 (total sizes) then some (total sizes) else none

end Store

namespace Database

open Work

/-- How much the database holds. -/
def stats : Work Stats := do
  lock
  let s ← tables "media"
  match s.totalFileSize? with
  | none => throw (Error.storage .sumOverflow)
  | some total =>
    return {
      mediaCount := s.media.length
      tagCount := s.tags.length
      viewCount := s.views.length
      totalFileSize := total
      version := s.version }

/-- All media by id, each with the tags it carries, and all tags by id. -/
def contents : Work (List (Media × List Tag) × List Tag) := do
  lock
  let s ← tables "media"
  let media ← s.media.mapM fun row => do
    let m ← ofExcept row.decode
    return (m, ← tagsFor m.id)
  let tags ← s.tags.mapM fun row => ofExcept row.decode
  return (media, tags)

end Database

end MediaLibrary
