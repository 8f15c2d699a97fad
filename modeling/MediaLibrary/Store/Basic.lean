import MediaLibrary.Store.Row
import MediaLibrary.Text.Collation

/-!
# Store — tables

The store is five tables. Rows of media, tags and views stand in the order of
their ids, which only grow: the store remembers the last id of each table, so an
id is never given twice, whatever is deleted.

This module holds the tables and plain questions to them; `Store.Effect` changes
them.
-/

namespace MediaLibrary

/-- The tables of a library. -/
structure Store where
  media : List MediaRow := []
  tags : List TagRow := []
  attachments : List Attachment := []
  views : List View := []
  versions : List Version := []
  /-- Attachments can be looked up by tag. -/
  hasTagIndex : Bool := false
  lastMediaId : Int := 0
  lastTagId : Int := 0
  lastViewId : Int := 0
deriving DecidableEq

namespace Store

-- ---------------------------------------------------------------------------
-- Rows
-- ---------------------------------------------------------------------------

/-- The row of a medium. -/
def mediaRow? (s : Store) (id : Int) : Option MediaRow :=
  s.media.find? (·.id == id)

/-- There is such a medium. -/
def hasMedia (s : Store) (id : Int) : Bool :=
  s.media.any (·.id == id)

/-- The row of the medium with a content. -/
def mediaRowByHash? (s : Store) (contentHash : String) : Option MediaRow :=
  s.media.find? (·.contentHash == contentHash)

/-- The row of a tag. -/
def tagRow? (s : Store) (id : Int) : Option TagRow :=
  s.tags.find? (·.id == id)

/-- The row of the tag with a name, as the store compares names. -/
def tagRowByName? (s : Store) (name : String) : Option TagRow :=
  s.tags.find? fun tag => Text.sameName tag.name name

/-- Some medium has this one as its parent. -/
def isParent (s : Store) (id : Int) : Bool :=
  s.media.any (·.parentId == some id)

-- ---------------------------------------------------------------------------
-- Tags of media
-- ---------------------------------------------------------------------------

/-- The medium carries the tag. -/
def isAttached (s : Store) (mediaId tagId : Int) : Bool :=
  s.attachments.any fun a => a.mediaId == mediaId && a.tagId == tagId

/-- The rows of the tags that a medium carries, by id. -/
def tagsOf (s : Store) (mediaId : Int) : List TagRow :=
  s.tags.filter fun tag => s.isAttached mediaId tag.id

/-- The order of two names, as the store compares them. -/
def nameLe (a b : String) : Bool :=
  decide (Text.collated a ≤ Text.collated b)

/-- The order in which the tags of a medium are listed: by category, then by name. -/
def listedBefore (a b : TagRow) : Bool :=
  a.category < b.category || (a.category == b.category && nameLe a.name b.name)

/-- The order in which tags are suggested: the most used first, then by name. -/
def suggestedBefore (a b : TagRow) : Bool :=
  b.usageCount < a.usageCount || (a.usageCount == b.usageCount && nameLe a.name b.name)

end Store

end MediaLibrary
