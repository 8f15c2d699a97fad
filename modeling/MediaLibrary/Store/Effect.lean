import MediaLibrary.Store.Basic

/-!
# Store — effects

What a change of one row does to the others. A medium counts its tags, in all and
by category, and a tag counts its media; a medium knows whether it is a parent and
how often it was viewed. Nobody sets these numbers: they follow from attaching,
detaching, viewing and deleting, and every effect here brings them along.

* `Store.attach`, `Store.detach` — the two changes that counters follow;
* `Store.insertMedia`, `Store.insertTag` — new rows, if the store accepts them;
* `Store.deleteMedia`, `Store.deleteTag` — rows and all that hangs on them.
-/

namespace MediaLibrary

namespace Store

-- ---------------------------------------------------------------------------
-- Single rows
-- ---------------------------------------------------------------------------

/-- Changes the row of a medium, if there is one. -/
def changeMedia (s : Store) (id : Int) (f : MediaRow → MediaRow) : Store :=
  { s with media := s.media.map fun row => if row.id == id then f row else row }

/-- Changes the row of a tag, if there is one. -/
def changeTag (s : Store) (id : Int) (f : TagRow → TagRow) : Store :=
  { s with tags := s.tags.map fun row => if row.id == id then f row else row }

-- ---------------------------------------------------------------------------
-- Attachments
-- ---------------------------------------------------------------------------

/-- The number by which a counter of one category moves when the number of tags of some category
moves by `change`. -/
def share (counted : TagCategory) (category : Option Int) (change : Int) : Int :=
  if category == some counted.code then change else 0

/-- The row of a medium whose number of tags of a category moves by `change`. -/
def recounted (category : Option Int) (change now : Int) (row : MediaRow) : MediaRow :=
  { row with
    tagCount := row.tagCount + change
    tagCountGeneral := row.tagCountGeneral + share .general category change
    tagCountMetadata := row.tagCountMetadata + share .metadata category change
    tagCountArtist := row.tagCountArtist + share .artist category change
    updatedAt := now }

/-- Moves the counters of a medium and a tag. -/
def recount (s : Store) (mediaId tagId change now : Int) : Store :=
  let category := (s.tagRow? tagId).map (·.category)
  (s.changeTag tagId fun tag => { tag with usageCount := tag.usageCount + change }).changeMedia
    mediaId (recounted category change now)

/-- Attaches a tag to a medium. Attaching it again changes nothing. -/
def attach (s : Store) (mediaId tagId now : Int) : Store :=
  if s.isAttached mediaId tagId then s
  else
    let s : Store := { s with attachments := s.attachments ++ [⟨mediaId, tagId, now⟩] }
    s.recount mediaId tagId 1 now

/-- Detaches a tag from a medium, if it is attached. -/
def detach (s : Store) (mediaId tagId now : Int) : Store :=
  if s.isAttached mediaId tagId then
    let kept := s.attachments.filter fun a => !(a.mediaId == mediaId && a.tagId == tagId)
    let s := { s with attachments := kept }
    s.recount mediaId tagId (-1) now
  else s

/-- Detaches the tags of all attachments that are singled out. -/
def detachAll (s : Store) (chosen : Attachment → Bool) (now : Int) : Store :=
  (s.attachments.filter chosen).foldl (fun s a => s.detach a.mediaId a.tagId now) s

-- ---------------------------------------------------------------------------
-- Parents
-- ---------------------------------------------------------------------------

/-- Notes that a medium is a parent. -/
def markParent (s : Store) : Option Int → Store
  | none => s
  | some id => s.changeMedia id fun row => { row with hasChildren := true }

/-- Looks again whether a medium is a parent. -/
def refreshParent (s : Store) : Option Int → Store
  | none => s
  | some id =>
    let isParent := s.isParent id
    s.changeMedia id fun row => { row with hasChildren := isParent }

/-- The children of a medium have no parent any more. -/
def orphan (s : Store) (id : Int) : Store :=
  { s with
    media := s.media.map fun row =>
      if row.parentId == some id then { row with parentId := none } else row }

/-- Gives a medium another parent or none. -/
def setParent (s : Store) (id : Int) (parent : Option Int) (now : Int) : Store :=
  match s.mediaRow? id with
  | none => s
  | some row =>
    ((s.changeMedia id fun row => { row with parentId := parent, updatedAt := now }).markParent
      parent).refreshParent row.parentId

-- ---------------------------------------------------------------------------
-- Media
-- ---------------------------------------------------------------------------

/-- The form in which a length is stored: zero has no sign, and what is no number is no length. -/
def storedLength (seconds : Float) : Option Float :=
  if seconds.isNaN then none
  else if seconds == 0.0 then some 0.0
  else some seconds

/-- The row of a new medium. -/
def newMediaRow (id : Int) (m : NewMedia) (now : Int) : MediaRow where
  id := id
  contentHash := m.contentHash
  fileExt := m.fileExt
  kind := m.kind.name
  mimeType := m.mimeType
  fileSize := m.fileSize
  width := m.width
  height := m.height
  duration := m.duration.bind storedLength
  rating := m.rating.name
  isFavorite := false
  tagCount := 0
  tagCountGeneral := 0
  tagCountMetadata := 0
  tagCountArtist := 0
  parentId := m.parentId
  hasChildren := false
  viewCount := 0
  createdAt := m.createdAt.getD now
  updatedAt := now
  lastViewedAt := none

/-- Inserts a medium and returns its id. Its content has to be new, and its parent has to exist;
it may name itself. -/
def insertMedia (s : Store) (m : NewMedia) (now : Int) : Except StorageFault (Int × Store) :=
  let id := s.lastMediaId + 1
  if (s.mediaRowByHash? m.contentHash).isSome then .error .duplicateHash
  else if m.parentId.any fun parent => parent != id && !s.hasMedia parent then
    .error .missingReference
  else
    let s := { s with media := s.media ++ [newMediaRow id m now], lastMediaId := id }
    .ok (id, s.markParent m.parentId)

/-- Deletes a medium with its attachments and views. Its children lose their parent, and its
parent may cease to be one. -/
def deleteMedia (s : Store) (id now : Int) : Store :=
  match s.mediaRow? id with
  | none => s
  | some row =>
    let s := { s with media := s.media.filter (·.id != id) }
    let s := s.detachAll (·.mediaId == id) now
    let s := { s with views := s.views.filter (·.mediaId != id) }
    (s.orphan id).refreshParent row.parentId

/-- Marks a medium as a favourite or not. -/
def setFavorite (s : Store) (id : Int) (isFavorite : Bool) (now : Int) : Store :=
  s.changeMedia id fun row => { row with isFavorite := isFavorite, updatedAt := now }

/-- Rates a medium. -/
def setRating (s : Store) (id : Int) (rating : Rating) (now : Int) : Store :=
  s.changeMedia id fun row => { row with rating := rating.name, updatedAt := now }

/-- Records that a medium is viewed. -/
def view (s : Store) (id now : Int) : Store :=
  let viewId := s.lastViewId + 1
  let s : Store := { s with views := s.views ++ [⟨viewId, id, now⟩], lastViewId := viewId }
  s.changeMedia id fun row =>
    { row with viewCount := row.viewCount + 1, lastViewedAt := some now }

-- ---------------------------------------------------------------------------
-- Tags
-- ---------------------------------------------------------------------------

/-- Inserts a tag and returns its id. Its name has to be new to the store. -/
def insertTag (s : Store) (tag : NewTag) (now : Int) : Except StorageFault (Int × Store) :=
  let id := s.lastTagId + 1
  if (s.tagRowByName? tag.name).isSome then .error .duplicateName
  else
    let row : TagRow := ⟨id, tag.name, tag.category.code, 0, now⟩
    .ok (id, { s with tags := s.tags ++ [row], lastTagId := id })

/-- Deletes a tag. It is detached first, while its category is still known. -/
def deleteTag (s : Store) (id now : Int) : Store :=
  let s := s.detachAll (·.tagId == id) now
  { s with tags := s.tags.filter (·.id != id) }

end Store

end MediaLibrary
