import MediaLibrary.Json.Codec
import MediaLibrary.Page.Fetch

/-!
# Wire — media and pages

How media and pages of them travel.
-/

namespace MediaLibrary

open Json

/-- Kinds travel as names. -/
def MediaKind.codec : Codec MediaKind :=
  .named byName name

/-- Ratings travel as full names. -/
def Rating.codec : Codec Rating :=
  .named byName name

/-- Media. -/
def Media.codec : Codec Media :=
  .record
    [.of ["id"] .never .int64 (·.id) fun m v => { m with id := v },
     .of ["contentHash"] .never .text (·.contentHash) fun m v => { m with contentHash := v },
     .of ["fileExt"] .never .text (·.fileExt) fun m v => { m with fileExt := v },
     .of ["mediaType"] .never MediaKind.codec (·.kind) fun m v => { m with kind := v },
     .of ["mimeType"] .never .text (·.mimeType) fun m v => { m with mimeType := v },
     .of ["fileSize"] .never .int64 (·.fileSize) fun m v => { m with fileSize := v },
     .of ["width"] .inObject (.optional .int64) (·.width) fun m v => { m with width := v },
     .of ["height"] .inObject (.optional .int64) (·.height) fun m v => { m with height := v },
     .of ["duration"] .inObject (.optional .real) (·.duration) fun m v => { m with duration := v },
     .of ["rating"] .never Rating.codec (·.rating) fun m v => { m with rating := v },
     .of ["isFavorite"] .never .boolean (·.isFavorite) fun m v => { m with isFavorite := v },
     .of ["tagCount"] .never .int64 (·.tagCount) fun m v => { m with tagCount := v },
     .of ["tagCountGeneral"] .never .int64 (·.tagCountGeneral)
       fun m v => { m with tagCountGeneral := v },
     .of ["tagCountMetadata"] .never .int64 (·.tagCountMetadata)
       fun m v => { m with tagCountMetadata := v },
     .of ["tagCountArtist"] .never .int64 (·.tagCountArtist)
       fun m v => { m with tagCountArtist := v },
     .of ["parentId"] .inObject (.optional .int64) (·.parentId) fun m v => { m with parentId := v },
     .of ["hasChildren"] .never .boolean (·.hasChildren) fun m v => { m with hasChildren := v },
     .of ["viewCount"] .never .int64 (·.viewCount) fun m v => { m with viewCount := v },
     .of ["createdAt"] .never .int64 (·.createdAt) fun m v => { m with createdAt := v },
     .of ["updatedAt"] .never .int64 (·.updatedAt) fun m v => { m with updatedAt := v },
     .of ["lastViewedAt"] .inObject (.optional .int64) (·.lastViewedAt)
       fun m v => { m with lastViewedAt := v }]
    ⟨0, "", "", .image, "", 0, none, none, none, .safe, false, 0, 0, 0, 0, none, false, 0, 0, 0, none⟩

/-- New media, safe unless a rating is given. -/
def NewMedia.codec : Codec NewMedia :=
  .record
    [.of ["contentHash"] .never .text (·.contentHash) fun m v => { m with contentHash := v },
     .of ["fileExt"] .never .text (·.fileExt) fun m v => { m with fileExt := v },
     .of ["mediaType"] .never MediaKind.codec (·.kind) fun m v => { m with kind := v },
     .of ["mimeType"] .never .text (·.mimeType) fun m v => { m with mimeType := v },
     .of ["fileSize"] .never .int64 (·.fileSize) fun m v => { m with fileSize := v },
     .of ["width"] .inObject (.optional .int64) (·.width) fun m v => { m with width := v },
     .of ["height"] .inObject (.optional .int64) (·.height) fun m v => { m with height := v },
     .of ["duration"] .inObject (.optional .real) (·.duration) fun m v => { m with duration := v },
     .of ["rating"] .anywhere Rating.codec (·.rating) fun m v => { m with rating := v },
     .of ["parentId"] .inObject (.optional .int64) (·.parentId) fun m v => { m with parentId := v },
     .of ["createdAt"] .inObject (.optional .int64) (·.createdAt)
       fun m v => { m with createdAt := v }]
    (.image "")

/-- Pages. -/
def Page.codec : Codec Page :=
  .record
    [.of ["media"] .never (.list Media.codec) (·.media) fun p v => { p with media := v },
     .of ["totalCount"] .never .int64 (·.totalCount) fun p v => { p with totalCount := v },
     .of ["firstID"] .inObject (.optional .int64) (·.firstId) fun p v => { p with firstId := v },
     .of ["lastID"] .inObject (.optional .int64) (·.lastId) fun p v => { p with lastId := v },
     .of ["hasMore"] .never .boolean (·.hasMore) fun p v => { p with hasMore := v }]
    (.empty 0)

/-- A page with the ids of its media in place of the media. -/
def Page.brief (p : Page) : Json :=
  .object
    [("ids", .ofList .int p.ids),
     ("totalCount", .int p.totalCount),
     ("firstID", .ofOption .int p.firstId),
     ("lastID", .ofOption .int p.lastId),
     ("hasMore", .bool p.hasMore)]

end MediaLibrary
