import MediaLibrary.Search.Basic
import MediaLibrary.Wire.Media

/-!
# Wire — searches

How queries, filters and requests travel. All of a request may be left out, but a
query names its three groups.
-/

namespace MediaLibrary

open Json Calendar

/-- Queries. -/
def Query.codec : Codec Query :=
  .record
    [.of ["includeTags"] .never (.list .text) (·.included) fun q v => { q with included := v },
     .of ["optionalTags"] .never (.list .text) (·.optional) fun q v => { q with optional := v },
     .of ["excludeTags"] .never (.list .text) (·.excluded) fun q v => { q with excluded := v }]
    {}

/-- Ranges of whole numbers. -/
def IntRange.codec : Codec IntRange :=
  .record
    [.of ["min"] .anywhere (.optional .int64) (·.min) fun r v => { r with min := v },
     .of ["max"] .anywhere (.optional .int64) (·.max) fun r v => { r with max := v }]
    {}

/-- Instants travel as texts. -/
def instantCodec : Codec Instant :=
  .readable Instant.text Instant.read?

/-- Ranges of instants. -/
def TimeRange.codec : Codec TimeRange :=
  .record
    [.of ["after"] .anywhere (.optional instantCodec) (·.after) fun r v => { r with after := v },
     .of ["before"] .anywhere (.optional instantCodec) (·.before) fun r v => { r with before := v }]
    {}

/-- Filters. -/
def Filters.codec : Codec Filters :=
  .record
    [.of ["ratings"] .anywhere (.list Rating.codec) (·.ratings) fun f v => { f with ratings := v },
     .of ["mediaTypes"] .anywhere (.list MediaKind.codec) (·.kinds) fun f v => { f with kinds := v },
     .of ["width"] .anywhere IntRange.codec (·.width) fun f v => { f with width := v },
     .of ["height"] .anywhere IntRange.codec (·.height) fun f v => { f with height := v },
     .of ["fileSize"] .anywhere IntRange.codec (·.fileSize) fun f v => { f with fileSize := v },
     .of ["viewCount"] .anywhere IntRange.codec (·.viewCount) fun f v => { f with viewCount := v },
     .of ["isFavorite"] .anywhere (.optional .boolean) (·.isFavorite)
       fun f v => { f with isFavorite := v },
     .of ["hasParent"] .anywhere (.optional .boolean) (·.hasParent)
       fun f v => { f with hasParent := v },
     .of ["hasChildren"] .anywhere (.optional .boolean) (·.hasChildren)
       fun f v => { f with hasChildren := v },
     .of ["parentId"] .anywhere (.optional .int64) (·.parentId) fun f v => { f with parentId := v },
     .of ["created"] .anywhere TimeRange.codec (·.created) fun f v => { f with created := v }]
    {}

/-- Requests. The keys of the two ids have an older spelling, which is still read. -/
def SearchRequest.codec : Codec SearchRequest :=
  .record
    [.of ["query"] .anywhere .text (·.query) fun r v => { r with query := v },
     .of ["filters"] .anywhere Filters.codec (·.filters) fun r v => { r with filters := v },
     .of ["limit"] .anywhere .int64 (·.limit) fun r v => { r with limit := v },
     .of ["afterID", "afterId"] .anywhere (.optional .int64) (·.afterId)
       fun r v => { r with afterId := v },
     .of ["beforeID", "beforeId"] .anywhere (.optional .int64) (·.beforeId)
       fun r v => { r with beforeId := v },
     .of ["offset"] .anywhere (.optional .int64) (·.offset) fun r v => { r with offset := v }]
    {}

end MediaLibrary
