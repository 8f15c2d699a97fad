import MediaLibrary.Json.Codec
import MediaLibrary.Tag.Basic

/-!
# Wire — tags

How tags travel.
-/

namespace MediaLibrary

open Json

/-- Categories, by name. -/
def TagCategory.byName : List (String × TagCategory) :=
  [general, metadata, artist].map fun category => (category.name, category)

/-- Categories travel as names. -/
def TagCategory.codec : Codec TagCategory :=
  .named byName name

/-- Tags. -/
def Tag.codec : Codec Tag :=
  .record
    [.of ["id"] .never .int64 (·.id) fun t v => { t with id := v },
     .of ["name"] .never .text (·.name) fun t v => { t with name := v },
     .of ["category"] .never TagCategory.codec (·.category) fun t v => { t with category := v },
     .of ["usageCount"] .never .int64 (·.usageCount) fun t v => { t with usageCount := v },
     .of ["createdAt"] .never .int64 (·.createdAt) fun t v => { t with createdAt := v }]
    ⟨0, "", .general, 0, 0⟩

/-- New tags, general unless a category is given. -/
def NewTag.codec : Codec NewTag :=
  .record
    [.of ["name"] .never .text (·.name) fun t v => { t with name := v },
     .of ["category"] .anywhere TagCategory.codec (·.category) fun t v => { t with category := v }]
    ⟨"", .general⟩

end MediaLibrary
