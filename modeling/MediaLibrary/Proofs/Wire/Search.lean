import MediaLibrary.Proofs.Calendar.InstantText
import MediaLibrary.Proofs.Json.Faithful
import MediaLibrary.Wire.Search

/-!
# Wire — the codecs of searches are faithful

Queries, filters and requests lose nothing on their way. Their whole numbers have
64 bits, which is all that a codec asks of them; names, flags, texts and instants
travel as they are.

* `IntRange.Fits`, `Filters.Fits`, `SearchRequest.Fits` — the numbers have 64 bits;
* `SearchRequest.codec_faithful`, … — the codecs.
-/

namespace MediaLibrary

open Json Calendar

-- ---------------------------------------------------------------------------
-- Scalars
-- ---------------------------------------------------------------------------

/-- A rating comes back from its name. -/
theorem Rating.codec_lossless : Rating.codec.Lossless :=
  Codec.named_lossless fun r => by cases r <;> rfl

theorem MediaKind.codec_lossless : MediaKind.codec.Lossless :=
  Codec.named_lossless fun kind => by cases kind <;> rfl

/-- An instant comes back to the nanosecond. -/
theorem instantCodec_lossless : instantCodec.Lossless :=
  Codec.readable_lossless Instant.read?_text

/-- A present whole number has 64 bits. -/
def FitsInt64 (o : Option Int) : Prop :=
  ∀ n ∈ o, Text.fitsInt64 n = true

theorem fitsInt64_some {n : Int} (hn : Text.fitsInt64 n = true) : FitsInt64 (some n) := by
  rintro _ ⟨⟩
  exact hn

/-- A number that may be absent comes back, present or absent. -/
theorem optionalInt64_faithful : (Codec.optional Codec.int64).Faithful FitsInt64 :=
  Codec.int64_faithful.optional fun _ => nofun

theorem optionalBoolean_lossless : (Codec.optional Codec.boolean).Lossless :=
  Codec.boolean_lossless.optional fun _ => nofun

-- ---------------------------------------------------------------------------
-- Queries and filters
-- ---------------------------------------------------------------------------

/-- A query comes back with its names as they are. -/
theorem Query.codec_lossless : Query.codec.Lossless :=
  Codec.record_faithful (by decide +kernel)
    (.cons (Member.of_lossless Codec.text_lossless.list fun _ _ _ => trivial) <|
      .cons (Member.of_lossless Codec.text_lossless.list fun _ _ _ => trivial) <|
      .cons (Member.of_lossless Codec.text_lossless.list fun _ _ _ => trivial) .nil)
    trivial fun _ => rfl

/-- The ends of the range have 64 bits. -/
structure IntRange.Fits (r : IntRange) : Prop where
  min : FitsInt64 r.min
  max : FitsInt64 r.max

/-- A range comes back with the bounds it has. -/
theorem IntRange.codec_faithful : IntRange.codec.Faithful IntRange.Fits :=
  Codec.record_faithful (by decide +kernel)
    (.cons (Member.of_faithful optionalInt64_faithful (fun _ h => h.min)
        fun _ _ h hv => { h with min := hv }) <|
      .cons (Member.of_faithful optionalInt64_faithful (fun _ h => h.max)
        fun _ _ h hv => { h with max := hv }) .nil)
    ⟨nofun, nofun⟩ fun _ => rfl

theorem TimeRange.codec_lossless : TimeRange.codec.Lossless :=
  have hEnd := instantCodec_lossless.optional fun _ => nofun
  Codec.record_faithful (by decide +kernel)
    (.cons (Member.of_lossless hEnd fun _ _ _ => trivial) <|
      .cons (Member.of_lossless hEnd fun _ _ _ => trivial) .nil)
    trivial fun _ => rfl

/-- The numbers of the filters have 64 bits. -/
structure Filters.Fits (f : Filters) : Prop where
  width : f.width.Fits
  height : f.height.Fits
  fileSize : f.fileSize.Fits
  viewCount : f.viewCount.Fits
  parentId : FitsInt64 f.parentId

/-- Filters that ask for nothing are in range. -/
theorem Filters.fits_empty : Filters.Fits {} :=
  have hRange : IntRange.Fits {} := ⟨nofun, nofun⟩
  ⟨hRange, hRange, hRange, hRange, nofun⟩

/-- Filters come back with all that they ask for. -/
theorem Filters.codec_faithful : Filters.codec.Faithful Filters.Fits :=
  Codec.record_faithful (by decide +kernel)
    (.cons (Member.of_lossless Rating.codec_lossless.list fun _ _ h => { h with }) <|
      .cons (Member.of_lossless MediaKind.codec_lossless.list fun _ _ h => { h with }) <|
      .cons (Member.of_faithful IntRange.codec_faithful (fun _ h => h.width)
        fun _ _ h hv => { h with width := hv }) <|
      .cons (Member.of_faithful IntRange.codec_faithful (fun _ h => h.height)
        fun _ _ h hv => { h with height := hv }) <|
      .cons (Member.of_faithful IntRange.codec_faithful (fun _ h => h.fileSize)
        fun _ _ h hv => { h with fileSize := hv }) <|
      .cons (Member.of_faithful IntRange.codec_faithful (fun _ h => h.viewCount)
        fun _ _ h hv => { h with viewCount := hv }) <|
      .cons (Member.of_lossless optionalBoolean_lossless fun _ _ h => { h with }) <|
      .cons (Member.of_lossless optionalBoolean_lossless fun _ _ h => { h with }) <|
      .cons (Member.of_lossless optionalBoolean_lossless fun _ _ h => { h with }) <|
      .cons (Member.of_faithful optionalInt64_faithful (fun _ h => h.parentId)
        fun _ _ h hv => { h with parentId := hv }) <|
      .cons (Member.of_lossless TimeRange.codec_lossless fun _ _ h => { h with }) .nil)
    fits_empty fun _ => rfl

-- ---------------------------------------------------------------------------
-- Requests
-- ---------------------------------------------------------------------------

/-- The numbers of the request have 64 bits. -/
structure SearchRequest.Fits (r : SearchRequest) : Prop where
  filters : r.filters.Fits
  limit : Text.fitsInt64 r.limit = true
  afterId : FitsInt64 r.afterId
  beforeId : FitsInt64 r.beforeId
  offset : FitsInt64 r.offset

/-- A request comes back with its text, its filters and its window. -/
theorem SearchRequest.codec_faithful : SearchRequest.codec.Faithful SearchRequest.Fits :=
  Codec.record_faithful (by decide +kernel)
    (.cons (Member.of_lossless Codec.text_lossless fun _ _ h => { h with }) <|
      .cons (Member.of_faithful Filters.codec_faithful (fun _ h => h.filters)
        fun _ _ h hv => { h with filters := hv }) <|
      .cons (Member.of_faithful Codec.int64_faithful (fun _ h => h.limit)
        fun _ _ h hv => { h with limit := hv }) <|
      .cons (Member.of_faithful optionalInt64_faithful (fun _ h => h.afterId)
        fun _ _ h hv => { h with afterId := hv }) <|
      .cons (Member.of_faithful optionalInt64_faithful (fun _ h => h.beforeId)
        fun _ _ h hv => { h with beforeId := hv }) <|
      .cons (Member.of_faithful optionalInt64_faithful (fun _ h => h.offset)
        fun _ _ h hv => { h with offset := hv }) .nil)
    ⟨Filters.fits_empty, rfl, nofun, nofun, nofun⟩ fun _ => rfl

end MediaLibrary
