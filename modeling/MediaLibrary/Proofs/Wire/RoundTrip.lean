import MediaLibrary.Library.Commands
import MediaLibrary.Proofs.Query.Grammar
import MediaLibrary.Proofs.Wire.Error
import MediaLibrary.Proofs.Wire.Search

/-!
# Wire — nothing is lost on the wire

What another program is told of a search it can tell again: requests, filters,
ranges, queries and errors come back from their text as they were. This holds for
all of them that were ever read from a text and for all that come from a typed query
or from typed directives, since these have numbers of 64 bits.

* `Codec.Returns` — a value comes back from both of its written forms;
* `Filters.fits_ofText`, `ParseError.fits_of_parse` — what is made of typed texts;
* `wire_loses_nothing` — the values of a search.
-/

namespace MediaLibrary

open Json

/-- The value is read again from both of its written forms. -/
def Json.Codec.Returns {α : Type} (codec : Codec α) (a : α) : Prop :=
  codec.readText (codec.write a).compact = .ok a ∧ codec.readText (codec.write a).pretty = .ok a

theorem Json.Codec.Faithful.returns {α : Type} {codec : Codec α} {fits : α → Prop}
    (h : codec.Faithful fits) {a : α} (ha : fits a) : codec.Returns a :=
  ⟨h.readText_compact ha, h.readText_pretty ha⟩

-- ---------------------------------------------------------------------------
-- Typed directives
-- ---------------------------------------------------------------------------

/-- The number of the directive has 64 bits. -/
def Directive.Fits : Directive → Prop
  | .atLeast _ n | .atMost _ n | .parent (.is n) => Text.fitsInt64 n = true
  | _ => True

/-- A number that is read has 64 bits. -/
theorem Text.fitsInt64_of_readInt64? {cs : List Char} {n : Int} (h : readInt64? cs = some n) :
    fitsInt64 n = true :=
  (Option.filter_eq_some_iff.mp h).2

/-- A directive that is read is in range. -/
theorem Directive.fits_of_ofParts? {key : String} {value : List Char} {d : Directive}
    (h : ofParts? key value = some d) : d.Fits := by
  unfold ofParts? at h
  split at h
  case h_13 =>
    obtain ⟨wish, hWish, rfl⟩ := Option.map_eq_some_iff.mp h
    unfold readParent? at hWish
    split_ifs at hWish
    · cases hWish
      trivial
    · cases hWish
      trivial
    · obtain ⟨n, hn, rfl⟩ := Option.map_eq_some_iff.mp hWish
      exact Text.fitsInt64_of_readInt64? hn
  case h_16 => cases h
  all_goals
    obtain ⟨v, hv, rfl⟩ := Option.map_eq_some_iff.mp h
    first | exact Text.fitsInt64_of_readInt64? hv | trivial

theorem Directive.fits_of_read? {word : List Char} {d : Directive} (h : read? word = some d) :
    d.Fits := by
  obtain ⟨⟨key, value⟩, -, hParts⟩ := Option.bind_eq_some_iff.mp h
  exact fits_of_ofParts? hParts

namespace Filters

/-- A range with another end still fits. -/
theorem Fits.modifyRange {f : Filters} (hf : f.Fits) (m : Measure) {change : IntRange → IntRange}
    (hChange : ∀ r : IntRange, r.Fits → (change r).Fits) : (f.modifyRange m change).Fits := by
  cases m with
  | width => exact { hf with width := hChange _ hf.width }
  | height => exact { hf with height := hChange _ hf.height }
  | fileSize => exact { hf with fileSize := hChange _ hf.fileSize }
  | viewCount => exact { hf with viewCount := hChange _ hf.viewCount }

/-- A directive in range leaves the filters in range. -/
theorem Fits.apply {f : Filters} (hf : f.Fits) {d : Directive} (hd : d.Fits) :
    (f.apply d).Fits := by
  cases d with
  | atLeast m n =>
    rw [Filters.apply]
    exact hf.modifyRange m fun _ hr => by exact ⟨fitsInt64_some hd, hr.max⟩
  | atMost m n =>
    rw [Filters.apply]
    exact hf.modifyRange m fun _ hr => by exact ⟨hr.min, fitsInt64_some hd⟩
  | parent wish =>
    cases wish with
    | is id => exact { hf with parentId := fitsInt64_some hd }
    | absent | any => exact { hf with parentId := nofun }
  | _ => exact { hf with }

/-- The filters of a typed text have numbers of 64 bits, as longer ones are no directives. -/
theorem fits_ofText (s : String) : (ofText s).Fits := by
  have hFold (ds : List Directive) (hds : ∀ d ∈ ds, d.Fits) (f : Filters) (hf : f.Fits) :
      (ds.foldl apply f).Fits := by
    induction ds generalizing f with
    | nil => exact hf
    | cons d ds ih =>
      obtain ⟨hd, hds⟩ := List.forall_mem_cons.mp hds
      exact ih hds _ (hf.apply hd)
  refine hFold _ (fun d hd => ?_) {} fits_empty
  obtain ⟨word, -, hRead⟩ := List.mem_filterMap.mp hd
  exact Directive.fits_of_read? hRead

end Filters

-- ---------------------------------------------------------------------------
-- Typed queries
-- ---------------------------------------------------------------------------

/-- An error of a typed query stands within the query, and no text is longer than a number of 64
bits can say. -/
theorem ParseError.fits_of_parse {s : String} (hLength : s.length ≤ Text.nat64Max) {e : ParseError}
    (h : Query.parse s = .error e) : e.Fits := by
  have hPlace := (Query.parse_eq_error_iff.mp h).isFault.position_lt
  rw [String.length_toList] at hPlace
  exact Nat.le_of_lt (Nat.lt_of_lt_of_le hPlace hLength)

-- ---------------------------------------------------------------------------
-- The values of a search
-- ---------------------------------------------------------------------------

/-- Requests, filters, ranges of dates, queries and parse errors come back from both of their
written forms: all that were read from any text, all that come from typed directives or a typed
query, and all queries and ranges of dates there are. So filters made of typed directives and sent
back find the media that the directives find, on every library. -/
theorem wire_loses_nothing :
    (∀ r, (∃ s, SearchRequest.codec.readText s = .ok r) → SearchRequest.codec.Returns r) ∧
    (∀ f, ((∃ s, Filters.codec.readText s = .ok f) ∨ ∃ typed, Filters.ofText typed = f) →
      Filters.codec.Returns f) ∧
    (∀ r, TimeRange.codec.Returns r) ∧
    (∀ q, Query.codec.Returns q) ∧
    (∀ e, ((∃ s, ParseError.codec.readText s = .ok e) ∨
        ∃ typed : String, typed.length ≤ Text.nat64Max ∧ Query.parse typed = .error e) →
      ParseError.codec.Returns e) ∧
    ∀ typed l, ∃ f, (Library.parseFilters typed).on l = (.ok f, l) ∧
      ∃ f', Filters.codec.readText (Filters.codec.write f).compact = .ok f' ∧
        ∀ query limit afterId beforeId offset l',
          (Library.searchMedia query (some f') limit afterId beforeId offset).on l' =
            (Library.searchMedia query (some (Filters.ofText typed)) limit afterId beforeId
              offset).on l' := by
  refine ⟨?_, ?_, ?_, ?_, ?_, ?_⟩
  · rintro r ⟨s, hRead⟩
    exact SearchRequest.codec_faithful.returns (SearchRequest.codec_faithful.fits_of_readText hRead)
  · rintro f (⟨s, hRead⟩ | ⟨typed, rfl⟩)
    · exact Filters.codec_faithful.returns (Filters.codec_faithful.fits_of_readText hRead)
    · exact Filters.codec_faithful.returns (Filters.fits_ofText typed)
  · exact fun r => Json.Codec.Faithful.returns TimeRange.codec_lossless trivial
  · exact fun q => Json.Codec.Faithful.returns Query.codec_lossless trivial
  · rintro e (⟨s, hRead⟩ | ⟨typed, hLength, hParse⟩)
    · exact ParseError.codec_faithful.returns (ParseError.codec_faithful.fits_of_readText hRead)
    · exact ParseError.codec_faithful.returns (ParseError.fits_of_parse hLength hParse)
  · intro typed l
    exact ⟨Filters.ofText typed, rfl, Filters.ofText typed,
      Filters.codec_faithful.readText_compact (Filters.fits_ofText typed), fun _ _ _ _ _ _ => rfl⟩

/-- A request as another program may write it: escapes, an older key, the least whole number, and a
leap second before the year zero in a time zone of its own. -/
def romanText : String :=
  "\x7b\"query\":\"\\u0061\\n\",\"afterId\":-9223372036854775808,\"filters\":\x7b\"created\":"
    ++ "\x7b\"after\":\"-0044-3-15 23:59:60.5+02:00\"\x7d\x7d\x7d"

/-- The time of the request in UTC. -/
def romanTime : Calendar.Instant :=
  ⟨⟨-44, 3, 15, by decide⟩, 79199, 1500000000, by decide⟩

/-- What is read of the text. -/
def romanRequest : SearchRequest where
  query := "a\n"
  filters := { created := { after := some romanTime } }
  afterId := some (-9223372036854775808)

/-- The request comes back, and so do the filters of a directive and the error of a typed query. -/
theorem wire_loses_nothing_romanRequest :
    SearchRequest.codec.readText romanText = .ok romanRequest ∧
    SearchRequest.codec.Returns romanRequest ∧
    Filters.codec.Returns (.ofText "minwidth:-5 after:+12345-01-02") ∧
    Query.parse "cat ~" = .error (.emptyTag 4) ∧ ParseError.codec.Returns (.emptyTag 4) := by
  have hRead : SearchRequest.codec.readText romanText = .ok romanRequest :=
    eq_ok_of_toOption (by decide +kernel)
  have hParse : Query.parse "cat ~" = .error (.emptyTag 4) := by cbv
  obtain ⟨hRequests, hFilters, -, -, hErrors, -⟩ := wire_loses_nothing
  exact ⟨hRead, hRequests _ ⟨romanText, hRead⟩, hFilters _ (.inr ⟨_, rfl⟩), hParse,
    hErrors _ (.inr ⟨"cat ~", by decide, hParse⟩)⟩

end MediaLibrary
