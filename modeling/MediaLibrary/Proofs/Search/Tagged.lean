import MediaLibrary.Proofs.Library.Command
import MediaLibrary.Proofs.Search.Found
import MediaLibrary.Proofs.Store.Attached
import MediaLibrary.Proofs.Tag.Input

/-!
# Search — tags are found by their names

Tags are typed in one language and asked for in another one. A name that may be typed is
read as itself in a query, and what a query says of a name is what media carry: without
filters, the name finds the media with such a tag, and with the mark `-` it finds the
others. So a medium that was just tagged is found by each of the names it was tagged with.

* `Store.found`, `Store.bears` — what the query of a text finds, what a medium carries;
* `Store.Sound.found_included`, `Store.Sound.found_excluded` — what a name finds;
* `Database.addTags_carries` — what was attached is carried, as far as the store can tell;
* `typed_names_are_found` — the two languages agree.
-/

namespace MediaLibrary

open Database (ready)
open Query (orWord)
open Selection

/-- No filters admit every medium. -/
theorem Filters.admits_empty (m : Media) : Filters.Admits {} m := by
  simp [Filters.admits_iff, IntRange.Contains]

namespace Store

variable {s : Store} {q : Query} {name : String}

-- ---------------------------------------------------------------------------
-- What is found
-- ---------------------------------------------------------------------------

/-- The rows that the query of a text selects without filters. -/
def found (s : Store) (text : String) : Except Error (List MediaRow) := do
  let q ← (Query.parse text).mapError Error.parse
  return (← compile q {}).rows s

/-- The medium carries a tag with this name, the case of `A` to `Z` aside. -/
def bears (s : Store) (mediaId : Int) (name : String) : Bool :=
  (s.tagsOf mediaId).any fun tag => Text.sameFolded tag.name name

/-- The query of a text finds the medium. -/
def Finds (s : Store) (text : String) (mediaId : Int) : Prop :=
  ∃ rows, s.found text = .ok rows ∧ ∃ row ∈ rows, row.id = mediaId

/-- A query that is read finds what matches it, however that is put. -/
theorem Sound.found_eq (h : s.Sound) {text : String} (hQuery : Query.parse text = .ok q)
    {p : MediaRow → Bool} (hMatches : ∀ row, row.read.Matches s q {} ↔ p row = true) :
    s.found text = .ok (s.media.filter p) := by
  obtain ⟨sel, hSel⟩ := exists_compile_of_parse hQuery {}
  have hRows : sel.rows s = s.media.filter p := by
    apply List.filter_congr
    intro row hRow
    obtain ⟨kind, rating, hKind, hRating⟩ := h.exists_words hRow
    rw [Bool.eq_iff_iff]
    exact (holdsFor_iff_matches hSel (Query.isReadable_of_parse hQuery) hKind hRating).trans
      (hMatches row)
  rw [found, hQuery, ← hRows]
  show (do return (← compile q {}).rows s) = _
  rw [hSel]
  rfl

theorem carries_iff_bears (hName : Tag.IsName name) (mediaId : Int) :
    s.Carries mediaId name ↔ s.bears mediaId name = true := by
  simp [Carries, bears, tagsOf, Text.sameFolded, hName.trim_eq]

/-- A name without a mark finds the media that carry it. -/
theorem Sound.found_included (h : s.Sound) (hName : Tag.IsTyped name) (hOr : name ≠ orWord) :
    s.found name = .ok (s.media.filter fun row => s.bears row.id name) := by
  refine h.found_eq (Query.parse_included hName hOr) fun row => ?_
  simp [Media.matches_iff, carries_iff_bears hName.toIsName, Filters.admits_empty]

/-- A name in the optional group by itself finds the same media. -/
theorem Sound.found_optional (h : s.Sound) (hName : Tag.IsName name) :
    s.found ("~" ++ name) = .ok (s.media.filter fun row => s.bears row.id name) := by
  refine h.found_eq (Query.parse_optional hName) fun row => ?_
  simp [Media.matches_iff, carries_iff_bears hName, Filters.admits_empty]

/-- A name that is excluded finds the other media. -/
theorem Sound.found_excluded (h : s.Sound) (hName : Tag.IsName name) :
    s.found ("-" ++ name) = .ok (s.media.filter fun row => !s.bears row.id name) := by
  refine h.found_eq (Query.parse_excluded hName) fun row => ?_
  simp [Media.matches_iff, carries_iff_bears hName, Filters.admits_empty]

-- ---------------------------------------------------------------------------
-- What is carried
-- ---------------------------------------------------------------------------

/-- What a medium carries to the store, by the names of tags and by attachments. -/
theorem carriesSame_iff_attached (mediaId : Int) :
    s.CarriesSame mediaId name ↔ ∃ tag ∈ s.outline.tags,
      (∃ a ∈ s.attachments, a.mediaId = mediaId ∧ a.tagId = tag.id) ∧
        Text.OneName tag.name (Text.trim name) := by
  simp [CarriesSame, outline, isAttached, TagRow.unused]

/-- A medium carries what it carried, as long as tags and attachments stay. -/
theorem CarriesSame.mono {s' : Store} {mediaId : Int} (h : s.CarriesSame mediaId name)
    (hTags : ∀ tag ∈ s.outline.tags, tag ∈ s'.outline.tags)
    (hKept : ∀ a ∈ s.attachments, a ∈ s'.attachments) : s'.CarriesSame mediaId name := by
  obtain ⟨tag, hTag, ⟨a, ha, hPair⟩, hName⟩ := (carriesSame_iff_attached mediaId).mp h
  exact (carriesSame_iff_attached mediaId).mpr ⟨tag, hTags tag hTag, ⟨a, hKept a ha, hPair⟩, hName⟩

theorem exists_attached (s : Store) (mediaId tagId now : Int) :
    ∃ a ∈ (s.attach mediaId tagId now).attachments, a.mediaId = mediaId ∧ a.tagId = tagId := by
  rw [attachments_attach]
  split
  · rename_i hAttached
    exact isAttached_iff.mp hAttached
  · exact ⟨_, List.mem_append_right _ (List.mem_singleton_self _), rfl, rfl⟩

theorem mem_attachments_attach {mediaId tagId now : Int} {a : Attachment}
    (h : a ∈ s.attachments) : a ∈ (s.attach mediaId tagId now).attachments := by
  rw [attachments_attach]
  split
  · exact h
  · exact List.mem_append_left _ h

/-- Once a tag is had and attached, its name is carried, and so is all that was carried before. -/
theorem Provides.carries {s' : Store} {tag : NewTag} {mediaId id now : Int}
    (h : s.Provides { tag with name := Text.trim tag.name } now id s') :
    (s'.attach mediaId id now).CarriesSame mediaId tag.name ∧
      ∀ name, s.CarriesSame mediaId name → (s'.attach mediaId id now).CarriesSame mediaId name := by
  obtain ⟨-, hAttachments, hTags, row, hRow, hId, hName⟩ := h.exists_row
  constructor
  · rw [carriesSame_iff_attached, outline_attach]
    exact ⟨row.unused, List.mem_map_of_mem hRow, hId ▸ s'.exists_attached mediaId id now, hName⟩
  · intro name hCarries
    refine hCarries.mono ?_ fun a ha => mem_attachments_attach (hAttachments ▸ ha)
    rw [outline_attach]
    intro tag hTag
    obtain ⟨row, hRow, rfl⟩ := List.mem_map.mp hTag
    exact List.mem_map_of_mem (hTags row hRow)

end Store

namespace Database

/-- Tags that were attached are carried. -/
theorem addTags_carries {s : Store} {now : Int} (mediaId : Int) (tags : List NewTag) :
    (addTags mediaId tags now).Moves now s fun _ s' =>
      ∀ tag ∈ tags, s'.CarriesSame mediaId tag.name := by
  refine addTags_keeps (fun done _ s' => ∀ tag ∈ done, s'.CarriesSame mediaId tag.name) (by simp) ?_
  rintro done - tag id s₁ s₂ hDone hHad - -
  obtain ⟨hNew, hOld⟩ := hHad.carries
  intro tag' hTag'
  rcases List.mem_append.mp hTag' with hTag' | hTag'
  · exact hOld tag'.name (hDone tag' hTag')
  · rwa [List.mem_singleton.mp hTag']

end Database

-- ---------------------------------------------------------------------------
-- Typed lines
-- ---------------------------------------------------------------------------

/-- The tags of a line that is read are attached. -/
theorem Library.tagMedia_on {input : String} {tags : List NewTag}
    (h : Tag.readInput input = .ok tags) (l : Library) (mediaId now : Int) :
    (Library.tagMedia mediaId input now).on l =
      (((Database.addTags mediaId tags now).on l.database).1,
        { l with database := ((Database.addTags mediaId tags now).on l.database).2 }) := by
  rw [tagMedia, Command.on_bind, Command.on_ofExcept, h]
  exact Command.on_work _ _

/-- A typed line that is accepted is read, and its tags are attached. -/
theorem Library.tagMedia_ok {l l' : Library} {mediaId now : Int} {input : String}
    {found : List Tag} (h : (Library.tagMedia mediaId input now).on l = (.ok found, l')) :
    ∃ tags, Tag.readInput input = .ok tags ∧
      (Database.addTags mediaId tags now).on l.database = (.ok found, l'.database) := by
  cases hRead : Tag.readInput input with
  | error fault =>
    rw [tagMedia, Command.on_bind, Command.on_ofExcept, hRead] at h
    cases h
  | ok tags =>
    rw [tagMedia_on hRead] at h
    obtain ⟨hOutcome, rfl⟩ := Prod.mk.inj h
    exact ⟨tags, rfl, Prod.ext hOutcome rfl⟩

-- ---------------------------------------------------------------------------
-- Names and what they find
-- ---------------------------------------------------------------------------

/-- In a sound store a medium is found by the allowed names of its tags. -/
theorem Store.Sound.finds_carried {s : Store} (h : s.Sound) {mediaId : Int} {name : String}
    (hCarries : s.CarriesSame mediaId name) (hName : Tag.IsTyped name) :
    (name ≠ orWord → s.Finds name mediaId) ∧ s.Finds ("~" ++ name) mediaId := by
  obtain ⟨tag, -, ⟨a, ha, hMedia, -⟩, -⟩ := (Store.carriesSame_iff_attached mediaId).mp hCarries
  -- what is attached is attached to a medium
  obtain ⟨core, hCore, hId⟩ := h.attachedMedia a ha
  obtain ⟨row, hRow, rfl⟩ := List.mem_map.mp hCore
  obtain rfl : row.id = mediaId := hId.trans hMedia
  have hBears := (Store.carries_iff_bears hName.toIsName row.id).mp
    ((Store.carriesSame_iff hName.nul_notMem row.id).mp hCarries)
  have hFound : row ∈ s.media.filter fun row => s.bears row.id name :=
    List.mem_filter.mpr ⟨hRow, hBears⟩
  exact ⟨fun hOr => ⟨_, h.found_included hName hOr, row, hFound, rfl⟩,
    ⟨_, h.found_optional hName.toIsName, row, hFound, rfl⟩⟩

/-- A medium that was just tagged is found by the allowed ones among the names. -/
theorem Database.finds_tagged {db db' : Database} (h : db.Reachable) {mediaId now : Int}
    {tags : List NewTag} {found : List Tag}
    (hOn : (addTags mediaId tags now).on db = (.ok found, db')) :
    ∃ s, db'.store = some s ∧ ∀ tag ∈ tags, Tag.checkName tag.name = .ok () →
      (tag.name ≠ orWord → s.Finds tag.name mediaId) ∧ s.Finds ("~" ++ tag.name) mediaId := by
  have hAfter : (Operation.addTags mediaId tags).apply now db = db' := congrArg Prod.snd hOn
  obtain ⟨s', rfl, hSound⟩ := (hAfter ▸ h.operation (.addTags mediaId tags) now).sound
  obtain ⟨s, rfl, -⟩ := h.sound
  obtain ⟨_, ⟨⟩, hCarried⟩ := (addTags_carries mediaId tags).of_ok hOn
  exact ⟨s', rfl, fun tag hTag hName =>
    hSound.finds_carried (hCarried tag hTag) (Tag.isTyped_of_checkName hName)⟩

/-- A name that may be typed as a tag is read by a query as itself: as one excluded or optional tag
behind a mark and as one included tag by itself, but for the word `or`, which asks for nothing; and
a list of such names, however it is spaced, is read as just these. So in every reachable database
and without filters, a name finds the media that carry it, in the optional group too, and excluded
it finds the others. A medium that was just tagged, by names or by a typed line, is found by each
allowed name. -/
theorem typed_names_are_found :
    (∀ name, Tag.checkName name = .ok () →
      Query.parse ("-" ++ name) = .ok { excluded := [name] } ∧
      Query.parse ("~" ++ name) = .ok { optional := [name] } ∧
      Query.parse name = .ok (if name = "or" then {} else { included := [name] })) ∧
    (∀ (names : List String) (text : String),
      (∀ name ∈ names, Tag.checkName name = .ok () ∧ name ≠ "or") →
      Text.Spaced (names.map String.toList) text.toList →
      Query.parse text = .ok { included := names }) ∧
    (∀ db : Database, db.Reachable → ∃ s, db.store = some s ∧
      ∀ name, Tag.checkName name = .ok () →
        (name ≠ "or" → s.found name = .ok (s.media.filter fun row => s.bears row.id name)) ∧
        s.found ("~" ++ name) = .ok (s.media.filter fun row => s.bears row.id name) ∧
        s.found ("-" ++ name) = .ok (s.media.filter fun row => !s.bears row.id name)) ∧
    (∀ (db db' : Database) (mediaId now : Int) (tags : List NewTag) (found : List Tag),
      db.Reachable → (Database.addTags mediaId tags now).on db = (.ok found, db') →
      ∃ s, db'.store = some s ∧ ∀ tag ∈ tags, Tag.checkName tag.name = .ok () →
        (tag.name ≠ "or" → s.Finds tag.name mediaId) ∧ s.Finds ("~" ++ tag.name) mediaId) ∧
    ∀ (l l' : Library) (mediaId now : Int) (input : String) (found : List Tag),
      l.database.Reachable →
      (Library.tagMedia mediaId input now).on l = (.ok found, l') →
      ∃ s tags, l'.database.store = some s ∧ Tag.readInput input = .ok tags ∧ ∀ tag ∈ tags,
        (tag.name ≠ "or" → s.Finds tag.name mediaId) ∧ s.Finds ("~" ++ tag.name) mediaId := by
  refine ⟨?_, ?_, ?_, fun db db' mediaId now tags found h hOn => Database.finds_tagged h hOn, ?_⟩
  · intro name hName
    have hTyped := Tag.isTyped_of_checkName hName
    refine ⟨Query.parse_excluded hTyped.toIsName, Query.parse_optional hTyped.toIsName, ?_⟩
    split
    · rename_i hOr
      rw [hOr]
      exact Query.parse_orWord
    · rename_i hOr
      exact Query.parse_included hTyped hOr
  · intro names text hNames hSpaced
    exact Query.parse_spaced hSpaced fun name hName =>
      ⟨Tag.isTyped_of_checkName (hNames name hName).1, (hNames name hName).2⟩
  · intro db h
    obtain ⟨s, rfl, hSound⟩ := h.sound
    refine ⟨s, rfl, fun name hName => ?_⟩
    have hTyped := Tag.isTyped_of_checkName hName
    exact ⟨hSound.found_included hTyped, hSound.found_optional hTyped.toIsName,
      hSound.found_excluded hTyped.toIsName⟩
  · intro l l' mediaId now input found h hOn
    obtain ⟨tags, hRead, hAdd⟩ := Library.tagMedia_ok hOn
    obtain ⟨s, hStore, hFinds⟩ := Database.finds_tagged h hAdd
    exact ⟨s, tags, hStore, hRead, fun tag hTag =>
      hFinds tag hTag (Tag.checkName_of_readInput hRead tag hTag)⟩

/-- A library in memory with one tagged image. -/
def Library.ofTaggedImage : Library where
  opening := .inMemory
  directory := {}
  live := {}
  database := Database.taggedImage

/-- Colons and marks inside a name are part of it, tabs and line feeds separate names, the image is
found by one of its names in another case, and once it is tagged with the word `or` in capitals it
is found by that word behind a mark. -/
theorem typed_names_are_found_taggedImage :
    Query.parse "-re:z~x" = .ok { excluded := ["re:z~x"] } ∧
    Query.parse "\ta\n\rb-c " = .ok { included := ["a", "b-c"] } ∧
    (∃ s rows, Database.taggedImage.store = some s ∧ s.found "aDA" = .ok rows ∧
      rows.map (·.id) = [1]) ∧
    (∃ s, ((Database.addTags 1 [⟨"re:z~x", .general⟩] 3).on Database.taggedImage).2.store = some s ∧
      s.Finds "re:z~x" 1) ∧
    ∃ s, ((Library.tagMedia 1 "Artist:OR" 3).on .ofTaggedImage).2.database.store = some s ∧
      s.Finds "~or" 1 := by
  obtain ⟨hOne, hSeveral, hReachable, hAdded, hTyped⟩ := typed_names_are_found
  have hReach := Database.reachable_taggedImage
  have hName : Tag.checkName "re:z~x" = .ok () := by cbv
  have hNames : ∀ name ∈ ["a", "b-c"], Tag.checkName name = .ok () ∧ name ≠ "or" := by
    simp only [List.mem_cons, List.not_mem_nil, or_false, forall_eq_or_imp, forall_eq]
    exact ⟨⟨by cbv, by decide⟩, by cbv, by decide⟩
  have hSpaced : Text.Spaced [['a'], ['b', '-', 'c']] ("\ta\n\rb-c ".toList) := by
    show Text.Spaced _ ('\t' :: (['a'] ++ '\n' :: '\r' :: (['b', '-', 'c'] ++ [' '])))
    exact .separator rfl (.word (by simp [Text.isSeparator]) (.separator rfl (.separator rfl
      (.word (by simp [Text.isSeparator]) (.separator rfl .nil)))))
  refine ⟨(hOne _ hName).1, hSeveral ["a", "b-c"] _ hNames hSpaced, ?_, ?_, ?_⟩
  · obtain ⟨s, hStore, hFound⟩ := hReachable _ hReach
    have hBears : Database.taggedImage.store.map (fun s =>
        (s.media.filter fun row => s.bears row.id "aDA").map (·.id)) = some [1] := by
      decide +kernel
    rw [hStore, Option.map_some, Option.some_inj] at hBears
    exact ⟨s, _, hStore, (hFound "aDA" (by cbv)).1 (by decide), hBears⟩
  · obtain ⟨s, hStore, hFinds⟩ := hAdded _ _ 1 3 [⟨"re:z~x", .general⟩] _ hReach (by rfl)
    exact ⟨s, hStore, (hFinds _ (List.mem_singleton_self _) hName).1 (by decide)⟩
  · have hTags : Tag.readInput "Artist:OR" = .ok [⟨"or", .artist⟩] := by cbv
    have hOn := Library.tagMedia_on hTags .ofTaggedImage 1 3
    obtain ⟨s, tags, hStore, hRead, hFinds⟩ := hTyped .ofTaggedImage _ 1 3 _ _ hReach hOn
    obtain rfl := Except.ok.inj (hTags.symm.trans hRead)
    exact ⟨s, hOn ▸ hStore, (hFinds _ (List.mem_singleton_self _)).2⟩

end MediaLibrary
