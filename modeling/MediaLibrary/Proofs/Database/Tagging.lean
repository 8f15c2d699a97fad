import MediaLibrary.Proofs.Database.Deletion
import MediaLibrary.Proofs.Store.Tagging

/-!
# Database — tagging a medium

Tagging a medium with names that are not blank cannot fail: each name is that of a stored
tag, or becomes one. So what one more name does is known of every store that is sound, and
a list of names is gone through by it.

* `Work.Yields` — work that succeeds, with rules for its building blocks;
* `Database.findOrInsertTag_yields`, `Database.addTag_yields` — one name;
* `Database.addTags_yields`, `Database.addTags_known` — many names, and the same names again;
* `tagging_of_reachable` — what tagging does, that it does it once, and how it is undone.
-/

namespace MediaLibrary

open Database (ready)

namespace Work

variable {α β : Type} {s : Store}

-- ---------------------------------------------------------------------------
-- Work that succeeds
-- ---------------------------------------------------------------------------

/-- The work succeeds on a store, and its answer and the new store are as told. -/
def Yields (s : Store) (work : Work α) (told : α → Store → Prop) : Prop :=
  ∃ a s', work.on (ready s) = (.ok a, ready s') ∧ told a s'

theorem Yields.pure {a : α} {told : α → Store → Prop} (h : told a s) :
    Yields s (pure a : Work α) told :=
  ⟨a, s, on_pure a (ready s), h⟩

/-- Work goes on from what the work before it yields. -/
theorem Yields.bind {work : Work α} {next : α → Work β} {told : α → Store → Prop}
    {told' : β → Store → Prop} (h : work.Yields s told)
    (hNext : ∀ a s', told a s' → (next a).Yields s' told') :
    (work >>= next).Yields s told' := by
  obtain ⟨a, s', hOn, hTold⟩ := h
  obtain ⟨b, s'', hOn', hTold'⟩ := hNext a s' hTold
  exact ⟨b, s'', by rw [on_bind, hOn]; exact hOn', hTold'⟩

/-- Work on each item of a list succeeds if the work on one more item does, whatever was done
before it. -/
theorem Yields.mapM {work : α → Work β} (kept : List α → List β → Store → Prop) (items : List α)
    (hWork : ∀ done answers item s, item ∈ items → kept done answers s →
      (work item).Yields s fun b s' => kept (done ++ [item]) (answers ++ [b]) s')
    (h : kept [] [] s) : (items.mapM work).Yields s fun answers s' => kept items answers s' := by
  suffices hFrom : ∀ (rest done : List α) (answers : List β) (s : Store), done ++ rest = items →
      kept done answers s →
      (rest.mapM work).Yields s fun more s' => kept items (answers ++ more) s' by
    simpa using hFrom items [] [] s rfl h
  intro rest
  induction rest with
  | nil =>
    rintro done answers s rfl h
    rw [List.mapM_nil]
    exact .pure (by simpa using h)
  | cons item rest ih =>
    rintro done answers s rfl h
    rw [List.mapM_cons]
    refine (hWork done answers item s (by simp) h).bind fun b s' h' => ?_
    refine (ih (done ++ [item]) (answers ++ [b]) s' (by simp) h').bind fun more s'' h'' => ?_
    exact .pure (by simpa using h'')

end Work

namespace Database

open Work

variable {s : Store} {tag : NewTag} {now : Int}

-- ---------------------------------------------------------------------------
-- Tags that are had
-- ---------------------------------------------------------------------------

theorem decodeTag?_on (h : s.Sound) {row : TagRow} (hRow : row ∈ s.tags) (db : Database) :
    (decodeTag? (some row)).on db = (.ok (some row.read), db) := by
  obtain ⟨c, hc⟩ := h.exists_category hRow
  rw [decodeTag?, on_ofExcept, Option.mapM_some, TagRow.decode_of_code hc]
  rfl

/-- A name that no tag has is looked up in vain. -/
theorem findTag_none {name : String} (hNone : s.tagRowByName? (Text.trim name) = none) :
    (findTag name).on (ready s) = (.ok none, ready s) := by
  rw [findTag, on_bind, on_tables]
  dsimp only
  rw [hNone]
  rfl

/-- A tag that is stored is found, whatever category it is asked for with. -/
theorem findOrInsertTag_stored (h : s.Sound) (now : Int) {row : TagRow}
    (hRow : s.tagRowByName? (Text.trim tag.name) = some row) :
    (findOrInsertTag tag now).on (ready s) = (.ok row.read, ready s) := by
  have hFind : (findTag tag.name).on (ready s) = (.ok (some row.read), ready s) := by
    rw [findTag, on_bind, on_tables]
    dsimp only
    rw [hRow, decodeTag?_on h (List.mem_of_find?_eq_some hRow)]
  rw [findOrInsertTag, on_bind, hFind]
  rfl

/-- A tag that is not stored is inserted and read back. -/
theorem findOrInsertTag_new (h : s.Sound) (now : Int) (hName : (Text.trim tag.name).isEmpty = false)
    (hNone : s.tagRowByName? (Text.trim tag.name) = none) :
    ∃ s' row, s.insertTag { tag with name := Text.trim tag.name } now = .ok (row.id, s') ∧
      row ∈ s'.tags ∧ (findOrInsertTag tag now).on (ready s) = (.ok row.read, ready s') := by
  have hFind : (findTag tag.name).on (ready s) = (.ok none, ready s) := findTag_none hNone
  obtain ⟨s', hInsert⟩ : ∃ s', s.insertTag { tag with name := Text.trim tag.name } now =
      .ok (s.lastTagId + 1, s') := by
    simp only [Store.insertTag, hNone]
    exact ⟨_, rfl⟩
  have hOn : (insertTag tag now).on (ready s) = (.ok (s.lastTagId + 1), ready s') := by
    simp only [insertTag, hName, Bool.false_eq_true, ↓reduceIte, on_bind, on_tables, hInsert,
      on_inserted]
  have hSound : s'.Sound := h.insertTag hInsert
  obtain ⟨-, -, hTags⟩ := Store.insertTag_ok hInsert
  have hRow : (⟨s.lastTagId + 1, Text.trim tag.name, tag.category.code, 0, now⟩ : TagRow) ∈
      s'.tags := by
    rw [hTags]
    exact List.mem_append_right _ (List.mem_singleton_self _)
  have hBack : s'.tagRow? (s.lastTagId + 1) = some _ := Store.find?_of_ids hSound.tags_ids hRow
  refine ⟨s', _, hInsert, hRow, ?_⟩
  simp only [findOrInsertTag, on_bind, hFind, hOn, on_tables, hBack, decodeTag?_on hSound hRow,
    on_pure]

/-- A tag with a name is had, stored already or created now. -/
theorem findOrInsertTag_yields (h : s.Sound) (hName : (Text.trim tag.name).isEmpty = false) :
    (findOrInsertTag tag now).Yields s fun had s' => s'.Sound ∧ ∃ row ∈ s'.tags, had = row.read ∧
      s.Provides { tag with name := Text.trim tag.name } now row.id s' := by
  cases hStored : s.tagRowByName? (Text.trim tag.name) with
  | some row =>
    have hRow : row ∈ s.tags := List.mem_of_find?_eq_some hStored
    exact ⟨_, s, findOrInsertTag_stored h now hStored, h, row, hRow, rfl,
      .inl ⟨rfl, row, hStored, rfl⟩⟩
  | none =>
    obtain ⟨s', row, hInsert, hRow, hOn⟩ := findOrInsertTag_new h now hName hStored
    exact ⟨_, s', hOn, h.insertTag hInsert, row, hRow, rfl, .inr hInsert⟩

-- ---------------------------------------------------------------------------
-- Tags that are attached
-- ---------------------------------------------------------------------------

variable {mediaId : Int}

/-- One more tag is attached to a medium that exists. -/
theorem addTag_yields {s₀ : Store} {done : List NewTag} {found : List Tag} (h : s.Sound)
    (hMedia : s.hasMedia mediaId = true) (hTagged : s₀.Tagged mediaId now done found s)
    (hName : (Text.trim tag.name).isEmpty = false) :
    (addTag mediaId now tag).Yields s fun had s' => s'.Sound ∧ s'.hasMedia mediaId = true ∧
      s₀.Tagged mediaId now (done ++ [tag]) (found ++ [had]) s' := by
  refine (findOrInsertTag_yields h hName).bind ?_
  rintro _ s' ⟨hSound, row, hRow, rfl, hHad⟩
  obtain ⟨hSameMedia, -, -, row', hRow', hId, hNamed⟩ := hHad.exists_row
  obtain rfl : row' = row := Store.eq_of_ids hSound.tags_ids hRow' hRow hId
  obtain ⟨c, hc⟩ := hSound.exists_category hRow
  have hCategory : row'.category = row'.read.category.code := by rw [TagRow.read_code hc, hc]
  have hMedia' : s'.hasMedia mediaId = true := by
    rw [Store.hasMedia, hSameMedia]
    exact hMedia
  refine ⟨_, s'.attach mediaId row'.id now, ?_, ?_, ?_, hTagged.provides hHad hRow hCategory hNamed⟩
  · simp only [on_bind, on_tables, on_put, on_pure, TagRow.read_id]
  · exact hSound.attach now (Store.exists_core_of_hasMedia hMedia')
      ⟨row'.unused, List.mem_map_of_mem hRow, rfl⟩
  · rwa [Store.hasMedia_of_outline (s'.outline_attach mediaId row'.id now)]

/-- Tags are attached to a medium that exists one after the other. -/
theorem addTags_on {s' : Store} {tags : List NewTag} {found : List Tag}
    (hMedia : s.hasMedia mediaId = true)
    (hEach : (tags.mapM (addTag mediaId now)).on (ready s) = (.ok found, ready s')) :
    (addTags mediaId tags now).on (ready s) = (.ok found, ready s') := by
  simp only [addTags, on_transaction, on_bind, on_tables, hMedia, Bool.not_true, Bool.false_eq_true,
    ↓reduceIte, hEach]

/-- Tags that have names are attached to a medium that exists, all of them. -/
theorem addTags_yields {tags : List NewTag} (h : s.Sound) (now : Int)
    (hMedia : s.hasMedia mediaId = true)
    (hNames : ∀ tag ∈ tags, (Text.trim tag.name).isEmpty = false) :
    (addTags mediaId tags now).Yields s fun found s' => s'.Sound ∧ s'.hasMedia mediaId = true ∧
      s.Tagged mediaId now tags found s' := by
  have hEach : (tags.mapM (addTag mediaId now)).Yields s fun found s' => s'.Sound ∧
      s'.hasMedia mediaId = true ∧ s.Tagged mediaId now tags found s' := by
    refine .mapM (fun done found s' => s'.Sound ∧ s'.hasMedia mediaId = true ∧
      s.Tagged mediaId now done found s') tags ?_ ⟨h, hMedia, s.tagged_nil mediaId now⟩
    rintro done found tag s₁ hTag ⟨hSound, hMedia, hTagged⟩
    exact addTag_yields hSound hMedia hTagged (hNames tag hTag)
  obtain ⟨found, s', hOn, hTold⟩ := hEach
  exact ⟨found, s', addTags_on hMedia hOn, hTold⟩

-- ---------------------------------------------------------------------------
-- Tags that are there already
-- ---------------------------------------------------------------------------

/-- Attaching a tag that is stored is just that. -/
theorem addTag_stored (h : s.Sound) {row : TagRow} (hRow : row ∈ s.tags)
    (hName : Text.OneName row.name (Text.trim tag.name)) :
    (addTag mediaId now tag).on (ready s) =
      (.ok row.read, ready (s.attach mediaId row.id now)) := by
  have hFound := findOrInsertTag_stored h now (h.tagRowByName?_of_mem hRow hName)
  simp only [addTag, on_bind, hFound, on_tables, on_put, on_pure, TagRow.read_id]

/-- One tag that is stored is attached to a medium that exists. -/
theorem addTags_stored (h : s.Sound) (hMedia : s.hasMedia mediaId = true) {row : TagRow}
    (hRow : row ∈ s.tags) (hName : Text.OneName row.name (Text.trim tag.name)) :
    (addTags mediaId [tag] now).on (ready s) =
      (.ok [row.read], ready (s.attach mediaId row.id now)) := by
  refine addTags_on hMedia ?_
  simp only [List.mapM_cons, List.mapM_nil, on_bind, on_pure, addTag_stored h hRow hName]

/-- Tags that a medium carries are attached to it without any change. -/
theorem addTags_known {tags : List NewTag} (h : s.Sound) (hMedia : s.hasMedia mediaId = true)
    (hKnown : ∀ tag ∈ tags, ∃ row ∈ s.tags, s.isAttached mediaId row.id = true ∧
      Text.OneName row.name (Text.trim tag.name)) :
    ∃ found, (addTags mediaId tags now).on (ready s) = (.ok found, ready s) := by
  have hEach : (tags.mapM (addTag mediaId now)).Yields s fun _ s' => s' = s := by
    refine .mapM (fun _ _ s' => s' = s) tags ?_ rfl
    rintro done found tag s₁ hTag rfl
    obtain ⟨row, hRow, hAttached, hName⟩ := hKnown tag hTag
    refine ⟨row.read, s₁, ?_, rfl⟩
    rw [addTag_stored h hRow hName, Store.attach_of_isAttached hAttached]
  obtain ⟨found, s', hOn, rfl⟩ := hEach
  exact ⟨found, addTags_on hMedia hOn⟩

theorem removeTag_on (s : Store) (mediaId tagId now : Int) :
    (removeTag mediaId tagId now).on (ready s) =
      (.ok (s.isAttached mediaId tagId), ready (s.detach mediaId tagId now)) := by
  simp only [removeTag, on_bind, on_lock, on_tables, on_put, on_pure]

end Database

/-- In every reachable database a medium that exists is tagged with any list of names that are not
blank: a tag is had for each of them, in their order, and the medium carries these besides what it
carried before; tags are created for just the names that no stored tag has, each once, with the
spelling and the category that come first in the list; all other tags and media stay as they are,
and so do attachments and views. A tag has a name if the store takes its own one and this for one.
Doing so again at any time changes nothing at all. And adding one stored tag that the medium does
not carry is undone by removing it, but for the time at which the medium has changed. -/
theorem tagging_of_reachable {db : Database} (h : db.Reachable) :
    ∃ s, db = ready s ∧ ∀ mediaId, s.hasMedia mediaId = true →
      (∀ tags : List NewTag, (∀ tag ∈ tags, (Text.trim tag.name).isEmpty = false) → ∀ now,
        ∃ found s', (Database.addTags mediaId tags now).on db = (.ok found, ready s') ∧
          s.Tagged mediaId now tags found s' ∧
          ∀ later, ∃ again,
            (Database.addTags mediaId tags later).on (ready s') = (.ok again, ready s')) ∧
      ∀ row ∈ s.tags, s.isAttached mediaId row.id = false →
        ∀ tag : NewTag, Text.OneName row.name (Text.trim tag.name) → ∀ now later,
          ∃ had s', (Database.addTags mediaId [tag] now).on db = (.ok [had], ready s') ∧
            had.id = row.id ∧
            (Database.removeTag mediaId row.id later).on (ready s') =
              (.ok true,
                ready (s.changeMedia mediaId fun row => { row with updatedAt := later })) := by
  obtain ⟨s, rfl, hSound⟩ := h.sound
  refine ⟨s, rfl, fun mediaId hMedia => ⟨?_, ?_⟩⟩
  · intro tags hNames now
    obtain ⟨found, s', hOn, hSound', hMedia', hTagged⟩ :=
      Database.addTags_yields hSound now hMedia hNames
    refine ⟨found, s', hOn, hTagged, fun later => ?_⟩
    exact Database.addTags_known hSound' hMedia' fun tag hTag => hTagged.known hTag
  · intro row hRow hAttached tag hName now later
    refine ⟨row.read, _, Database.addTags_stored hSound hMedia hRow hName, rfl, ?_⟩
    have hNow : (s.attach mediaId row.id now).isAttached mediaId row.id = true :=
      Store.isAttached_attach.mpr (.inr ⟨rfl, rfl⟩)
    rw [Database.removeTag_on, hNow, Store.detach_attach hAttached]

/-- The second image shares one tag with the first already. It gets the other one, and a new tag
in two spellings. -/
theorem tagging_of_circle :
    Database.circle.Reachable ∧ ∃ s found s', Database.circle = ready s ∧
      (Database.addTags 2 [⟨" aDA", .general⟩, ⟨"New", .artist⟩, ⟨"nEW ", .metadata⟩] 7).on
        Database.circle = (.ok found, ready s') ∧
      s'.tags.map (fun tag => (tag.name, tag.category, tag.usageCount)) =
        [("cat", 0, 2), ("Ada", 2, 2), ("New", 2, 1)] ∧
      (∃ again,
        (Database.addTags 2 [⟨" aDA", .general⟩, ⟨"New", .artist⟩, ⟨"nEW ", .metadata⟩] 8).on
          (ready s') = (.ok again, ready s')) ∧
      ∃ had s₁, (Database.addTags 2 [⟨"ADA", .general⟩] 7).on Database.circle =
          (.ok [had], ready s₁) ∧
        (Database.removeTag 2 2 9).on (ready s₁) =
          (.ok true, ready (s.changeMedia 2 fun row => { row with updatedAt := 9 })) := by
  obtain ⟨s, hReady, hEach⟩ := tagging_of_reachable Database.reachable_circle
  have hHas := Database.holds_of_ready hReady (·.hasMedia 2 = true) (by decide +kernel)
  obtain ⟨row, hRow, hId, hName, hNot⟩ := Database.holds_of_ready hReady (fun s =>
    ∃ row ∈ s.tags, row.id = 2 ∧ row.name = "Ada" ∧ s.isAttached 2 row.id = false)
    (by decide +kernel)
  have hTags : ((Database.addTags 2 [⟨" aDA", .general⟩, ⟨"New", .artist⟩, ⟨"nEW ", .metadata⟩]
      7).after Database.circle).store.map (fun s =>
        s.tags.map fun tag => (tag.name, tag.category, tag.usageCount)) =
      some [("cat", 0, 2), ("Ada", 2, 2), ("New", 2, 1)] := by
    decide +kernel
  obtain ⟨hMany, hOne⟩ := hEach 2 hHas
  obtain ⟨found, s', hOn, -, hAgain⟩ :=
    hMany [⟨" aDA", .general⟩, ⟨"New", .artist⟩, ⟨"nEW ", .metadata⟩] (by decide +kernel) 7
  rw [Work.after, hOn] at hTags
  obtain ⟨had, s₁, hAdd, -, hRemove⟩ := hOne row hRow hNot ⟨"ADA", .general⟩
    (by rw [hName]; decide +kernel) 7 9
  exact ⟨Database.reachable_circle, s, found, s', hReady, hOn, Option.some.inj hTags, hAgain 8,
    had, s₁, hAdd, hId ▸ hRemove⟩

/-- A name with a NUL is that of a stored tag with another name, which is had for it. -/
theorem tagging_of_hiddenNames :
    Database.hiddenNames.Reachable ∧ Text.trim "a\x00c" = "a\x00c" ∧
      ∃ had, (Database.addTags 1 [⟨"a\x00c", .general⟩] 3).on Database.hiddenNames =
          (.ok [had], Database.hiddenNames) ∧
        had.name = "a\x00z" ∧ Text.fold had.name ≠ Text.fold "a\x00c" := by
  obtain ⟨s, hReady, hSound⟩ := Database.reachable_hiddenNames.sound
  have hMedia := Database.holds_of_ready hReady (·.hasMedia 1 = true) (by decide +kernel)
  obtain ⟨row, hRow, hName, hAttached⟩ := Database.holds_of_ready hReady (fun s =>
    ∃ row ∈ s.tags, row.name = "a\x00z" ∧ s.isAttached 1 row.id = true) (by decide +kernel)
  have hOne : Text.OneName row.name (Text.trim "a\x00c") := by
    rw [hName]
    decide +kernel
  have hOn : (Database.addTags 1 [⟨"a\x00c", .general⟩] 3).on (ready s) =
      (.ok [row.read], ready (s.attach 1 row.id 3)) :=
    Database.addTags_stored hSound hMedia hRow hOne
  rw [Store.attach_of_isAttached hAttached, ← hReady] at hOn
  have hRead : row.read.name = "a\x00z" := hName
  refine ⟨Database.reachable_hiddenNames, by decide +kernel, row.read, hOn, hRead, ?_⟩
  rw [hRead]
  decide +kernel

end MediaLibrary
