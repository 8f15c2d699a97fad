import MediaLibrary.Proofs.Page.Sequence
import MediaLibrary.Proofs.Search.Stages

/-!
# Search — ids over a run

An id is given once in the life of a library. Whatever a run does, be it that operations
fail, that transactions are taken back, that the newest medium goes or all of them do, what
comes later has a greater id than all that was there at any time before; and so a walk that
goes on after the last id of a page comes to everything that was created since.

* `Database.mediaIds`, `Database.tagIds`, `Database.hashes` — what is stored under which ids;
* `Database.afterAll_later` — ids along a run;
* `Database.lastId_mem` — the last id of a page is the one of a medium;
* `ids_stay_fresh` — whatever is created, has come, or has gone.
-/

namespace MediaLibrary

open Database (ready)

namespace Database

/-- The ids of the media. -/
def mediaIds (db : Database) : List Int :=
  (db.store.map fun s => s.media.map (·.id)).getD []

/-- The ids of the tags. -/
def tagIds (db : Database) : List Int :=
  (db.store.map fun s => s.tags.map (·.id)).getD []

/-- The ids of the media, each with the hash of its content. -/
def hashes (db : Database) : List (Int × String) :=
  (db.store.map fun s => s.media.map fun row => (row.id, row.contentHash)).getD []

variable {s : Store}

/-- A run leads to later ids, and to sound tables from sound tables. -/
theorem afterAll_later (h : s.Sound) (operations : List (Operation × Int)) :
    ∃ s', (ready s).afterAll operations = ready s' ∧ s'.Sound ∧
      s.mediaIds.Later s'.mediaIds ∧ s.tagIds.Later s'.tagIds := by
  refine afterAll_keeps (P := fun s' => s'.Sound ∧ s.mediaIds.Later s'.mediaIds ∧
    s.tagIds.Later s'.tagIds) ?_ operations ⟨h, .refl _, .refl _⟩
  rintro now s₁ s₂ hChange ⟨hSound, hMedia, hTags⟩
  obtain ⟨hNextMedia, hNextTags⟩ := hChange.next
  exact ⟨hChange.sound hSound, hMedia.next hNextMedia, hTags.next hNextTags⟩

-- ---------------------------------------------------------------------------
-- Creating
-- ---------------------------------------------------------------------------

variable {now id : Int} {db : Database}

/-- A new medium is given the next id. -/
theorem createMedia_ids {m : NewMedia}
    (h : (createMedia m now).on (ready s) = (.ok id, db)) :
    id = s.mediaIds.last + 1 ∧ db.hashes = (ready s).hashes ++ [(id, m.contentHash)] := by
  obtain ⟨s', rfl, hOk⟩ := (Work.Moves.lock (insertMedia_moves m)).of_ok h
  exact ⟨(Store.insertMedia_ok hOk).1, Store.hashes_insertMedia hOk⟩

/-- A batch is given the next ids in the order of its items. -/
theorem createMediaBatch_ids {items : List NewMedia} {ids : List Int}
    (h : (createMediaBatch items now).on (ready s) = (.ok ids, db)) :
    (∀ id ∈ ids, s.mediaIds.last < id) ∧ ids.Pairwise (· < ·) ∧ ids.length = items.length ∧
      db.hashes = (ready s).hashes ++ ids.zip (items.map (·.contentHash)) := by
  obtain ⟨s', rfl, hIds, -, hHashes⟩ := (createMediaBatch_moves items).of_ok h
  refine ⟨?_, ?_, ?_, hHashes⟩
  · intro id hId
    rw [hIds] at hId
    obtain ⟨i, -, rfl⟩ := List.mem_map.mp hId
    show s.lastMediaId < s.lastMediaId + 1 + i
    omega
  · rw [hIds, List.pairwise_map]
    refine List.pairwise_lt_range.imp fun hLt => ?_
    omega
  · rw [hIds, List.length_map, List.length_range]

/-- A new tag is given the next id. -/
theorem createTag_ids {tag : NewTag} (h : (createTag tag now).on (ready s) = (.ok id, db)) :
    id = s.tagIds.last + 1 ∧ db.tagIds = (ready s).tagIds ++ [id] := by
  obtain ⟨s', rfl, hOk⟩ := (Work.Moves.lock (insertTag_moves tag)).of_ok h
  have hId := (Store.insertTag_ok hOk).1
  refine ⟨hId, ?_⟩
  rw [hId]
  exact congrArg Ids.used (Store.tagIds_insertTag hOk)

/-- A tag that is not found is given the next id. -/
theorem getOrCreateTag_ids {tag : NewTag} {found : Tag}
    (h : (getOrCreateTag tag now).on (ready s) = (.ok found, db)) :
    (found.id ∈ s.tagIds.used ∧ db = ready s) ∨
      (found.id = s.tagIds.last + 1 ∧ db.tagIds = (ready s).tagIds ++ [found.id]) := by
  obtain ⟨s', rfl, ⟨rfl, row, hRow, hId⟩ | hOk⟩ :=
    (Work.Moves.transaction (findOrInsertTag_moves tag)).of_ok h
  · exact .inl ⟨List.mem_map.mpr ⟨row, List.mem_of_find?_eq_some hRow, hId⟩, rfl⟩
  · have hId := (Store.insertTag_ok hOk).1
    refine .inr ⟨hId, ?_⟩
    rw [hId]
    exact congrArg Ids.used (Store.tagIds_insertTag hOk)

/-- Each tag of a list is there, or stands before in the list, or is given an id above all of
those. -/
theorem addTags_ids (hBound : s.tagIds.Bounded) {mediaId : Int} {tags : List NewTag}
    {found earlier rest : List Tag} {tag : Tag}
    (h : (addTags mediaId tags now).on (ready s) = (.ok found, db))
    (hFound : found = earlier ++ tag :: rest) :
    tag.id ∈ db.tagIds ∧ (tag.id ∈ s.tagIds.used ∨ (∃ t ∈ earlier, t.id = tag.id) ∨
      s.tagIds.last < tag.id ∧ ∀ t ∈ earlier, t.id < tag.id) := by
  obtain ⟨s', rfl, hAnswers⟩ := (addTags_moves mediaId tags).of_ok h
  have hIds : found.map (·.id) = earlier.map (·.id) ++ tag.id :: rest.map (·.id) := by
    rw [hFound, List.map_append, List.map_cons]
  have hCases := hAnswers.known_or_above hBound hIds
  rw [List.mem_map, List.forall_mem_map] at hCases
  refine ⟨(hAnswers.mem_used tag.id).mpr (.inr ?_), hCases⟩
  rw [hIds]
  exact List.mem_append_right _ (List.mem_cons_self ..)

-- ---------------------------------------------------------------------------
-- Pages
-- ---------------------------------------------------------------------------

/-- A page that a search in a sound store answers with shows media that match. -/
theorem page_of_search (h : s.Sound) {r : SearchRequest} {maxPageSize : Int} {page : Page}
    {db : Database} (hPage : (search r maxPageSize).on (ready s) = (.ok page, db)) :
    ∃ q w, page = Page.ofMatches w (s.matching q r.filters) := by
  cases hQuery : Query.parse r.query with
  | error e =>
    rw [search_eq, SearchRequest.plan_of_parse_error hQuery] at hPage
    cases hPage
  | ok q =>
    rcases SearchRequest.plan_cases hQuery maxPageSize with
      ⟨-, fault, hPlan⟩ | ⟨-, w, sel, hWindow, hSel, -⟩
    · rw [search_eq, hPlan] at hPage
      cases hPage
    · rw [search_on h hQuery hWindow hSel] at hPage
      obtain ⟨-, -, hPage⟩ := exists_of_map (Prod.mk.inj hPage).1
      exact ⟨q, w, hPage.symm⟩

/-- The last id of a page is the one of a medium. -/
theorem lastId_mem (h : s.Sound) {r : SearchRequest} {maxPageSize : Int} {page : Page}
    {db : Database} (hPage : (search r maxPageSize).on (ready s) = (.ok page, db)) {last : Int}
    (hLast : last ∈ page.lastId) : last ∈ s.mediaIds.used := by
  obtain ⟨q, w, rfl⟩ := page_of_search h hPage
  rw [Page.lastId_ofMatches, Option.mem_map] at hLast
  obtain ⟨m, hm, rfl⟩ := hLast
  have hMatch := (w.slice_sublist _ _).subset (List.mem_of_getLast? hm)
  obtain ⟨row, hRow, hDecode⟩ := List.mem_filterMap.mp (List.mem_filter.mp hMatch).1
  rw [h.decode_media hRow] at hDecode
  cases hDecode
  exact List.mem_map.mpr ⟨row, hRow, rfl⟩

end Database

-- ---------------------------------------------------------------------------
-- Runs
-- ---------------------------------------------------------------------------

/-- Whatever was stored at some time, after any operations: a new medium or tag has an id above all
that were stored then; the media of a batch have ascending ids, in the order of its items; a tag
that is asked for by name, alone or in a list, is there already or has an id above all of them and
of those before it in the list; what has come has an id above all of them; what has gone does not
come back; and what was created since a page was read has an id above the last id of the page. -/
theorem ids_stay_fresh {db : Database} (h : db.Reachable) (operations : List (Operation × Int)) :
    let later := db.afterAll operations
    (∀ m now id db', (Database.createMedia m now).on later = (.ok id, db') →
      (∀ x ∈ db.mediaIds, x < id) ∧ db'.hashes = later.hashes ++ [(id, m.contentHash)]) ∧
    (∀ items now ids db', (Database.createMediaBatch items now).on later = (.ok ids, db') →
      (∀ id ∈ ids, ∀ x ∈ db.mediaIds, x < id) ∧ ids.Pairwise (· < ·) ∧
        ids.length = items.length ∧
        db'.hashes = later.hashes ++ ids.zip (items.map (·.contentHash))) ∧
    (∀ tag now id db', (Database.createTag tag now).on later = (.ok id, db') →
      (∀ x ∈ db.tagIds, x < id) ∧ db'.tagIds = later.tagIds ++ [id]) ∧
    (∀ tag now found db', (Database.getOrCreateTag tag now).on later = (.ok found, db') →
      (found.id ∈ later.tagIds ∧ db' = later) ∨
        ((∀ x ∈ db.tagIds, x < found.id) ∧ db'.tagIds = later.tagIds ++ [found.id])) ∧
    (∀ mediaId tags now found db', (Database.addTags mediaId tags now).on later = (.ok found, db') →
      ∀ earlier tag rest, found = earlier ++ tag :: rest → tag.id ∈ db'.tagIds ∧
        (tag.id ∈ later.tagIds ∨ (∃ t ∈ earlier, t.id = tag.id) ∨
          (∀ x ∈ db.tagIds, x < tag.id) ∧ ∀ t ∈ earlier, t.id < tag.id)) ∧
    (∀ id ∈ later.mediaIds, id ∉ db.mediaIds → ∀ x ∈ db.mediaIds, x < id) ∧
    (∀ id ∈ later.tagIds, id ∉ db.tagIds → ∀ x ∈ db.tagIds, x < id) ∧
    (∀ id ∈ db.mediaIds, id ∉ later.mediaIds → ∀ more, id ∉ (later.afterAll more).mediaIds) ∧
    (∀ id ∈ db.tagIds, id ∉ later.tagIds → ∀ more, id ∉ (later.afterAll more).tagIds) ∧
    ∀ r maxPageSize page db', (Database.search r maxPageSize).on db = (.ok page, db') →
      ∀ last ∈ page.lastId,
        (∀ m now id db', (Database.createMedia m now).on later = (.ok id, db') → last < id) ∧
        (∀ items now ids db', (Database.createMediaBatch items now).on later = (.ok ids, db') →
          ∀ id ∈ ids, last < id) ∧
        ∀ id ∈ later.mediaIds, id ∉ db.mediaIds → last < id := by
  obtain ⟨s, rfl, hSound⟩ := h.sound
  obtain ⟨s', hLater, hSound', hMedia, hTags⟩ := Database.afterAll_later hSound operations
  intro later
  have hLater : later = ready s' := hLater
  clear_value later
  subst hLater
  have hMediaBound := hSound.mediaIds_bounded
  have hTagBound := hSound.tagIds_bounded
  -- an id that is given now is above all that were stored
  have hMedium (id : Int) (hId : s'.mediaIds.last < id) : ∀ x ∈ (ready s).mediaIds, x < id :=
    hMediaBound.below (Int.lt_of_le_of_lt hMedia.last hId)
  have hTag (id : Int) (hId : s'.tagIds.last < id) : ∀ x ∈ (ready s).tagIds, x < id :=
    hTagBound.below (Int.lt_of_le_of_lt hTags.last hId)
  have hCome : ∀ id ∈ (ready s').mediaIds, id ∉ (ready s).mediaIds →
      ∀ x ∈ (ready s).mediaIds, x < id := fun id => hMedia.above hMediaBound
  refine ⟨?_, ?_, ?_, ?_, ?_, hCome, fun id => hTags.above hTagBound, ?_, ?_, ?_⟩
  · intro m now id db' hOn
    obtain ⟨hId, hHashes⟩ := Database.createMedia_ids hOn
    exact ⟨hMedium id (by omega), hHashes⟩
  · intro items now ids db' hOn
    obtain ⟨hIds, hRest⟩ := Database.createMediaBatch_ids hOn
    exact ⟨fun id hId => hMedium id (hIds id hId), hRest⟩
  · intro tag now id db' hOn
    obtain ⟨hId, hIds⟩ := Database.createTag_ids hOn
    exact ⟨hTag id (by omega), hIds⟩
  · intro tag now found db' hOn
    refine (Database.getOrCreateTag_ids hOn).imp_right fun ⟨hId, hIds⟩ => ?_
    exact ⟨hTag found.id (by omega), hIds⟩
  · intro mediaId tags now found db' hOn earlier tag rest hFound
    obtain ⟨hMem, hCases⟩ := Database.addTags_ids hSound'.tagIds_bounded hOn hFound
    exact ⟨hMem, hCases.imp_right fun hCases => hCases.imp_right (And.imp_left (hTag tag.id))⟩
  · intro id hId hGone more
    obtain ⟨s'', hMore, -, hMedia', -⟩ := Database.afterAll_later hSound' more
    rw [hMore]
    exact hMedia.gone hMedia' hMediaBound hId hGone
  · intro id hId hGone more
    obtain ⟨s'', hMore, -, -, hTags'⟩ := Database.afterAll_later hSound' more
    rw [hMore]
    exact hTags.gone hTags' hTagBound hId hGone
  · intro r maxPageSize page db' hPage last hLast
    have hStored := Database.lastId_mem hSound hPage hLast
    refine ⟨?_, ?_, ?_⟩
    · intro m now id db' hOn
      have hId := (Database.createMedia_ids hOn).1
      exact hMedium id (by omega) last hStored
    · intro items now ids db' hOn id hId
      exact hMedium id ((Database.createMediaBatch_ids hOn).1 id hId) last hStored
    · intro id hId hNew
      exact hCome id hId hNew last hStored

/-- What is done to a library with one image and two tags: an image comes and goes, a batch fails,
and then the image that was there goes and a tag with it. -/
def Operation.emptying : List (Operation × Int) :=
  [(.createMedia (.image "b"), 3), (.deleteMedia 2, 4),
    (.createMediaBatch [.image "c", .image "a"], 5), (.deleteMedia 1, 6), (.deleteTag 2, 7)]

/-- Nothing is left of the media, and yet the next one is the third. The tag that was deleted and is
asked for again by its name is the third one too. -/
theorem ids_stay_fresh_taggedImage :
    Database.taggedImage.Reachable ∧ Database.taggedImage.mediaIds = [1] ∧
      (Database.taggedImage.afterAll Operation.emptying).mediaIds = [] ∧
      (∀ more, 1 ∉ ((Database.taggedImage.afterAll Operation.emptying).afterAll more).mediaIds) ∧
      (∃ db, (Database.createMedia (.image "d") 8).on
          (Database.taggedImage.afterAll Operation.emptying) = (.ok 3, db) ∧
        (∀ x ∈ Database.taggedImage.mediaIds, x < 3) ∧ db.hashes = [(3, "d")]) ∧
      ∃ db, (Database.getOrCreateTag ⟨"ada", .general⟩ 9).on
          (Database.taggedImage.afterAll Operation.emptying) =
            (.ok ⟨3, "ada", .general, 0, 9⟩, db) ∧
        (∀ x ∈ Database.taggedImage.tagIds, x < 3) ∧ db.tagIds = [1, 3] := by
  have hReachable := Database.reachable_taggedImage
  obtain ⟨hMedia, -, -, hTag, -, -, -, hGone, -⟩ := ids_stay_fresh hReachable Operation.emptying
  have hBefore : Database.taggedImage.mediaIds = [1] := by decide +kernel
  generalize hLater : Database.taggedImage.afterAll Operation.emptying = later at *
  have hEmpty : later.mediaIds = [] ∧ later.hashes = [] ∧ later.tagIds = [1] := by
    rw [← hLater]
    decide +kernel
  have hThird : ((Database.createMedia (.image "d") 8).on later).1 = .ok 3 := by
    rw [← hLater]
    decide +kernel
  have hAgain : ((Database.getOrCreateTag ⟨"ada", .general⟩ 9).on later).1 =
      .ok ⟨3, "ada", .general, 0, 9⟩ := by
    rw [← hLater]
    decide +kernel
  obtain ⟨hAbove, hHashes⟩ := hMedia _ _ _ _ (Prod.ext hThird rfl)
  refine ⟨hReachable, hBefore, hEmpty.1, hGone 1 (by simp [hBefore]) (by simp [hEmpty.1]),
    ⟨_, Prod.ext hThird rfl, hAbove, by rw [hHashes, hEmpty.2.1]; rfl⟩,
    _, Prod.ext hAgain rfl, ?_⟩
  obtain ⟨hOld, -⟩ | ⟨hAboveTags, hTagIds⟩ := hTag _ _ _ _ (Prod.ext hAgain rfl)
  · rw [hEmpty.2.2] at hOld
    exact absurd hOld (by decide)
  · exact ⟨hAboveTags, by rw [hTagIds, hEmpty.2.2]; rfl⟩

end MediaLibrary
