import MediaLibrary.Proofs.Page.Way
import MediaLibrary.Proofs.Search.Found

/-!
# Search — walks among operations of others

Between two requests of a walk anybody may change the library: media may come, go and
cease to match, even the one at which the walk goes on. A walk goes on at an id, though,
and what lies before that id has been served or has not been there: this is the invariant
that carries every guarantee of a walk, `Journey.Serves`, from its first page to its last.

* `Database.journey` — a walk with operations of others before each request;
* `Database.walk_on` — among no operations of others it is a walk;
* `Journey.Serves` — what the rest of a walk does from the id at which it goes on;
* `journey_serves` — a walk does it;
* `journey_serves_once` — what is there all along is served exactly once.
-/

namespace MediaLibrary

open Database (ready)

-- ---------------------------------------------------------------------------
-- Walks among operations
-- ---------------------------------------------------------------------------

/-- A request of a walk, and the operations, each at its time, that others do before it. -/
structure Visit where
  operations : List (Operation × Int)
  limit : Int
  maxPageSize : Int

/-- A page, and the database that it was read from. -/
structure Reading where
  db : Database
  page : Page

namespace Database

/-- The readings of a walk among operations of others, and whether the walk has ended. -/
def journey (way : Direction) :
    List Visit → SearchRequest → Database → Except Error (List Reading × Bool)
  | [], _, _ => .ok ([], false)
  | visit :: rest, r, db =>
    let db := db.afterAll visit.operations
    let r := { r with limit := visit.limit }
    match (search r visit.maxPageSize).on db with
    | (.error e, _) => .error e
    | (.ok page, db') =>
      match r.next? page way with
      | none => .ok ([⟨db, page⟩], true)
      | some r =>
        (journey way rest r db').map fun (readings, ended) => (⟨db, page⟩ :: readings, ended)

/-- The media of a database that match a query and filters, by id. -/
def matching (db : Database) (q : Query) (f : Filters) : List Media :=
  (db.store.map fun s => s.matching q f).getD []

end Database

-- ---------------------------------------------------------------------------
-- One request
-- ---------------------------------------------------------------------------

/-- A request for the next page of a walk, at an id or from the beginning. -/
def SearchRequest.resume (text : String) (f : Filters) (way : Direction) (start : Option Int)
    (limit : Int) : SearchRequest :=
  match way with
  | .forward => { query := text, filters := f, limit := limit, afterId := start }
  | .backward => { query := text, filters := f, limit := limit, beforeId := start }

/-- The request for a page of a walk is answered with the page of its window, if the store takes the
statements for it. -/
theorem Database.search_resume {s : Store} (h : s.Sound) {text : String} {q : Query}
    (hQuery : Query.parse text = .ok q) {f : Filters} {sel : Selection Selection.Condition}
    (hSel : Selection.compile q f = .ok sel) (way : Direction) (start : Option Int) {limit : Int}
    (hLimit : 1 ≤ limit) (maxPageSize : Int) :
    ∃ piece, (Database.search (.resume text f way start limit) maxPageSize).on (ready s) =
      ((Page.prepared sel ⟨min limit (max maxPageSize 1), .resume way start⟩ piece).map fun _ =>
        Page.ofMatches ⟨min limit (max maxPageSize 1), .resume way start⟩ (s.matching q f),
        ready s) := by
  cases way <;> cases start <;>
    exact ⟨_, Database.search_on h hQuery (Window.make_ok hLimit rfl maxPageSize) hSel⟩

/-- A page on the way of a walk, from an id or, forward, from the beginning. -/
theorem serves_resume {s : Store} (h : s.Sound) {q : Query} (hq : q.IsReadable) {f : Filters}
    {sel : Selection Selection.Condition} (hSel : Selection.compile q f = .ok sel)
    {way : Direction} {start : Option Int} (hStart : way = .forward ∨ start.isSome = true)
    {limit : Int} (hLimit : 1 ≤ limit) :
    Page.Serves way start (s.matching q f)
      (Page.ofMatches ⟨limit, .resume way start⟩ (s.matching q f)) := by
  have hIds := h.matching_ids hq hSel
  cases way with
  | forward => exact Page.serves_forward hIds hLimit start
  | backward =>
    obtain ⟨b, rfl⟩ : ∃ b, start = some b := by
      simpa [Option.isSome_iff_exists] using hStart
    exact Page.serves_backward hIds hLimit b

-- ---------------------------------------------------------------------------
-- Walks among no operations
-- ---------------------------------------------------------------------------

theorem SearchRequest.next?_limit {r r' : SearchRequest} {p : Page} {way : Direction}
    (h : r.next? p way = some r') : r'.limit = r.limit := by
  cases way with
  | forward =>
    simp only [next?] at h
    split at h
    · cases h
      rfl
    · cases h
  | backward =>
    simp only [next?] at h
    split at h
    · cases h
    · cases h
      rfl

/-- A walk is a walk among no operations of others. -/
theorem Database.walk_on (way : Direction) (maxPageSize : Int) (n : Nat) (r : SearchRequest)
    (s : Store) :
    (Database.walk way maxPageSize n r).on (ready s) =
      (((ready s).journey way (List.replicate n ⟨[], r.limit, maxPageSize⟩) r).map
        fun walk => walk.1.map (·.page), ready s) := by
  induction n generalizing r with
  | zero => rfl
  | succ n ih =>
    obtain ⟨outcome, hSearch⟩ :
        ∃ outcome, (search r maxPageSize).on (ready s) = (outcome, ready s) :=
      ⟨_, Database.search_ready r maxPageSize s⟩
    have hAfter : (ready s).afterAll [] = ready s := rfl
    rw [Database.walk, Work.on_bind, hSearch, List.replicate_succ, Database.journey]
    simp only [hAfter, hSearch]
    cases outcome with
    | error e => rfl
    | ok page =>
      cases hNext : r.next? page way with
      | none =>
        simp only [hNext]
        rfl
      | some r' =>
        have hRest := ih r'
        rw [SearchRequest.next?_limit hNext] at hRest
        simp only [hNext, Work.on_bind, hRest]
        cases (ready s).journey way (List.replicate n ⟨[], r.limit, maxPageSize⟩) r' <;> rfl

-- ---------------------------------------------------------------------------
-- The rest of a walk
-- ---------------------------------------------------------------------------

/-- What the rest of a walk does that goes on at an id, or sets out: it serves matches past that
id, each page past the one before, and, if it ends, all that match whenever it looks. -/
structure Journey.Serves (way : Direction) (start : Option Int) (q : Query) (f : Filters)
    (readings : List Reading) (ended : Bool) : Prop where
  ascending : ∀ reading ∈ readings, reading.page.ids.Pairwise (· < ·)
  matched : ∀ reading ∈ readings, ∀ m ∈ reading.page.media, m ∈ reading.db.matching q f
  past : ∀ reading ∈ readings, ∀ id ∈ reading.page.ids, ∀ a ∈ start, way.Past a id
  apart : readings.Pairwise fun earlier later =>
    ∀ x ∈ earlier.page.ids, ∀ y ∈ later.page.ids, way.Past x y
  complete : ended = true → ∀ id, (∀ a ∈ start, way.Past a id) →
    (∀ reading ∈ readings, id ∈ (reading.db.matching q f).map (·.id)) →
    ∃ reading ∈ readings, id ∈ reading.page.ids

theorem Journey.Serves.nil (way : Direction) (start : Option Int) (q : Query) (f : Filters) :
    Journey.Serves way start q f [] false := by
  constructor <;> simp

variable {way : Direction} {start : Option Int} {q : Query} {f : Filters}

/-- A walk ends with a page after which it does not go on. -/
theorem Journey.Serves.last (reading : Reading)
    (h : Page.Serves way start (reading.db.matching q f) reading.page)
    (hLast : reading.page.goesOn way = false) : Journey.Serves way start q f [reading] true where
  ascending := by simpa using h.ascending
  matched := by simpa using h.matched
  past := by simpa using h.past
  apart := List.pairwise_singleton _ _
  complete := by
    intro _ id hId hMatch
    obtain ⟨m, hm, rfl⟩ := List.mem_map.mp (hMatch reading (List.mem_singleton_self _))
    exact ⟨reading, List.mem_singleton_self _, h.last hLast m hm hId⟩

/-- A page, and the rest of the walk, which goes on where it leaves the page. -/
theorem Journey.Serves.cons (reading : Reading) {e : Int} {readings : List Reading} {ended : Bool}
    (h : Page.Serves way start (reading.db.matching q f) reading.page)
    (he : e ∈ reading.page.ids) (hEnd : ∀ id ∈ reading.page.ids, id = e ∨ way.Past id e)
    (hExit : reading.page.exit way = some e)
    (hRest : Journey.Serves way (some e) q f readings ended) :
    Journey.Serves way start q f (reading :: readings) ended where
  ascending := List.forall_mem_cons.mpr ⟨h.ascending, hRest.ascending⟩
  matched := List.forall_mem_cons.mpr ⟨h.matched, hRest.matched⟩
  past := by
    refine List.forall_mem_cons.mpr ⟨h.past, fun later hLater id hId a ha => ?_⟩
    exact (h.past e he a ha).trans (hRest.past later hLater id hId e rfl)
  apart := by
    refine List.pairwise_cons.mpr ⟨fun later hLater x hx y hy => ?_, hRest.apart⟩
    have hPast := hRest.past later hLater y hy e rfl
    rcases hEnd x hx with rfl | hBefore
    · exact hPast
    · exact hBefore.trans hPast
  complete := by
    intro hEnded id hId hMatch
    obtain ⟨m, hm, rfl⟩ := List.mem_map.mp (hMatch reading (List.mem_cons_self ..))
    rcases h.complete m hm hId with hServed | ⟨e', -, hExit', hPast⟩
    · exact ⟨reading, List.mem_cons_self .., hServed⟩
    · -- it lies past the end of this page, so the rest of the walk meets it
      rw [hExit, Option.some_inj] at hExit'
      subst hExit'
      have hLeft : ∀ a ∈ some e, way.Past a m.id := by
        rintro a ⟨⟩
        exact hPast
      obtain ⟨later, hLater, hServed⟩ := hRest.complete hEnded m.id hLeft fun later hLater =>
        hMatch later (List.mem_cons_of_mem reading hLater)
      exact ⟨later, List.mem_cons_of_mem reading hLater, hServed⟩

/-- The request for the next page of a walk, where it goes on. -/
theorem next?_resume (text : String) (f : Filters) (way : Direction) (start : Option Int)
    (limit : Int) (p : Page) :
    (SearchRequest.resume text f way start limit).next? p way =
      if p.goesOn way then some (.resume text f way (p.exit way) limit) else none := by
  cases way with
  | forward => rfl
  | backward =>
    cases hEmpty : p.media.isEmpty <;>
      simp [SearchRequest.next?, Page.goesOn, hEmpty, SearchRequest.back, SearchRequest.resume,
        Page.exit]

/-- A walk serves, whatever is done to the library between its requests, unless the store refuses
one of them as too large. -/
theorem journey_serves {text : String} (hQuery : Query.parse text = .ok q) {f : Filters}
    {sel : Selection Selection.Condition} (hSel : Selection.compile q f = .ok sel)
    {visits : List Visit} (hLimits : ∀ visit ∈ visits, 1 ≤ visit.limit) {db : Database}
    (h : db.Reachable) (way : Direction) (start : Option Int)
    (hStart : way = .forward ∨ start.isSome = true) (limit : Int) :
    (∃ readings ended,
      db.journey way visits (.resume text f way start limit) = .ok (readings, ended) ∧
      Journey.Serves way start q f readings ended) ∨
    (¬sel.Fits ∧ ∃ fault,
      db.journey way visits (.resume text f way start limit) = .error (.storage fault)) := by
  induction visits generalizing db start limit with
  | nil => exact .inl ⟨[], false, rfl, Journey.Serves.nil way start q f⟩
  | cons visit rest ih =>
    obtain ⟨s, hReady, hSound⟩ := (h.afterAll visit.operations).sound
    have hLimit : 1 ≤ visit.limit := hLimits visit (List.mem_cons_self ..)
    have hRequest : ({ SearchRequest.resume text f way start limit with limit := visit.limit } :
        SearchRequest) = .resume text f way start visit.limit := by
      cases way <;> rfl
    obtain ⟨piece, hSearch⟩ :=
      Database.search_resume hSound hQuery hSel way start hLimit visit.maxPageSize
    set w : Window := ⟨min visit.limit (max visit.maxPageSize 1), .resume way start⟩
    set page := Page.ofMatches w (s.matching q f)
    rw [Database.journey, hRequest, hReady, hSearch]
    by_cases hAccepted : Page.Accepted sel w piece
    · have hPage : page.Serves way start (s.matching q f) :=
        serves_resume hSound (Query.isReadable_of_parse hQuery) hSel hStart (by omega)
      simp only [Page.map_prepared_of_accepted hAccepted, next?_resume]
      cases hGoes : page.goesOn way with
      | false =>
        exact .inl
          ⟨[⟨ready s, page⟩], true, rfl, Journey.Serves.last ⟨ready s, page⟩ hPage hGoes⟩
      | true =>
        obtain ⟨e, he, hExit, hEnd⟩ := hPage.exits (Page.ne_nil_of_goesOn hGoes)
        have hReachable : (ready s).Reachable := hReady ▸ h.afterAll visit.operations
        simp only [if_true, hExit]
        rcases ih (fun visit hVisit => hLimits visit (List.mem_cons_of_mem _ hVisit)) hReachable
          (some e) (.inr rfl) visit.limit with
          ⟨readings, ended, hRest, hServes⟩ | ⟨hLarge, fault, hRest⟩
        · refine .inl ⟨⟨ready s, page⟩ :: readings, ended, by rw [hRest]; rfl, ?_⟩
          exact Journey.Serves.cons ⟨ready s, page⟩ hPage he hEnd hExit hServes
        · exact .inr ⟨hLarge, fault, by rw [hRest]; rfl⟩
    · obtain ⟨e, hError, hRefused⟩ := Page.exists_map_prepared_error hAccepted page
      obtain ⟨fault, rfl⟩ := hRefused.storage
      exact .inr ⟨fun hFits => hAccepted (hFits.accepted w piece), fault, by rw [hError]⟩

-- ---------------------------------------------------------------------------
-- Whole walks
-- ---------------------------------------------------------------------------

theorem Journey.Serves.flatMap_pairwise {readings : List Reading} {ended : Bool}
    (h : Journey.Serves .forward start q f readings ended) :
    (readings.flatMap (·.page.ids)).Pairwise (· < ·) :=
  List.pairwise_flatMap.mpr ⟨h.ascending, h.apart⟩

theorem Journey.Serves.nodup {readings : List Reading} {ended : Bool}
    (h : Journey.Serves way start q f readings ended) : (readings.flatMap (·.page.ids)).Nodup :=
  List.pairwise_flatMap.mpr
    ⟨fun reading hReading => (h.ascending reading hReading).imp Int.ne_of_lt,
    h.apart.imp fun hApart x hx y hy => (hApart x hx y hy).ne⟩

/-- What matches whenever a walk looks is served exactly once, if the walk ends. -/
theorem Journey.Serves.count_eq_one {readings : List Reading} {ended : Bool}
    (h : Journey.Serves way start q f readings ended) (hEnded : ended = true) {id : Int}
    (hStart : ∀ a ∈ start, way.Past a id)
    (hMatch : ∀ reading ∈ readings, id ∈ (reading.db.matching q f).map (·.id)) :
    (readings.flatMap (·.page.ids)).count id = 1 := by
  obtain ⟨reading, hReading, hServed⟩ := h.complete hEnded id hStart hMatch
  rw [h.nodup.count, if_pos (List.mem_flatMap.mpr ⟨reading, hReading, hServed⟩)]

/-- Whatever operations are done between the requests of a walk, and whatever its page sizes are, a
walk forward serves ids that ascend from page to page, and a walk backward from an id serves ids
below it, each page below the one before. What is served matched when it was read, and what matches
whenever the walk looks has been served exactly once when the walk ends. A walk is answered so
unless its query is too large for the store. -/
theorem journey_serves_once {db : Database} (h : db.Reachable) {text : String} {q : Query}
    (hQuery : Query.parse text = .ok q) (f : Filters) {visits : List Visit}
    (hLimits : ∀ visit ∈ visits, 1 ≤ visit.limit) :
    ∃ sel, Selection.compile q f = .ok sel ∧
    ((∃ readings ended,
      db.journey .forward visits { query := text, filters := f } = .ok (readings, ended) ∧
      (readings.flatMap (·.page.ids)).Pairwise (· < ·) ∧
      (∀ reading ∈ readings, ∀ m ∈ reading.page.media, m ∈ reading.db.matching q f) ∧
      (ended = true → ∀ id,
        (∀ reading ∈ readings, id ∈ (reading.db.matching q f).map (·.id)) →
        (readings.flatMap (·.page.ids)).count id = 1)) ∨
      (¬sel.Fits ∧ ∃ fault,
        db.journey .forward visits { query := text, filters := f } = .error (.storage fault))) ∧
    ∀ b, (∃ readings ended,
      db.journey .backward visits { query := text, filters := f, beforeId := some b } =
        .ok (readings, ended) ∧
      (∀ reading ∈ readings, reading.page.ids.Pairwise (· < ·) ∧ ∀ id ∈ reading.page.ids, id < b) ∧
      (readings.Pairwise fun earlier later =>
        ∀ x ∈ earlier.page.ids, ∀ y ∈ later.page.ids, y < x) ∧
      (readings.flatMap (·.page.ids)).Nodup ∧
      (∀ reading ∈ readings, ∀ m ∈ reading.page.media, m ∈ reading.db.matching q f) ∧
      (ended = true → ∀ id < b,
        (∀ reading ∈ readings, id ∈ (reading.db.matching q f).map (·.id)) →
        (readings.flatMap (·.page.ids)).count id = 1)) ∨
      (¬sel.Fits ∧ ∃ fault,
        db.journey .backward visits { query := text, filters := f, beforeId := some b } =
          .error (.storage fault)) := by
  obtain ⟨sel, hSel⟩ := Selection.exists_compile_of_parse hQuery f
  refine ⟨sel, hSel, ?_, fun b => ?_⟩
  · refine (journey_serves hQuery hSel hLimits h .forward none (.inl rfl) 0).imp_left ?_
    rintro ⟨readings, ended, hJourney, hServes⟩
    refine ⟨readings, ended, hJourney, hServes.flatMap_pairwise, hServes.matched, ?_⟩
    intro hEnded id hMatch
    exact hServes.count_eq_one hEnded (by simp) hMatch
  · refine (journey_serves hQuery hSel hLimits h .backward (some b) (.inr rfl) 0).imp_left ?_
    rintro ⟨readings, ended, hJourney, hServes⟩
    refine ⟨readings, ended, hJourney, ?_, hServes.apart, hServes.nodup, hServes.matched, ?_⟩
    · intro reading hReading
      exact ⟨hServes.ascending reading hReading,
        fun id hId => hServes.past reading hReading id hId b rfl⟩
    · intro hEnded id hId hMatch
      refine hServes.count_eq_one hEnded ?_ hMatch
      rintro a ⟨⟩
      exact hId

/-- Two visits, before the second of which the medium of the first page is deleted, another one is
created that does not match, and one that does. -/
def busyVisits : List Visit :=
  [⟨[(.createMedia (.image "b"), 3)], 1, 9⟩,
    ⟨[(.deleteMedia 1, 4), (.createMedia (.image "c"), 5), (.addTags 3 [⟨"Dog", .general⟩], 6),
      (.createMedia (.image "d"), 7)], 2, 9⟩]

/-- The walk goes on behind a medium that is gone, and serves what came meanwhile. -/
theorem journey_serves_once_busyVisits :
    (∀ visit ∈ busyVisits, 1 ≤ visit.limit) ∧ ∃ readings,
      Database.taggedImage.journey .forward busyVisits { query := "-dog" } = .ok (readings, true) ∧
      readings.flatMap (·.page.ids) = [1, 2, 4] ∧
      [1, 2, 4].Pairwise (· < · : Int → Int → Prop) := by
  have hLimits : ∀ visit ∈ busyVisits, 1 ≤ visit.limit := by decide
  have hQuery : Query.parse "-dog" = .ok { excluded := ["dog"] } := by cbv
  have hWalk : (Database.taggedImage.journey .forward busyVisits { query := "-dog" }).toOption.map
      (fun walk => (walk.1.flatMap (·.page.ids), walk.2)) = some ([1, 2, 4], true) := by
    decide +kernel
  obtain ⟨sel, -, ⟨readings, ended, hJourney, hAscending, -⟩ | ⟨-, fault, hJourney⟩, -⟩ :=
    journey_serves_once Database.reachable_taggedImage hQuery {} hLimits
  · rw [hJourney] at hWalk
    obtain ⟨hIds, rfl⟩ : readings.flatMap (·.page.ids) = [1, 2, 4] ∧ ended = true := by
      simpa [Except.toOption] using hWalk
    exact ⟨hLimits, readings, hJourney, hIds, hIds ▸ hAscending⟩
  · rw [hJourney] at hWalk
    cases hWalk

end MediaLibrary
