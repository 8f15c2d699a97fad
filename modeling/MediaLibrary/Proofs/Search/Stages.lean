import MediaLibrary.Proofs.Basic
import MediaLibrary.Proofs.Library.Command
import MediaLibrary.Proofs.Search.Found

/-!
# Search — its stages

A search reads its query, then makes its window, then compiles both, and only then looks
at the database. So what a caller did wrong is told whatever state the database is in, and
an error in the query before one in the window. A query that was read always compiles, so
with a request that is in order only the database can fail, and it does not where its
tables exist, its lock works and its rows stand for media.

* `SearchRequest.IsFaulty` — a request for a page that there cannot be;
* `SearchRequest.plan_cases` — the stages before the database;
* `Database.search_eq`, `Library.search_on` — a search on any database, and in a library;
* `search_stages` — which stage decides the answer.
-/

namespace MediaLibrary

open Database (ready)
open Selection

-- ---------------------------------------------------------------------------
-- Before the database
-- ---------------------------------------------------------------------------

/-- A request for no media, for a page at several places, or for one before the first match. -/
def SearchRequest.IsFaulty (r : SearchRequest) : Prop :=
  r.limit ≤ 0 ∨ 1 < [r.afterId, r.beforeId, r.offset].countP (·.isSome) ∨ ∃ n ∈ r.offset, n < 0

/-- An anchor is refused just if there are several, or if it is a negative offset. -/
theorem Anchor.make_error_iff (after before offset : Option Int) :
    (∃ fault, Anchor.make after before offset = .error fault) ↔
      1 < [after, before, offset].countP (·.isSome) ∨ ∃ n ∈ offset, n < 0 := by
  cases offset with
  | none => cases after <;> cases before <;> simp [Anchor.make]
  | some n =>
    cases after <;> cases before <;> simp [Anchor.make]
    -- an offset alone may be negative, zero or positive
    split
    · simpa
    · split <;> simp <;> omega

/-- A window is refused just for its limit or its anchor. -/
theorem Window.make_error_iff (limit : Int) (after before offset : Option Int)
    (maxPageSize : Int) :
    (∃ fault, Window.make limit after before offset maxPageSize = .error fault) ↔
      limit ≤ 0 ∨ ∃ fault, Anchor.make after before offset = .error fault := by
  by_cases hLimit : limit ≤ 0
  · have hMake : Window.make limit after before offset maxPageSize =
        .error (.limitNotPositive limit) := by
      rw [Window.make, if_pos hLimit]
      rfl
    simp [hMake, hLimit]
  · have hMake : Window.make limit after before offset maxPageSize =
        (Anchor.make after before offset).map fun anchor =>
          ⟨min limit (max maxPageSize 1), anchor⟩ := by
      rw [Window.make, if_neg hLimit]
      cases Anchor.make after before offset <;> rfl
    rw [hMake]
    cases Anchor.make after before offset <;> simp [Except.map, hLimit]

namespace SearchRequest

/-- A text that is no query is refused before anything else. -/
theorem plan_of_parse_error {r : SearchRequest} {e : ParseError}
    (h : Query.parse r.query = .error e) (maxPageSize : Int) :
    r.plan maxPageSize = .error (.parse e) := by
  rw [plan, h]
  rfl

/-- Once its query is read, a request is refused for its page, or it has a window and a selection
for the database. -/
theorem plan_cases {r : SearchRequest} {q : Query} (h : Query.parse r.query = .ok q)
    (maxPageSize : Int) :
    (r.IsFaulty ∧ ∃ fault, r.plan maxPageSize = .error (.input fault)) ∨
      (¬r.IsFaulty ∧ ∃ w sel,
        Window.make r.limit r.afterId r.beforeId r.offset maxPageSize = .ok w ∧
        compile q r.filters = .ok sel ∧ r.plan maxPageSize = .ok (sel, w)) := by
  have hFaulty := Window.make_error_iff r.limit r.afterId r.beforeId r.offset maxPageSize
  rw [Anchor.make_error_iff] at hFaulty
  cases hWindow : Window.make r.limit r.afterId r.beforeId r.offset maxPageSize with
  | error fault =>
    refine .inl ⟨hFaulty.mp ⟨fault, hWindow⟩, fault, ?_⟩
    rw [plan, h, hWindow]
    rfl
  | ok w =>
    obtain ⟨sel, hSel⟩ := exists_compile_of_parse h r.filters
    refine .inr ⟨fun hBad => ?_, w, sel, rfl, hSel, plan_ok h hWindow hSel⟩
    obtain ⟨fault, hError⟩ := hFaulty.mpr hBad
    rw [hWindow] at hError
    cases hError

end SearchRequest

-- ---------------------------------------------------------------------------
-- At the database
-- ---------------------------------------------------------------------------

namespace Database

/-- The page of a selection and a window, if the database can be looked at. Without tables the first
statement is still read. -/
def fetch (db : Database) (sel : Selection Condition) (w : Window) : Except Error Page :=
  if db.lockBroken then .error (.defect .brokenLock)
  else
    match db.store with
    | none => do
      let _ ← (Page.counting sel).read
      throw (.storage (.missingTable "media"))
    | some s => Page.fetch sel w s

/-- A search makes its plan and fetches its page. It changes no database. -/
theorem search_eq (r : SearchRequest) (maxPageSize : Int) (db : Database) :
    (search r maxPageSize).on db =
      ((r.plan maxPageSize).bind fun plan => db.fetch plan.1 plan.2, db) := by
  obtain ⟨store, lockBroken⟩ := db
  cases hPlan : r.plan maxPageSize with
  | error e =>
    rw [search, hPlan, Work.on_bind, Work.on_ofExcept]
    rfl
  | ok plan =>
    cases lockBroken with
    | true =>
      rw [search, hPlan, Work.on_bind, Work.on_ofExcept]
      rfl
    | false =>
      cases store with
      | none =>
        rw [search, hPlan, Work.on_bind, Work.on_ofExcept]
        show (Work.transaction _).on _ = (fetch _ plan.1 plan.2, _)
        cases hRead : (Page.counting plan.1).read with
        | error e =>
          simp only [fetch, hRead]
          rfl
        | ok levels =>
          simp only [fetch, hRead]
          rfl
      | some s =>
        have hReady := search_ready r maxPageSize s
        rw [hPlan] at hReady
        exact hReady

end Database

/-- A page that cannot be fetched is a fault of the store. -/
theorem Page.fault_of_fetch {sel : Selection Condition} {w : Window} {s : Store} {e : Error}
    (h : Page.fetch sel w s = .error e) : ∃ fault, e = .storage fault := by
  rcases fault_of_bind h with hCount | ⟨totalCount, -, hPage⟩
  · exact (Statement.prepare_eq_error (return_eq_error_iff.mp hCount)).storage
  rcases fault_of_bind hPage with hMedia | ⟨media, -, hEnds⟩
  · rcases fault_of_bind hMedia with hList | ⟨-, -, hDecoded⟩
    · exact (Statement.prepare_eq_error hList).storage
    rcases fault_of_bind hDecoded with hRows | ⟨rows, -, hTurned⟩
    · obtain ⟨-, row, -, -, -, hRow⟩ := mapM_eq_error_iff.mp hRows
      exact MediaRow.fault_of_decode hRow
    · split at hTurned <;> cases hTurned
  · split at hEnds
    · have hMore := return_eq_error_iff.mp (return_eq_error_iff.mp hEnds)
      exact (Statement.prepare_eq_error hMore).storage
    · cases hEnds

/-- A window has no more rows than it allows. -/
theorem Page.length_windowRows {w : Window} (hLimit : 1 ≤ w.limit) (sel : Selection Condition)
    (s : Store) : ((windowRows sel w s).length : Int) ≤ w.limit := by
  have hLimited (rows : List MediaRow) : ((limited w rows).length : Int) ≤ w.limit := by
    rw [limited_eq hLimit, List.length_take]
    omega
  unfold windowRows
  split <;> exact hLimited _

/-- A page that is fetched holds no more media than its window allows. -/
theorem Page.length_of_fetch {sel : Selection Condition} {w : Window} {s : Store} {page : Page}
    (hLimit : 1 ≤ w.limit) (h : Page.fetch sel w s = .ok page) :
    (page.media.length : Int) ≤ w.limit := by
  obtain ⟨totalCount, -, hPage⟩ := exists_of_bind h
  obtain ⟨media, hMedia, hEnds⟩ := exists_of_bind hPage
  obtain ⟨-, -, hDecoded⟩ := exists_of_bind hMedia
  obtain ⟨rows, hRows, hTurned⟩ := exists_of_bind hDecoded
  have hShown : page.media = media := by
    cases media with
    | nil =>
      cases hEnds
      rfl
    | cons first rest =>
      simp only [List.head?_cons, List.getLast?_cons] at hEnds
      obtain ⟨hasMore, -, hMade⟩ := exists_of_bind hEnds
      cases hMade
      rfl
  have hLength : media.length = rows.length := by
    split at hTurned <;> cases hTurned
    · exact List.length_reverse
    · rfl
  rw [hShown, hLength, length_of_mapM hRows]
  exact length_windowRows hLimit sel s

/-- Where a page is not fetched, the lock is broken, or it is a fault of the store. -/
theorem Database.fault_of_fetch {db : Database} {sel : Selection Condition} {w : Window}
    {e : Error} (h : db.fetch sel w = .error e) :
    e = .defect .brokenLock ∨ ∃ fault, e = .storage fault := by
  unfold fetch at h
  split at h
  · cases h
    exact .inl rfl
  · split at h
    · rcases fault_of_bind h with hRead | ⟨levels, -, hTable⟩
      · exact .inr (Statement.prepare_eq_error (Statement.prepare_of_read_error hRead)).storage
      · cases hTable
        exact .inr ⟨_, rfl⟩
    · exact .inr (Page.fault_of_fetch h)

/-- A page has no more media than its limit. -/
theorem Database.length_of_fetch {db : Database} {sel : Selection Condition} {w : Window}
    {page : Page} (hLimit : 1 ≤ w.limit) (h : db.fetch sel w = .ok page) :
    (page.media.length : Int) ≤ w.limit := by
  unfold fetch at h
  split at h
  · cases h
  · split at h
    · obtain ⟨levels, -, hTable⟩ := exists_of_bind h
      cases hTable
    · exact Page.length_of_fetch hLimit h

/-- Where all rows stand for media, a ready database has a page of a selection that fits. -/
theorem Database.exists_fetch {s : Store} (hRows : ∀ row ∈ s.media, ∃ m, row.decode = .ok m)
    {q : Query} {f : Filters} {sel : Selection Condition} (hSel : compile q f = .ok sel)
    (hFits : sel.Fits) {w : Window} (hLimit : 1 ≤ w.limit) :
    ∃ page, (ready s).fetch sel w = .ok page := by
  have hRead : ∀ row ∈ sel.rows s, row.decode = .ok row.read :=
    fun row hRow => MediaRow.decode_eq_read (hRows row (List.mem_filter.mp hRow).1)
  exact ⟨_, (Page.fetch_eq (aligned_of_compile hSel) hRead hLimit).trans
    (Page.map_prepared_of_accepted (hFits.accepted _ _) _)⟩

/-- No page is refused for the input. -/
theorem Database.fetch_ne_input {db : Database} {sel : Selection Condition} {w : Window}
    {fault : InputFault} : db.fetch sel w ≠ .error (.input fault) := by
  intro h
  obtain hLock | ⟨fault', hFault⟩ := fault_of_fetch h
  · cases hLock
  · cases hFault

-- ---------------------------------------------------------------------------
-- In a library
-- ---------------------------------------------------------------------------

/-- A search in a library is one on its database. -/
theorem Library.search_eq (l : Library) (r : SearchRequest) :
    (Library.search r).on l =
      (((Database.search r l.live.search.maxPageSize).on l.database).1,
        { l with database := ((Database.search r l.live.search.maxPageSize).on l.database).2 }) :=
  Command.on_work (Database.search r l.live.search.maxPageSize) l

/-- It makes its plan, fetches its page, and changes nothing in the library. -/
theorem Library.search_on (l : Library) (r : SearchRequest) :
    (Library.search r).on l =
      ((r.plan l.live.search.maxPageSize).bind fun plan => l.database.fetch plan.1 plan.2, l) := by
  rw [Library.search_eq, Database.search_eq]

/-- A search in a library changes nothing. An error in the query decides the answer, whatever else
is asked for. If there is none, it is the place or the size of the page, whatever the database is.
If they are in order as well, the query compiles, and where the tables exist, the lock works and all
rows stand for media, only the size of the query can matter: if the store takes the statements for
the page, the answer is a page that holds no more media than are asked for, nor more than the
greatest page size, and otherwise it is what the store says of one of them. -/
theorem search_stages (l : Library) (r : SearchRequest) :
    ((Library.search r).on l).2 = l ∧
      (∀ e, Query.parse r.query = .error e →
        ((Library.search r).on l).1 = .error (.parse e)) ∧
      ∀ q, Query.parse r.query = .ok q →
        ((∃ fault, ((Library.search r).on l).1 = .error (.input fault)) ↔ r.IsFaulty) ∧
        (∀ fault database, ((Library.search r).on l).1 = .error (.input fault) →
          ((Library.search r).on { l with database := database }).1 = .error (.input fault)) ∧
        ∃ sel, compile q r.filters = .ok sel ∧
          ∀ s, l.database = ready s → (∀ row ∈ s.media, ∃ m, row.decode = .ok m) → ¬r.IsFaulty →
            ∃ w, Window.make r.limit r.afterId r.beforeId r.offset l.live.search.maxPageSize = .ok w ∧
              (Page.Accepted sel w (w.slice (·.id) (sel.rows s)) →
                ∃ page, ((Library.search r).on l).1 = .ok page ∧
                  (page.media.length : Int) ≤ min r.limit (max l.live.search.maxPageSize 1)) ∧
              (¬Page.Accepted sel w (w.slice (·.id) (sel.rows s)) →
                ∃ e, ((Library.search r).on l).1 = .error e ∧
                  Page.Refused sel w (w.slice (·.id) (sel.rows s)) e) := by
  simp only [Library.search_on]
  refine ⟨trivial, fun e hParse => ?_, fun q hQuery => ?_⟩
  · rw [SearchRequest.plan_of_parse_error hParse]
    rfl
  · rcases SearchRequest.plan_cases hQuery l.live.search.maxPageSize with
      ⟨hFaulty, fault, hPlan⟩ | ⟨hFine, w, sel, hWindow, hSel, hPlan⟩
    · obtain ⟨sel, hSel⟩ := exists_compile_of_parse hQuery r.filters
      rw [hPlan]
      refine ⟨⟨fun _ => hFaulty, fun _ => ⟨fault, rfl⟩⟩, fun _ _ h => h, sel, hSel, ?_⟩
      intro s _ _ hFine
      exact absurd hFaulty hFine
    · have hNoFault (db : Database) (fault : InputFault) :
          (Except.ok (sel, w)).bind (fun plan => db.fetch plan.1 plan.2) ≠
            .error (.input fault) := Database.fetch_ne_input
      rw [hPlan]
      refine ⟨⟨?_, fun hFaulty => absurd hFaulty hFine⟩, ?_, sel, hSel, ?_⟩
      · rintro ⟨fault, hFault⟩
        exact absurd hFault (hNoFault l.database fault)
      · intro fault _ hFault
        exact absurd hFault (hNoFault l.database fault)
      · intro s hReady hRows _
        have hRead : ∀ row ∈ sel.rows s, row.decode = .ok row.read :=
          fun row hRow => MediaRow.decode_eq_read (hRows row (List.mem_filter.mp hRow).1)
        have hLimit := Window.limit_eq_of_make hWindow
        have hFetch := Page.fetch_eq (aligned_of_compile hSel) hRead (Window.limit_of_make hWindow)
        rw [hReady]
        show ∃ w, _ ∧ (_ → ∃ page, Page.fetch _ _ s = _ ∧ _) ∧ (_ → ∃ e, Page.fetch _ _ s = _ ∧ _)
        rw [hFetch]
        refine ⟨w, hWindow, fun hAccepted => ?_, fun hRefused => ?_⟩
        · refine ⟨_, Page.map_prepared_of_accepted hAccepted _, ?_⟩
          have hRoom := w.length_slice_le (·.id) ((sel.rows s).map MediaRow.read)
          show ((w.slice (·.id) ((sel.rows s).map MediaRow.read)).length : Int) ≤ _
          omega
        · exact Page.exists_map_prepared_error hRefused _

/-- A library in memory whose greatest page size was set to nothing. -/
def Library.withoutRoom (db : Database) : Library where
  opening := .inMemory
  directory := {}
  live := { search.maxPageSize := 0 }
  database := db

/-- A character that no name holds is told although the lock is broken, a limit of zero although
there are no tables, and else a page holds one medium at least. -/
theorem search_stages_withoutRoom :
    ((Library.search { query := "a*" }).on (.withoutRoom { lockBroken := true })).1 =
        .error (.parse (.invalidCharacter '*' 1)) ∧
      (∃ fault, ((Library.search { query := "cat" }).on (.withoutRoom {})).1 =
        .error (.input fault)) ∧
      ∃ page, ((Library.search { query := "cat", limit := 7 }).on
          (.withoutRoom Database.taggedImage)).1 = .ok page ∧ page.media.length ≤ 1 := by
  have hWrong : Query.parse "a*" = .error (.invalidCharacter '*' 1) := by cbv
  have hRight : Query.parse "cat" = .ok { included := ["cat"] } := by cbv
  obtain ⟨-, hParse, -⟩ := search_stages (.withoutRoom { lockBroken := true }) { query := "a*" }
  obtain ⟨-, -, hFaulty⟩ := search_stages (.withoutRoom {}) { query := "cat" }
  obtain ⟨-, -, hFine⟩ :=
    search_stages (.withoutRoom Database.taggedImage) { query := "cat", limit := 7 }
  refine ⟨hParse _ hWrong, (hFaulty _ hRight).1.mpr (.inl (by decide)), ?_⟩
  obtain ⟨s, hStore, hSound⟩ := Database.reachable_taggedImage.sound
  obtain ⟨-, -, sel, hSel, hAnswer⟩ := hFine _ hRight
  obtain ⟨w, -, hPage, -⟩ := hAnswer s hStore
    (fun row hRow => ⟨row.read, hSound.decode_media hRow⟩) (by simp [SearchRequest.IsFaulty])
  have hFits : sel.Fits := Selection.fits_of_compile hSel (by decide +kernel)
  obtain ⟨page, hFound, hRoom⟩ := hPage (hFits.accepted w _)
  refine ⟨page, hFound, ?_⟩
  have hLeast : min (7 : Int)
      (max (Library.withoutRoom Database.taggedImage).live.search.maxPageSize 1) = 1 := by decide
  omega

/-- A text with a thousand names is read, and the request for its first page is in order, but the
new database has no page for it. -/
theorem search_of_thousand_names :
    ∃ s, (Database.prepare 0).after {} = ready s ∧ (∀ row ∈ s.media, ∃ m, row.decode = .ok m) ∧
      Query.parse (Query.ofNumbers 1000).text = .ok (Query.ofNumbers 1000) ∧
      ¬SearchRequest.IsFaulty { query := (Query.ofNumbers 1000).text, limit := 1 } ∧
      ((Library.search { query := (Query.ofNumbers 1000).text, limit := 1 }).on
          (.withoutRoom ((Database.prepare 0).after {}))).1 = .error (.storage .tooManyLevels) := by
  obtain ⟨s, hReady, hSound⟩ := (Database.Reachable.prepared 0).sound
  have hWindow : Window.make 1 none none none 0 = .ok ⟨1, .first⟩ := rfl
  have hSize : (Library.withoutRoom (ready s)).live.search.maxPageSize = 0 := rfl
  have hDatabase : (Library.withoutRoom (ready s)).database = ready s := rfl
  refine ⟨s, hReady, fun row hRow => ⟨row.read, hSound.decode_media hRow⟩,
    Query.parse_ofNumbers 1000, by simp [SearchRequest.IsFaulty], ?_⟩
  rw [hReady, Library.search_eq, hSize, hDatabase,
    Database.search_thousand (Query.parse_ofNumbers 1000) s hWindow]

end MediaLibrary
