import Mathlib
import MediaLibrary.Proofs.Database.Run
import MediaLibrary.Proofs.Store.Chronicle

/-!
# Database — preparing the tables

Tables are created in their current form, or found in an older one and upgraded. Both come to the
same: new tables are empty tables of no version, upgraded. Upgrading records the version and adds
the index, and touches nothing else; and since no operation records a version or forgets one, tables
that were prepared once stay as they are whenever they are prepared again.

* `Store.version_lt_iff` — the latest version, and all versions that are recorded;
* `Store.fresh_eq_upgraded`, `Database.prepare_on` — creating is upgrading;
* `Database.Preparable` — the databases that can be found;
* `preparing_converges` — what preparing leaves, and that it is done once.
-/

namespace MediaLibrary

open Database (ready)

namespace Store

variable {s : Store} {now : Int}

-- ---------------------------------------------------------------------------
-- Versions
-- ---------------------------------------------------------------------------

theorem foldl_max_lt_iff {ns : List Int} {a b : Int} :
    ns.foldl max a < b ↔ a < b ∧ ∀ n ∈ ns, n < b := by
  induction ns generalizing a with
  | nil => simp
  | cons n rest ih => rw [List.foldl_cons, ih, max_lt_iff, List.forall_mem_cons, and_assoc]

/-- The tables are below a version if all versions that are recorded are. -/
theorem version_lt_iff {n : Int} (hn : 0 < n) :
    s.version < n ↔ ∀ v ∈ s.versions, v.number < n := by
  rw [version, foldl_max_lt_iff, and_iff_right hn, List.forall_mem_map]

/-- The latest version that is recorded. -/
def IsOfVersion (s : Store) (n : Int) : Prop :=
  (∃ v ∈ s.versions, v.number = n) ∧ ∀ v ∈ s.versions, v.number ≤ n

/-- Older tables get the index and a record of the version. -/
theorem upgraded_of_older (h : ∀ v ∈ s.versions, v.number < 2) :
    s.upgraded now = { s with versions := s.versions ++ [⟨2, now⟩], hasTagIndex := true } :=
  if_pos ((version_lt_iff (by decide)).mpr h)

/-- Tables of the current version are left alone. -/
theorem upgraded_of_current (h : ∃ v ∈ s.versions, v.number = 2) : s.upgraded now = s := by
  obtain ⟨v, hv, hTwo⟩ := h
  refine if_neg fun hOlder => ?_
  have hLt := (version_lt_iff (by decide)).mp hOlder v hv
  rw [hTwo] at hLt
  exact Int.lt_irrefl _ hLt

/-- New tables are empty ones of no version, upgraded. -/
theorem fresh_eq_upgraded (now : Int) : fresh now = upgraded {} now := by
  rw [upgraded_of_older (by simp)]
  rfl

end Store

namespace Database

variable {db : Database} {now : Int}

/-- Preparing upgrades the tables, or empty ones if there are none. -/
theorem prepare_on (hLock : db.lockBroken = false) (now : Int) :
    (prepare now).on db = (.ok (), ready ((db.store.getD {}).upgraded now)) := by
  obtain ⟨store, lockBroken⟩ := db
  cases hLock
  cases store with
  | none =>
    rw [Option.getD_none, ← Store.fresh_eq_upgraded]
    rfl
  | some s => rfl

/-- What can be found when a library is opened. -/
inductive Preparable : Database → Prop where
  /-- The tables were never created. -/
  | absent : Preparable {}
  /-- There are tables, and no version is recorded. -/
  | unrecorded {s : Store} : s.versions = [] → Preparable (ready s)
  /-- The tables have the first version and no index. -/
  | first {s : Store} : s.IsOfVersion 1 → s.hasTagIndex = false → Preparable (ready s)
  /-- The tables have the current version and the index. -/
  | current {s : Store} : s.IsOfVersion 2 → s.hasTagIndex = true → Preparable (ready s)

/-- What is found are tables to be upgraded, or tables that are as they should be. -/
theorem Preparable.cases_versions (h : db.Preparable) :
    db.lockBroken = false ∧
      ((∀ v ∈ (db.store.getD {}).versions, v.number < 2) ∨
        ((db.store.getD {}).IsOfVersion 2 ∧ (db.store.getD {}).hasTagIndex = true)) := by
  cases h with
  | absent => exact ⟨rfl, .inl (by simp)⟩
  | unrecorded hNone => exact ⟨rfl, .inl (by simp [ready, hNone])⟩
  | first hVersion _ =>
    refine ⟨rfl, .inl fun v hv => ?_⟩
    have := hVersion.2 v hv
    omega
  | current hVersion hIndex => exact ⟨rfl, .inr ⟨hVersion, hIndex⟩⟩

/-- Tables of the current version are still so after any operations, so preparing them again changes
nothing. -/
theorem prepare_afterAll {s : Store} (h : ∃ v ∈ s.versions, v.number = 2)
    (operations : List (Operation × Int)) (later : Int) :
    (prepare later).on ((ready s).afterAll operations) =
      (.ok (), (ready s).afterAll operations) := by
  obtain ⟨s', hAfter, hVersions⟩ := afterAll_keeps (P := fun s' => s'.versions = s.versions)
    (fun _ _ _ hChange hs => hChange.chronicle.versions.1.trans hs) operations (s := s) rfl
  rw [hAfter, prepare_on rfl]
  change ((.ok () : Except Error Unit), ready (s'.upgraded later)) = (.ok (), ready s')
  rw [Store.upgraded_of_current (by rwa [hVersions])]

end Database

/-- Whatever is found, preparing it succeeds and ends with tables of the second version that have
the index. Where all versions that are recorded are below the second one, or there were no tables,
just this version is recorded with the current time, behind all older ones; otherwise none is. No
media, tags, attachments and views change. Preparing once more, at any time and after any
operations, changes nothing. -/
theorem preparing_converges {db : Database} (h : db.Preparable) (now : Int) :
    ∃ s' recorded, (Database.prepare now).on db = (.ok (), ready s') ∧
      s'.hasTagIndex = true ∧ s'.IsOfVersion 2 ∧
      s' = { db.store.getD {} with
        versions := (db.store.getD {}).versions ++ recorded
        hasTagIndex := true } ∧
      ((∀ v ∈ (db.store.getD {}).versions, v.number < 2) → recorded = [⟨2, now⟩]) ∧
      ((∃ v ∈ (db.store.getD {}).versions, 2 ≤ v.number) → recorded = []) ∧
      ∀ (operations : List (Operation × Int)) (later : Int),
        (Database.prepare later).on ((ready s').afterAll operations) =
          (.ok (), (ready s').afterAll operations) := by
  obtain ⟨hLock, hOlder | ⟨hVersion, hIndex⟩⟩ := h.cases_versions
  all_goals generalize hStore : db.store.getD {} = s at *
  · have hNew : (⟨2, now⟩ : Version) ∈ s.versions ++ [⟨2, now⟩] := by simp
    refine ⟨s.upgraded now, [⟨2, now⟩], ?_, ?_⟩
    · rw [Database.prepare_on hLock, hStore]
    · rw [Store.upgraded_of_older hOlder]
      refine ⟨rfl, ⟨⟨_, hNew, rfl⟩, fun v hv => ?_⟩, rfl, fun _ => rfl, ?_,
        Database.prepare_afterAll ⟨_, hNew, rfl⟩⟩
      · rcases List.mem_append.mp hv with hv | hv
        · exact Int.le_of_lt (hOlder v hv)
        · exact Int.le_of_eq (congrArg Version.number (List.mem_singleton.mp hv))
      · rintro ⟨v, hv, hTwo⟩
        exact absurd (hOlder v hv) (Int.not_lt.mpr hTwo)
  · refine ⟨s, [], ?_, hIndex, hVersion, ?_, ?_, fun _ => rfl,
      Database.prepare_afterAll hVersion.1⟩
    · rw [Database.prepare_on hLock, hStore, Store.upgraded_of_current hVersion.1]
    · rw [List.append_nil, ← hIndex]
    · intro hOlder
      obtain ⟨v, hv, hTwo⟩ := hVersion.1
      have := hOlder v hv
      omega

/-- A library whose tables have the first version, with an image that has a tag and was viewed. -/
def Database.taggedBefore : Database :=
  (ready (.ofFirstVersion true)).afterAll [(.createMedia (.image "a"), 1),
    (.addTags 1 [⟨"Cat", .general⟩], 2), (.recordView 1, 3)]

/-- Preparing the tables of the first version at 7 adds the second one to their versions, and finds
all rows as they were. -/
theorem preparing_converges_onTaggedBefore :
    Database.taggedBefore.Preparable ∧
      ∃ s', (Database.prepare 7).on Database.taggedBefore = (.ok (), ready s') ∧
        s'.hasTagIndex = true ∧ s'.versions = [⟨1, 0⟩, ⟨2, 7⟩] ∧
        s'.media.map (·.id) = [1] ∧ s'.attachments = [⟨1, 1, 2⟩] ∧ s'.views = [⟨1, 1, 3⟩] ∧
        (Database.prepare 9).on ((Operation.deleteMedia 1).apply 8 (ready s')) =
          (.ok (), (Operation.deleteMedia 1).apply 8 (ready s')) := by
  have hTables : Database.taggedBefore.store.map (fun s => (s.versions, s.hasTagIndex)) =
      some ([⟨1, 0⟩], false) := by
    decide +kernel
  have hRows : Database.taggedBefore.store.map
      (fun s => (s.media.map (·.id), s.attachments, s.views)) =
      some ([1], [⟨1, 1, 2⟩], [⟨1, 1, 3⟩]) := by
    decide +kernel
  obtain ⟨s, hReady, -⟩ := Database.afterAll_keeps (P := fun _ => True) (fun _ _ _ _ _ => trivial)
    [(.createMedia (.image "a"), 1), (.addTags 1 [⟨"Cat", .general⟩], 2), (.recordView 1, 3)]
    (s := .ofFirstVersion true) trivial
  change Database.taggedBefore = ready s at hReady
  rw [hReady] at hTables hRows ⊢
  simp only [ready, Option.map_some, Option.some_inj, Prod.mk.injEq] at hTables hRows
  obtain ⟨hVersions, hIndex⟩ := hTables
  obtain ⟨hMedia, hAttachments, hViews⟩ := hRows
  have hPreparable : (ready s).Preparable := .first (by simp [Store.IsOfVersion, hVersions]) hIndex
  obtain ⟨s', recorded, hOn, hIndexed, -, rfl, hNew, -, hAgain⟩ := preparing_converges hPreparable 7
  refine ⟨hPreparable, _, hOn, hIndexed, ?_, hMedia, hAttachments, hViews,
    hAgain [(.deleteMedia 1, 8)] 9⟩
  change s.versions ++ recorded = _
  rw [hNew (by simp [ready, hVersions]), hVersions]
  rfl

end MediaLibrary
