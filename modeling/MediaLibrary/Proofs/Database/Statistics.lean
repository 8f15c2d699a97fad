import Mathlib
import MediaLibrary.Database.Summary
import MediaLibrary.Proofs.Database.Constraints
import MediaLibrary.Proofs.Store.Chronicle

/-!
# Database — views and statistics

The statistics of a database are taken from its tables, and media keep numbers of their own. Along
every run the two agree: each medium counts the views that are recorded of it and knows when the
last one was, and all of them together count all views. The sizes of files are summed exactly or
not at all.

* `Database.Reachable.truthful` — media say the truth of their views in every reachable database;
* `Store.total_lengths` — what is counted by kinds is counted as a whole;
* `Store.totalFileSize?_isSome_iff` — the sum of sizes, unless it has more than 64 bits;
* `views_of_reachable` — media, records of views and statistics agree.
-/

namespace MediaLibrary

open Database (ready)

/-- In a reachable database all constraints hold, and media say the truth of their views. -/
theorem Database.Reachable.truthful {db : Database} (h : db.Reachable) :
    ∃ s, db = ready s ∧ s.Sound ∧ s.Tidy ∧ s.chronicle.Right := by
  refine h.induction (P := fun s => s.Sound ∧ s.Tidy ∧ s.chronicle.Right)
    (fun now => ⟨Store.sound_fresh now, Store.tidy_fresh now, Store.right_fresh now⟩) ?_
  rintro now s s' hChange ⟨hSound, hTidy, hRight⟩
  refine ⟨hChange.sound hSound, hChange.tidy hTidy, hChange.chronicle.right hRight fun v hv => ?_⟩
  -- what was viewed exists, so its id was given
  obtain ⟨m, hm, hId⟩ := hTidy.viewed v hv
  exact hId ▸ hSound.outline.mediaBound m hm

namespace Store

-- ---------------------------------------------------------------------------
-- Sums
-- ---------------------------------------------------------------------------

@[simp] theorem total_nil : total [] = 0 := rfl

@[simp] theorem total_cons (n : Int) (ns : List Int) : total (n :: ns) = n + total ns := rfl

/-- Of views that each name one of some media, every one is a view of just one of them. -/
theorem total_lengths {media : List MediaRow} (hIds : media.Pairwise (·.id < ·.id))
    {views : List View} (hKnown : ∀ v ∈ views, ∃ row ∈ media, row.id = v.mediaId) :
    total (media.map fun row => ((views.filter (·.mediaId == row.id)).length : Int)) =
      views.length := by
  induction media generalizing views with
  | nil =>
    cases views with
    | nil => rfl
    | cons v rest => simpa using hKnown v
  | cons row rest ih =>
    obtain ⟨hFirst, hRest⟩ := List.pairwise_cons.mp hIds
    have hOthers : ∀ v ∈ views.filter (·.mediaId != row.id),
        ∃ row' ∈ rest, row'.id = v.mediaId := by
      intro v hv
      obtain ⟨hView, hOther⟩ := List.mem_filter.mp hv
      obtain ⟨row', hRow', hId⟩ := hKnown v hView
      rcases List.mem_cons.mp hRow' with rfl | hRow'
      · simp [hId] at hOther
      · exact ⟨row', hRow', hId⟩
    have hSame : rest.map (fun row' =>
        (((views.filter (·.mediaId != row.id)).filter (·.mediaId == row'.id)).length : Int)) =
        rest.map fun row' => ((views.filter (·.mediaId == row'.id)).length : Int) := by
      apply List.map_congr_left
      intro row' hRow'
      rw [Chronicle.filter_views_ne (Int.ne_of_gt (hFirst row' hRow'))]
    have hSplit := List.length_eq_length_filter_add (l := views) (·.mediaId == row.id)
    rw [List.map_cons, total_cons, ← hSame, ih hRest hOthers, hSplit]
    push_cast
    rfl

/-- Sizes that are not negative have such a sum. -/
theorem total_nonneg {ns : List Int} (h : ∀ n ∈ ns, 0 ≤ n) : 0 ≤ total ns := by
  induction ns with
  | nil => exact Int.le_refl 0
  | cons n rest ih =>
    obtain ⟨hn, hRest⟩ := List.forall_mem_cons.mp h
    have := ih hRest
    rw [total_cons]
    omega

variable {s : Store}

/-- A sum that is formed is the sum of all sizes. -/
theorem eq_total_of_totalFileSize? {n : Int} (h : s.totalFileSize? = some n) :
    n = total (s.media.map (·.fileSize)) := by
  simp only [totalFileSize?] at h
  split at h
  · exact (Option.some.inj h).symm
  · cases h

/-- Sizes that are not negative are summed unless their sum has more than 64 bits. -/
theorem totalFileSize?_isSome_iff (h : ∀ row ∈ s.media, 0 ≤ row.fileSize) :
    s.totalFileSize?.isSome ↔ total (s.media.map (·.fileSize)) < 2 ^ 63 := by
  have hNone : (s.media.map (·.fileSize)).filter (· < 0) = [] := by
    rw [List.filter_eq_nil_iff]
    intro n hn
    obtain ⟨row, hRow, rfl⟩ := List.mem_map.mp hn
    simpa using h row hRow
  have hSum : 0 ≤ total (s.media.map (·.fileSize)) := total_nonneg (by simpa using h)
  have hFits : Text.fitsInt64 (total (s.media.map (·.fileSize))) = true ↔
      total (s.media.map (·.fileSize)) < 2 ^ 63 := by
    rw [Text.fitsInt64, Bool.and_eq_true, decide_eq_true_iff, decide_eq_true_iff, Text.int64Min,
      Text.int64Max]
    omega
  have hZero : Text.fitsInt64 (total []) = true := by decide
  rw [← hFits, totalFileSize?, hNone, hZero, Bool.true_and]
  split <;> simp [*]

-- ---------------------------------------------------------------------------
-- Views
-- ---------------------------------------------------------------------------

/-- Of views in the order in which they were recorded, the last one has the greatest id. -/
theorem getLast?_eq_some_iff {views : List View} (h : views.Pairwise (·.id < ·.id)) {v : View} :
    views.getLast? = some v ↔ v ∈ views ∧ ∀ other ∈ views, other.id ≤ v.id := by
  have hGreatest {last : View} (hLast : views.getLast? = some last) :
      ∀ other ∈ views, other.id ≤ last.id := by
    obtain ⟨earlier, rfl⟩ := List.getLast?_eq_some_iff.mp hLast
    intro other hOther
    rcases List.mem_append.mp hOther with hOther | hOther
    · exact Int.le_of_lt ((List.pairwise_append.mp h).2.2 other hOther last (by simp))
    · exact Int.le_of_eq (congrArg View.id (List.mem_singleton.mp hOther))
  constructor
  · exact fun hLast => ⟨List.mem_of_getLast? hLast, hGreatest hLast⟩
  · rintro ⟨hMem, hAll⟩
    have hNonempty : views ≠ [] := List.ne_nil_of_mem hMem
    have hLast := List.getLast?_eq_some_getLast hNonempty
    have hLe := hGreatest hLast v hMem
    have hGe := hAll _ (List.getLast_mem hNonempty)
    rw [hLast, eq_of_ids h (List.getLast_mem hNonempty) hMem (Int.le_antisymm hGe hLe)]

end Store

/-- The time of the last view that a medium knows is that of the view of it with the greatest id. -/
theorem Chronicle.Right.last_iff {c : Chronicle} (h : c.Right) {m : Visits} (hm : m ∈ c.media)
    (t : Int) : m.last = some t ↔ ∃ v ∈ c.views, v.mediaId = m.id ∧ v.viewedAt = t ∧
      ∀ other ∈ c.views, other.mediaId = m.id → other.id ≤ v.id := by
  have hViews (v : View) : v ∈ c.viewsOf m.id ↔ v ∈ c.views ∧ v.mediaId = m.id := by
    simp [viewsOf]
  have hLast := fun v =>
    Store.getLast?_eq_some_iff (v := v) (h.ascending.filter (·.mediaId == m.id))
  rw [← viewsOf] at hLast
  simp only [h.latest m hm, Option.map_eq_some_iff, hLast, hViews]
  constructor
  · rintro ⟨v, ⟨⟨hv, hId⟩, hAll⟩, hTime⟩
    exact ⟨v, hv, hId, hTime, fun other hOther hSame => hAll other ⟨hOther, hSame⟩⟩
  · rintro ⟨v, hv, hId, hTime, hAll⟩
    exact ⟨v, ⟨⟨hv, hId⟩, fun other hOther => hAll other hOther.1 hOther.2⟩, hTime⟩

/-- Only media that were never viewed have no last view. -/
theorem Chronicle.Right.last_eq_none_iff {c : Chronicle} (h : c.Right) {m : Visits}
    (hm : m ∈ c.media) : m.last = none ↔ ∀ v ∈ c.views, v.mediaId ≠ m.id := by
  rw [h.latest m hm, Option.map_eq_none_iff, List.getLast?_eq_none_iff, viewsOf,
    List.filter_eq_nil_iff]
  simp

-- ---------------------------------------------------------------------------
-- Operations
-- ---------------------------------------------------------------------------

/-- The view of a medium that exists is recorded. -/
theorem Database.recordView_on {s : Store} {id : Int} (h : s.hasMedia id = true) (now : Int) :
    (Database.recordView id now).on (ready s) = (.ok (), ready (s.view id now)) := by
  simp [Database.recordView, Work.on_bind, h]

/-- The statistics are read off the tables, unless the sum is too large. -/
theorem Database.stats_on (s : Store) :
    Database.stats.on (ready s) =
      (match s.totalFileSize? with
        | none => .error (.storage .sumOverflow)
        | some total => .ok {
            mediaCount := s.media.length
            tagCount := s.tags.length
            viewCount := s.views.length
            totalFileSize := total
            version := s.version }, ready s) := by
  simp only [Database.stats, Work.on_bind, Work.on_lock, Work.on_tables]
  cases s.totalFileSize? <;> rfl

/-- In every reachable database each medium counts the views that are recorded of it, and knows the
time of the one that was recorded last and that there is none, since a view that is recorded gets an
id above all others. The statistics are the numbers of media and of tags, a number of views that is
the sum of what media count, and the exact sum of all file sizes. They fail for no other reason than
that this sum overflows; and where no size is negative, just if it is not below the 63rd power of
two. -/
theorem views_of_reachable {db : Database} (h : db.Reachable) :
    ∃ s, db.store = some s ∧
      (∀ row ∈ s.media,
        row.viewCount = (s.views.filter (·.mediaId == row.id)).length ∧
        (∀ t, row.lastViewedAt = some t ↔ ∃ v ∈ s.views, v.mediaId = row.id ∧ v.viewedAt = t ∧
          ∀ other ∈ s.views, other.mediaId = row.id → other.id ≤ v.id) ∧
        (row.lastViewedAt = none ↔ ∀ v ∈ s.views, v.mediaId ≠ row.id)) ∧
      (∀ mediaId now, s.hasMedia mediaId = true → ∃ s' v,
        (Database.recordView mediaId now).on db = (.ok (), ready s') ∧
        s'.views = s.views ++ [v] ∧ v.mediaId = mediaId ∧ v.viewedAt = now ∧
        ∀ earlier ∈ s.views, earlier.id < v.id) ∧
      ∃ outcome, Database.stats.on db = (outcome, db) ∧
        (∀ stats, outcome = .ok stats →
          stats.mediaCount = s.media.length ∧ stats.tagCount = s.tags.length ∧
          stats.viewCount = Store.total (s.media.map (·.viewCount)) ∧
          stats.totalFileSize = Store.total (s.media.map (·.fileSize))) ∧
        (∀ e, outcome = .error e →
          e = .storage .sumOverflow ∧ e.message = "数据库错误: integer overflow") ∧
        ((∀ row ∈ s.media, 0 ≤ row.fileSize) →
          ((∃ stats, outcome = .ok stats) ↔
            Store.total (s.media.map (·.fileSize)) < 2 ^ 63)) := by
  obtain ⟨s, rfl, hSound, hTidy, hRight⟩ := h.truthful
  refine ⟨s, rfl, ?_, ?_, _, Database.stats_on s, ?_, ?_, ?_⟩
  · intro row hRow
    have hVisits : row.visits ∈ s.chronicle.media := List.mem_map_of_mem hRow
    exact ⟨hRight.counted _ hVisits, hRight.last_iff hVisits, hRight.last_eq_none_iff hVisits⟩
  · intro mediaId now hMedia
    refine ⟨_, _, Database.recordView_on hMedia now, rfl, rfl, rfl, fun v hv => ?_⟩
    exact Int.lt_add_one_of_le (hRight.bounded v hv)
  · intro stats hOk
    have hViews : Store.total (s.media.map (·.viewCount)) = s.views.length := by
      rw [← Store.total_lengths hSound.media_ids fun v hv =>
        Store.exists_row_of_core (hTidy.viewed v hv)]
      congr 1
      exact List.map_congr_left fun row hRow => hRight.counted _ (List.mem_map_of_mem hRow)
    cases hSum : s.totalFileSize? with
    | none => simp [hSum] at hOk
    | some total =>
      simp only [hSum] at hOk
      cases hOk
      exact ⟨rfl, rfl, hViews.symm, Store.eq_total_of_totalFileSize? hSum⟩
  · intro e hFault
    cases hSum : s.totalFileSize? with
    | none =>
      simp only [hSum] at hFault
      cases hFault
      exact ⟨rfl, rfl⟩
    | some total => simp [hSum] at hFault
  · intro hSizes
    rw [← Store.totalFileSize?_isSome_iff hSizes]
    cases s.totalFileSize? <;> simp

/-- A library of two images, as large together as can be. The first one was viewed twice, the second
time by a clock that runs behind; a third image is gone with its view. -/
def Database.largeImages : Database :=
  Database.afterAll [
    (.createMediaBatch [{ NewMedia.image "a" with fileSize := 4611686018427387904 }, .image "b",
      { NewMedia.image "c" with fileSize := 4611686018427387903 }], 1),
    (.recordView 1, 9), (.recordView 2, 9), (.recordView 1, 4), (.deleteMedia 2, 5)]
    ((Database.prepare 0).after {})

/-- The first image counts two views and knows the second one as the last. The sizes have a sum, and
with one byte more they have none. -/
theorem views_of_largeImages :
    Database.largeImages.Reachable ∧
      (∃ s, Database.largeImages.store = some s ∧
        (∃ row ∈ s.media, row.id = 1 ∧ row.viewCount = 2 ∧ row.lastViewedAt = some 4) ∧
        ∃ stats, Database.stats.on Database.largeImages = (.ok stats, Database.largeImages) ∧
          stats.viewCount = 2 ∧ stats.totalFileSize = 2 ^ 63 - 1) ∧
      ∃ db e, db = (Operation.createMedia { NewMedia.image "d" with fileSize := 1 }).apply 6
          Database.largeImages ∧
        Database.stats.on db = (.error e, db) ∧ e.message = "数据库错误: integer overflow" := by
  have hReachable : Database.largeImages.Reachable := .afterAll (.prepared 0) _
  refine ⟨hReachable, ?_, ?_⟩
  · obtain ⟨s, hStore, hMedia, -, outcome, hOn, hOk, -, hSum⟩ := views_of_reachable hReachable
    have hRows : Database.largeImages.store.map (fun s => (s.media.map (·.id),
        s.media.map (·.viewCount), s.media.map (·.fileSize), s.views)) =
        some ([1, 3], [2, 0], [4611686018427387904, 4611686018427387903],
          [⟨1, 1, 9⟩, ⟨3, 1, 4⟩]) := by
      decide +kernel
    rw [hStore, Option.map_some, Option.some_inj] at hRows
    simp only [Prod.mk.injEq] at hRows
    obtain ⟨hIds, hCounts, hSizes, hViews⟩ := hRows
    obtain ⟨row, hRow, hId⟩ : ∃ row ∈ s.media, row.id = 1 :=
      List.mem_map.mp (hIds ▸ List.mem_cons_self ..)
    obtain ⟨hCount, hLast, -⟩ := hMedia row hRow
    have hSize : ∀ n ∈ s.media.map (·.fileSize), 0 ≤ n := by simp [hSizes]
    obtain ⟨stats, rfl⟩ := (hSum (by simpa using hSize)).mpr (by rw [hSizes]; decide)
    obtain ⟨-, -, hAllViews, hTotal⟩ := hOk stats rfl
    rw [hId, hViews] at hCount hLast
    rw [hCounts] at hAllViews
    rw [hSizes] at hTotal
    exact ⟨s, hStore, ⟨row, hRow, hId, hCount, (hLast 4).mpr ⟨⟨3, 1, 4⟩, by simp⟩⟩, stats, hOn,
      hAllViews, hTotal⟩
  · obtain ⟨s, hStore, -, -, outcome, hOn, -, hFault, hSum⟩ := views_of_reachable
      (.operation (.createMedia { NewMedia.image "d" with fileSize := 1 }) 6 hReachable)
    have hSizes : (((Operation.createMedia { NewMedia.image "d" with fileSize := 1 }).apply 6
        Database.largeImages).store.map fun s => s.media.map (·.fileSize)) =
        some [4611686018427387904, 4611686018427387903, 1] := by
      decide +kernel
    rw [hStore, Option.map_some, Option.some_inj] at hSizes
    have hSize : ∀ n ∈ s.media.map (·.fileSize), 0 ≤ n := by simp [hSizes]
    have hNone : ¬∃ stats, outcome = .ok stats := by
      rw [hSum (by simpa using hSize), hSizes]
      decide
    cases outcome with
    | ok stats => exact absurd ⟨stats, rfl⟩ hNone
    | error e => exact ⟨_, e, rfl, hOn, (hFault e rfl).2⟩

end MediaLibrary
