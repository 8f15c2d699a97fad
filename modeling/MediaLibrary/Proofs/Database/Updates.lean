import MediaLibrary.Proofs.Database.Deletion
import MediaLibrary.Proofs.Database.Statistics
import MediaLibrary.Proofs.Store.Writing

/-!
# Database — changing one medium

A medium is marked as a favourite, rated, moved below another one or viewed. Each of these writes
a few columns of its row, and whatever else is written follows from the medium alone: a view is
recorded, and two parents are looked at again. All else stays, in every table.

* `Database.setFavorite_on`, `Database.setRating_on` — one column and the time of the change;
* `Store.AcceptsMove`, `Database.setParent_accepted`, `Database.setParent_refused` — moves;
* `updates_of_media` — the footprint of each change, and that there is none without a medium.
-/

namespace MediaLibrary

open Database (ready)

/-- A medium may be moved below this parent: none, or another one that exists. -/
def Store.AcceptsMove (s : Store) (id : Int) (parent : Option Int) : Prop :=
  parent ≠ some id ∧ ∀ p ∈ parent, ∃ row ∈ s.media, row.id = p

namespace Database

open Work

variable {s : Store} {id : Int} {parent : Option Int}

-- ---------------------------------------------------------------------------
-- Operations
-- ---------------------------------------------------------------------------

theorem setFavorite_on (s : Store) (id : Int) (isFavorite : Bool) (now : Int) :
    (setFavorite id isFavorite now).on (ready s) =
      (.ok (s.hasMedia id), ready (s.setFavorite id isFavorite now)) := by
  simp only [setFavorite, on_bind, on_lock, changeFor_on]

theorem setRating_on (s : Store) (id : Int) (rating : Rating) (now : Int) :
    (setRating id rating now).on (ready s) =
      (.ok (s.hasMedia id), ready (s.setRating id rating now)) := by
  simp only [setRating, on_bind, on_lock, changeFor_on]

theorem setParent_accepted (h : s.AcceptsMove id parent) (now : Int) :
    (setParent id parent now).on (ready s) =
      (.ok (s.hasMedia id), ready (s.setParent id parent now)) := by
  obtain ⟨hSelf, hKnown⟩ := h
  cases parent with
  | none => simp [setParent, changeFor_on]
  | some p =>
    have hOther : p ≠ id := by simpa using hSelf
    have hMedia : s.hasMedia p = true := Store.hasMedia_iff.mpr (hKnown p rfl)
    simp [setParent, on_bind, changeFor_on, hMedia, hOther]

/-- A move that is not accepted is refused, and nothing changes. -/
theorem setParent_refused (h : ¬s.AcceptsMove id parent) (now : Int) :
    ∃ e, (setParent id parent now).on (ready s) = (.error e, ready s) := by
  cases parent with
  | none => exact absurd ⟨by simp, by simp⟩ h
  | some p =>
    by_cases hSelf : p = id
    · exact ⟨.input .parentOfItself, by simp [setParent, hSelf]⟩
    · have hMedia : s.hasMedia p = false := by
        rw [← Bool.not_eq_true, Store.hasMedia_iff]
        exact fun hExists => h ⟨by simpa using hSelf, by simpa using hExists⟩
      exact ⟨.notFound (.parent p), by simp [setParent, on_bind, hSelf, hMedia]⟩

/-- No view of a medium that does not exist is recorded. -/
theorem recordView_refused (h : s.hasMedia id = false) (now : Int) :
    (recordView id now).on (ready s) = (.error (.notFound (.media id)), ready s) := by
  simp [recordView, on_bind, h]

end Database

/-- In every reachable database a medium that exists is changed in its own columns only. Marking it
as a favourite or rating it writes this and the time of the change. Viewing it adds one record of a
view and writes the number of its views, one more, and the time of the last one. Moving it below
another medium that exists, or below none, writes its parent and the time of the change, and the
marks of the new parent and of the old one; any other move is refused. No other column, row or table
changes. If the medium does not exist, a view of it is refused, the others tell so unless the move
would be refused, and nothing changes. -/
theorem updates_of_media {db : Database} (h : db.Reachable) (id now : Int) :
    ∃ s, db = ready s ∧
      (∀ m ∈ s.media, m.id = id →
        (∀ isFavorite, (Database.setFavorite id isFavorite now).on db =
          (.ok true, ready (s.changeMedia id fun row =>
            { row with isFavorite := isFavorite, updatedAt := now }))) ∧
        (∀ rating : Rating, (Database.setRating id rating now).on db =
          (.ok true, ready (s.changeMedia id fun row =>
            { row with rating := rating.name, updatedAt := now }))) ∧
        (Database.recordView id now).on db =
          (.ok (), ready { s.changeMedia id fun row =>
              { row with viewCount := row.viewCount + 1, lastViewedAt := some now } with
            views := s.views ++ [⟨s.lastViewId + 1, id, now⟩], lastViewId := s.lastViewId + 1 }) ∧
        ∀ parent,
          (s.AcceptsMove id parent →
            (Database.setParent id parent now).on db =
              (.ok true, ready (s.withParent m parent now))) ∧
          (¬s.AcceptsMove id parent →
            ∃ e, (Database.setParent id parent now).on db = (.error e, db))) ∧
      ((∀ m ∈ s.media, m.id ≠ id) →
        (∀ isFavorite, (Database.setFavorite id isFavorite now).on db = (.ok false, db)) ∧
        (∀ rating, (Database.setRating id rating now).on db = (.ok false, db)) ∧
        (Database.recordView id now).on db = (.error (.notFound (.media id)), db) ∧
        ∀ parent, (∀ p ∈ parent, ∃ row ∈ s.media, row.id = p) →
          (Database.setParent id parent now).on db = (.ok false, db)) := by
  obtain ⟨s, rfl, hSound⟩ := h.sound
  refine ⟨s, rfl, ?_, ?_⟩
  · rintro m hm rfl
    have hHas : s.hasMedia m.id = true := Store.hasMedia_iff.mpr ⟨m, hm, rfl⟩
    refine ⟨fun isFavorite => ?_, fun rating => ?_, Database.recordView_on hHas now,
      fun parent => ⟨fun hMove => ?_, fun hMove => Database.setParent_refused hMove now⟩⟩
    · rw [Database.setFavorite_on, hHas, Store.setFavorite]
    · rw [Database.setRating_on, hHas, Store.setRating]
    · rw [Database.setParent_accepted hMove, hHas, hSound.setParent_eq hm]
  · intro hNone
    have hHas : s.hasMedia id = false := by
      rw [← Bool.not_eq_true, Store.hasMedia_iff]
      rintro ⟨row, hRow, hId⟩
      exact hNone row hRow hId
    refine ⟨fun isFavorite => ?_, fun rating => ?_, Database.recordView_refused hHas now,
      fun parent hKnown => ?_⟩
    · rw [Database.setFavorite_on, hHas, Store.setFavorite, Store.changeMedia_eq_self hNone]
    · rw [Database.setRating_on, hHas, Store.setRating, Store.changeMedia_eq_self hNone]
    · have hMove : s.AcceptsMove id parent := by
        refine ⟨?_, hKnown⟩
        rintro rfl
        obtain ⟨row, hRow, hId⟩ := hKnown id rfl
        exact hNone row hRow hId
      rw [Database.setParent_accepted hMove, hHas, Store.setParent_eq_self hNone]

/-- The first image is moved from the second one below the third: the second one is no parent any
more, the third one is, and the first one is still a parent. Below itself it cannot be moved, and a
fourth one, which does not exist, is moved nowhere. -/
theorem updates_of_media_in_circle :
    Database.circle.Reachable ∧ ∃ s m, Database.circle = ready s ∧ m ∈ s.media ∧ m.id = 1 ∧
      (Database.setParent 1 (some 3) 7).on Database.circle =
        (.ok true, ready (s.withParent m (some 3) 7)) ∧
      s.media.map (fun row => (row.id, row.parentId, row.hasChildren, row.updatedAt)) =
        [(1, some 2, true, 5), (2, some 1, true, 6), (3, some 1, false, 1)] ∧
      (s.withParent m (some 3) 7).media.map (fun row =>
        (row.id, row.parentId, row.hasChildren, row.updatedAt)) =
        [(1, some 3, true, 7), (2, some 1, false, 6), (3, some 1, true, 1)] ∧
      (∃ e, (Database.setParent 1 (some 1) 7).on Database.circle = (.error e, Database.circle)) ∧
      (Database.setParent 4 (some 1) 7).on Database.circle = (.ok false, Database.circle) := by
  obtain ⟨s, hReady, hExists, -⟩ := updates_of_media Database.reachable_circle 1 7
  obtain ⟨s', hReady', -, hNone⟩ := updates_of_media Database.reachable_circle 4 7
  obtain rfl : s' = s :=
    Option.some.inj (congrArg Database.store (hReady'.symm.trans hReady))
  obtain ⟨m, hm, hId, hAfter⟩ := Database.holds_of_ready hReady (fun s =>
    ∃ m ∈ s.media, m.id = 1 ∧ (s.withParent m (some 3) 7).media.map (fun row =>
      (row.id, row.parentId, row.hasChildren, row.updatedAt)) =
      [(1, some 3, true, 7), (2, some 1, false, 6), (3, some 1, true, 1)]) (by decide +kernel)
  have hKnown := Database.holds_of_ready hReady (fun s =>
    ∀ id ∈ ([1, 3] : List Int), ∃ row ∈ s.media, row.id = id) (by decide +kernel)
  have hNoFourth := Database.holds_of_ready hReady (fun s => ∀ row ∈ s.media, row.id ≠ 4)
    (by decide +kernel)
  obtain ⟨-, -, -, hMove⟩ := hExists m hm hId
  obtain ⟨-, -, -, hNowhere⟩ := hNone hNoFourth
  refine ⟨Database.reachable_circle, s', m, hReady, hm, hId, (hMove (some 3)).1 ?_, ?_, hAfter,
    (hMove (some 1)).2 fun hSelf => hSelf.1 rfl, hNowhere (some 1) ?_⟩
  · refine ⟨by simp, ?_⟩
    rintro _ ⟨⟩
    exact hKnown 3 (by simp)
  · exact Database.holds_of_ready hReady (fun s => s.media.map (fun row =>
      (row.id, row.parentId, row.hasChildren, row.updatedAt)) =
      [(1, some 2, true, 5), (2, some 1, true, 6), (3, some 1, false, 1)]) (by decide +kernel)
  · rintro _ ⟨⟩
    exact hKnown 1 (by simp)

end MediaLibrary
