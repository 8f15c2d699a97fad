import MediaLibrary.Proofs.Store.Change

/-!
# Store — ids along changes

A table gives a new row the id above the last one that it gave, and remembers it even
when the row goes. So what comes has an id above all that was there before, and an id
that is gone does not come back. Media and tags have this in common: it is said once,
of the ids in use in a table and the last one given.

* `Ids.Next`, `Store.Change.next` — what a change does to ids;
* `Ids.Later` — what changes lead to;
* `Ids.Later.above`, `Ids.Later.gone` — what has come is above, what is gone stays away;
* `Ids.Answers.known_or_above` — ids that are answered one after the other.
-/

namespace MediaLibrary

/-- The ids in use in a table, and the last one given. -/
structure Ids where
  used : List Int
  last : Int

namespace Ids

variable {a b c : Ids} {id : Int}

/-- The next id is given. -/
def give (a : Ids) : Ids :=
  ⟨a.used ++ [a.last + 1], a.last + 1⟩

/-- No id is above the last one given. -/
def Bounded (a : Ids) : Prop :=
  ∀ id ∈ a.used, id ≤ a.last

-- ---------------------------------------------------------------------------
-- One change
-- ---------------------------------------------------------------------------

/-- What one change may do to the ids of a table. -/
inductive Next (a : Ids) : Ids → Prop where
  | same : Next a a
  | given : Next a a.give
  | taken (id : Int) : Next a ⟨a.used.filter (· != id), a.last⟩

/-- Giving an id adds the next one to those in use. -/
theorem mem_used_give : id ∈ a.give.used ↔ id ∈ a.used ∨ id = a.last + 1 := by
  simp [give]

/-- Ids in use stay below the last one given, -/
theorem Bounded.next (ha : a.Bounded) (h : a.Next b) : b.Bounded := by
  cases h with
  | same => exact ha
  | given =>
    intro id hId
    show id ≤ a.last + 1
    rcases mem_used_give.mp hId with hId | rfl
    · have := ha id hId
      omega
    · exact Int.le_refl _
  | taken gone => exact fun id hId => ha id (List.mem_filter.mp hId).1

/-- Rows lie by their ids, which go up to the last one given. -/
structure Ascending (a : Ids) : Prop where
  bounded : a.Bounded
  pairwise : a.used.Pairwise (· < ·)

/-- and in ascending order. -/
theorem Ascending.next (ha : a.Ascending) (h : a.Next b) : b.Ascending := by
  refine ⟨ha.bounded.next h, ?_⟩
  cases h with
  | same => exact ha.pairwise
  | given =>
    refine List.pairwise_append.mpr ⟨ha.pairwise, List.pairwise_singleton _ _, ?_⟩
    intro id hId x hx
    obtain rfl := List.mem_singleton.mp hx
    exact Int.lt_add_one_of_le (ha.bounded id hId)
  | taken gone => exact ha.pairwise.filter _

-- ---------------------------------------------------------------------------
-- Many changes
-- ---------------------------------------------------------------------------

/-- Every id in use was in use before or has been given since. -/
structure Later (a b : Ids) : Prop where
  last : a.last ≤ b.last
  used : ∀ id ∈ b.used, id ∈ a.used ∨ a.last < id

theorem Later.refl (a : Ids) : a.Later a :=
  ⟨Int.le_refl _, fun _ => .inl⟩

/-- What was later is so after one more change. -/
theorem Later.next (h : a.Later b) (hNext : b.Next c) : a.Later c := by
  cases hNext with
  | same => exact h
  | given =>
    have hLast := h.last
    refine ⟨?_, fun id hId => ?_⟩
    · show a.last ≤ b.last + 1
      omega
    · rcases mem_used_give.mp hId with hId | rfl
      · exact h.used id hId
      · right
        omega
  | taken gone => exact ⟨h.last, fun id hId => h.used id (List.mem_filter.mp hId).1⟩

/-- An id that was given since is above all that were in use before. -/
theorem Bounded.below (ha : a.Bounded) (h : a.last < id) : ∀ x ∈ a.used, x < id := by
  intro x hx
  have := ha x hx
  omega

/-- An id that has come into use is above all that were in use before. -/
theorem Later.above (h : a.Later b) (ha : a.Bounded) (hId : id ∈ b.used) (hNew : id ∉ a.used) :
    ∀ x ∈ a.used, x < id :=
  ha.below ((h.used id hId).resolve_left hNew)

/-- An id that has gone out of use does not come back. -/
theorem Later.gone (h : a.Later b) (h' : b.Later c) (ha : a.Bounded) (hId : id ∈ a.used)
    (hGone : id ∉ b.used) : id ∉ c.used := by
  intro hBack
  have hAbove := (h'.used id hBack).resolve_left hGone
  have hBound := ha id hId
  have hLast := h.last
  omega

-- ---------------------------------------------------------------------------
-- Answers
-- ---------------------------------------------------------------------------

/-- Ids are answered one after the other: one that is in use, or the next one, which is given
then. -/
inductive Answers (a : Ids) : List Int → Ids → Prop where
  | nil : Answers a [] a
  | known {ids : List Int} {b : Ids} {id : Int} :
      Answers a ids b → id ∈ b.used → Answers a (ids ++ [id]) b
  | given {ids : List Int} {b : Ids} :
      Answers a ids b → Answers a (ids ++ [b.last + 1]) b.give

/-- Answers follow one another. -/
theorem Answers.append {ids more : List Int} (h : a.Answers ids b) (h' : b.Answers more c) :
    a.Answers (ids ++ more) c := by
  induction h' with
  | nil => rwa [List.append_nil]
  | known _ hUsed ih =>
    rw [← List.append_assoc]
    exact ih.known hUsed
  | given _ ih =>
    rw [← List.append_assoc]
    exact ih.given

/-- All ids that are answered are in use in the end, and nothing else is given. -/
theorem Answers.mem_used {ids : List Int} (h : a.Answers ids b) (id : Int) :
    id ∈ b.used ↔ id ∈ a.used ∨ id ∈ ids := by
  induction h with
  | nil => simp
  | known _ hUsed ih =>
    rw [List.mem_append, List.mem_singleton, ih]
    constructor
    · rintro (h | h)
      · exact .inl h
      · exact .inr (.inl h)
    · rintro (h | h | rfl)
      · exact .inl h
      · exact .inr h
      · exact ih.mp hUsed
  | given _ ih => rw [mem_used_give, ih, List.mem_append, List.mem_singleton, or_assoc]

/-- Giving ids is a change like others. -/
theorem Answers.later {ids : List Int} (h : a.Answers ids b) : a.Later b := by
  induction h with
  | nil => exact .refl a
  | known _ _ ih => exact ih
  | given _ ih => exact ih.next .given

/-- Ids that are given are never above the last one. -/
theorem Answers.bounded {ids : List Int} (h : a.Answers ids b) (ha : a.Bounded) : b.Bounded := by
  induction h with
  | nil => exact ha
  | known _ _ ih => exact ih
  | given _ ih => exact ih.next .given

/-- What lies before an id in a list with one more id at the end. -/
private theorem split_concat {ids earlier rest : List Int} {last : Int}
    (h : ids ++ [last] = earlier ++ id :: rest) :
    (ids = earlier ∧ last = id) ∨ ∃ rest', ids = earlier ++ id :: rest' := by
  rcases List.eq_nil_or_concat rest with rfl | ⟨rest', y, rfl⟩
  · obtain ⟨hInit, hLast⟩ := List.append_inj' h rfl
    exact .inl ⟨hInit, List.singleton_inj.mp hLast⟩
  · have hSplit : ids ++ [last] = (earlier ++ id :: rest') ++ [y] := by simpa using h
    exact .inr ⟨rest', (List.append_inj' hSplit rfl).1⟩

/-- Every id that is answered was in use, or was answered before, or is above all of those. -/
theorem Answers.known_or_above {ids : List Int} (h : a.Answers ids b) (ha : a.Bounded)
    {earlier rest : List Int} (hIds : ids = earlier ++ id :: rest) :
    id ∈ a.used ∨ id ∈ earlier ∨ a.last < id ∧ ∀ x ∈ earlier, x < id := by
  induction h generalizing rest with
  | nil => simp at hIds
  | known hBefore hUsed ih =>
    rcases split_concat hIds with ⟨rfl, rfl⟩ | ⟨rest', hSplit⟩
    · exact ((hBefore.mem_used _).mp hUsed).imp_right .inl
    · exact ih hSplit
  | given hBefore ih =>
    rcases split_concat hIds with ⟨rfl, rfl⟩ | ⟨rest', hSplit⟩
    · have hFrom := hBefore.later.last
      refine .inr (.inr ⟨by omega, fun x hx => ?_⟩)
      have := hBefore.bounded ha x ((hBefore.mem_used x).mpr (.inr hx))
      omega
    · exact ih hSplit

end Ids

-- ---------------------------------------------------------------------------
-- Stores
-- ---------------------------------------------------------------------------

namespace Store

/-- The ids of media. -/
def mediaIds (s : Store) : Ids :=
  ⟨s.media.map (·.id), s.lastMediaId⟩

/-- The ids of tags. -/
def tagIds (s : Store) : Ids :=
  ⟨s.tags.map (·.id), s.lastTagId⟩

/-- The ids of the media, each with the hash of its content. -/
def hashes (s : Store) : List (Int × String) :=
  s.media.map fun row => (row.id, row.contentHash)

variable {s s' : Store} {id now : Int}

/-- The ids of media are part of the outline. -/
theorem mediaIds_eq (s : Store) :
    s.mediaIds = ⟨s.outline.media.map (·.id), s.outline.lastMediaId⟩ := by
  simp [mediaIds, outline]

theorem tagIds_eq (s : Store) : s.tagIds = ⟨s.outline.tags.map (·.id), s.outline.lastTagId⟩ := by
  simp [tagIds, outline]

theorem hashes_eq (s : Store) :
    s.hashes = s.outline.media.map fun m => (m.id, m.contentHash) := by
  simp [hashes, outline, MediaRow.core]

/-- In a sound store no medium has an id above the last one, -/
theorem Sound.mediaIds_bounded (h : s.Sound) : s.mediaIds.Bounded := by
  intro id hId
  rw [mediaIds_eq] at hId ⊢
  obtain ⟨m, hm, rfl⟩ := List.mem_map.mp hId
  exact h.outline.mediaBound m hm

/-- and no tag has. -/
theorem Sound.tagIds_bounded (h : s.Sound) : s.tagIds.Bounded := by
  intro id hId
  rw [tagIds_eq] at hId ⊢
  obtain ⟨tag, hTag, rfl⟩ := List.mem_map.mp hId
  exact h.outline.tagBound tag hTag

-- ---------------------------------------------------------------------------
-- Rows that come and go
-- ---------------------------------------------------------------------------

/-- A new medium is described by the request for it, under the next id. -/
theorem outline_insertMedia {m : NewMedia} (h : s.insertMedia m now = .ok (id, s')) :
    id = s.lastMediaId + 1 ∧ s'.outline = { s.outline with
      media := s.outline.media ++ [⟨id, m.contentHash, m.kind.name, m.rating.name⟩],
      lastMediaId := id } := by
  obtain ⟨hId, -, rfl⟩ := insertMedia_ok h
  refine ⟨hId, ?_⟩
  rw [(quiet_markParent _ _).outline, outline_appendMedia]
  rfl

/-- A new medium is given the next id, -/
theorem mediaIds_insertMedia {m : NewMedia} (h : s.insertMedia m now = .ok (id, s')) :
    s'.mediaIds = s.mediaIds.give := by
  obtain ⟨rfl, hOutline⟩ := outline_insertMedia h
  rw [mediaIds_eq, hOutline, mediaIds_eq]
  simp [Ids.give, outline]

/-- and its content is known by it. -/
theorem hashes_insertMedia {m : NewMedia} (h : s.insertMedia m now = .ok (id, s')) :
    s'.hashes = s.hashes ++ [(id, m.contentHash)] := by
  obtain ⟨-, hOutline⟩ := outline_insertMedia h
  rw [hashes_eq, hOutline, hashes_eq, List.map_append]
  rfl

/-- The id of a medium that is deleted goes out of use, but is not given back. -/
theorem mediaIds_deleteMedia (s : Store) (id now : Int) :
    (s.deleteMedia id now).mediaIds = ⟨s.mediaIds.used.filter (· != id), s.mediaIds.last⟩ := by
  rw [mediaIds_eq, outline_deleteMedia, mediaIds_eq, List.filter_map]
  rfl

/-- A new tag is given the next id, -/
theorem tagIds_insertTag {tag : NewTag} (h : s.insertTag tag now = .ok (id, s')) :
    s'.tagIds = s.tagIds.give := by
  obtain ⟨rfl, -, rfl⟩ := insertTag_ok h
  simp [tagIds, Ids.give]

/-- The id of a tag that is had is answered. -/
theorem Provides.answers {tag : NewTag} (h : s.Provides tag now id s') :
    s.tagIds.Answers [id] s'.tagIds := by
  rcases h with ⟨rfl, row, hRow, hId⟩ | hOk
  · exact Ids.Answers.nil.known (List.mem_map.mpr ⟨row, List.mem_of_find?_eq_some hRow, hId⟩)
  · obtain ⟨rfl, -, -⟩ := insertTag_ok hOk
    rw [tagIds_insertTag hOk]
    exact Ids.Answers.nil.given

/-- which is not given back either. -/
theorem tagIds_deleteTag (s : Store) (id now : Int) :
    (s.deleteTag id now).tagIds = ⟨s.tagIds.used.filter (· != id), s.tagIds.last⟩ := by
  rw [tagIds_eq, outline_deleteTag, tagIds_eq, List.filter_map]
  rfl

-- ---------------------------------------------------------------------------
-- All changes
-- ---------------------------------------------------------------------------

/-- What keeps the outline gives no id. -/
theorem next_of_outline (h : s'.outline = s.outline) :
    s.mediaIds.Next s'.mediaIds ∧ s.tagIds.Next s'.tagIds := by
  rw [mediaIds_eq, mediaIds_eq, tagIds_eq, tagIds_eq, h]
  exact ⟨.same, .same⟩

/-- A change gives one id at most, or takes one out of use. -/
theorem Change.next (h : Change now s s') :
    s.mediaIds.Next s'.mediaIds ∧ s.tagIds.Next s'.tagIds := by
  cases h with
  | insertMedia hOk =>
    have hTags : s'.tagIds = s.tagIds := by
      rw [tagIds_eq, (outline_insertMedia hOk).2, tagIds_eq]
    rw [mediaIds_insertMedia hOk, hTags]
    exact ⟨.given, .same⟩
  | deleteMedia id =>
    have hTags : (s.deleteMedia id now).tagIds = s.tagIds := by
      rw [tagIds_eq, outline_deleteMedia, tagIds_eq]
    rw [mediaIds_deleteMedia, hTags]
    exact ⟨.taken id, .same⟩
  | setFavorite id isFavorite =>
    exact next_of_outline (quiet_setFavorite s id isFavorite now).outline
  | setRating id rating =>
    have hMedia : (s.setRating id rating now).media.map (·.id) = s.media.map (·.id) :=
      s.map_changeMedia (·.id) id fun _ => rfl
    have hIds : (s.setRating id rating now).mediaIds = s.mediaIds := by
      rw [mediaIds, hMedia]
      rfl
    rw [hIds]
    exact ⟨.same, .same⟩
  | setParent _ _ => exact next_of_outline (quiet_setParent s _ _ now).outline
  | view _ => exact next_of_outline (quiet_view s _ now).outline
  | insertTag _ hOk =>
    have hMedia : s'.mediaIds = s.mediaIds := by
      obtain ⟨-, -, rfl⟩ := insertTag_ok hOk
      rfl
    rw [hMedia, tagIds_insertTag hOk]
    exact ⟨.same, .given⟩
  | deleteTag id =>
    have hMedia : (s.deleteTag id now).mediaIds = s.mediaIds := by
      rw [mediaIds_eq, outline_deleteTag, mediaIds_eq]
    rw [hMedia, tagIds_deleteTag]
    exact ⟨.same, .taken id⟩
  | attach _ _ => exact next_of_outline (outline_attach ..)
  | detach mediaId tagId => exact next_of_outline (outline_detach ..)

end Store

end MediaLibrary
