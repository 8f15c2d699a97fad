import Mathlib.Data.List.Nodup
import MediaLibrary.Proofs.Store.Counters
import MediaLibrary.Proofs.Store.Row

/-!
# Store — the tags of a medium and the media of a tag

Counting attachments is counting rows: in a sound store the attachments of a medium
are as many as the tags that it carries, and those of a tag as many as the media that
carry it. The tags of a medium are listed in an order in which no two of them are
level, since no two have one name.

* `Store.mediaOf`, `Store.tagsIn` — the media of a tag, the tags of one category;
* `Store.Sound.pairs_of_media`, `Store.Sound.pairs_of_tag` — attachments as rows;
* `Tag.Precedes` — the order of the tags of a medium.
-/

namespace MediaLibrary

namespace Store

/-- The media that carry a tag, by id. -/
def mediaOf (s : Store) (tagId : Int) : List MediaRow :=
  s.media.filter fun row => s.isAttached row.id tagId

/-- The tags of a category that a medium carries, by id. -/
def tagsIn (s : Store) (mediaId : Int) (c : TagCategory) : List TagRow :=
  (s.tagsOf mediaId).filter (·.category == c.code)

variable {s : Store}

theorem mem_tagsOf {mediaId : Int} {tag : TagRow} :
    tag ∈ s.tagsOf mediaId ↔ tag ∈ s.tags ∧ s.isAttached mediaId tag.id = true :=
  List.mem_filter

/-- A tag is attached where there is an attachment that says so. -/
theorem isAttached_iff {mediaId tagId : Int} :
    s.isAttached mediaId tagId = true ↔
      ∃ a ∈ s.attachments, a.mediaId = mediaId ∧ a.tagId = tagId := by
  simp [isAttached, List.any_eq_true]

-- ---------------------------------------------------------------------------
-- Attachments as rows
-- ---------------------------------------------------------------------------

/-- Rows in the order of their ids are told apart by them. -/
theorem eq_of_ids {α : Type} {rows : List α} {id : α → Int} (h : rows.Pairwise (id · < id ·))
    {a b : α} (ha : a ∈ rows) (hb : b ∈ rows) (hId : id a = id b) : a = b :=
  List.inj_on_of_nodup_map (List.pairwise_map.mpr (h.imp Int.ne_of_lt)) ha hb hId

/-- A row is found by what it alone has. -/
theorem find?_of_unique {α : Type} {rows : List α} {p : α → Bool} {a : α} (ha : a ∈ rows)
    (hp : p a = true) (hOnly : ∀ b ∈ rows, p b = true → b = a) : rows.find? p = some a := by
  obtain ⟨b, hb⟩ := Option.isSome_iff_exists.mp (List.find?_isSome.mpr ⟨a, ha, hp⟩)
  rw [hb, hOnly b (List.mem_of_find?_eq_some hb) (List.find?_some hb)]

/-- A row is found by its id. -/
theorem find?_of_ids {α : Type} {rows : List α} {id : α → Int}
    (h : rows.Pairwise (id · < id ·)) {a : α} (ha : a ∈ rows) :
    rows.find? (id · == id a) = some a :=
  find?_of_unique ha (beq_self_eq_true _) fun _ hb hId => eq_of_ids h hb ha (beq_iff_eq.mp hId)

/-- Attachments with distinct keys are as many as the rows that have these keys as ids. -/
private theorem length_eq_of_keys {α : Type} {chosen : List Attachment} {rows : List α}
    (key : Attachment → Int) (id : α → Int) (hKeys : chosen.Pairwise (key · ≠ key ·))
    (hIds : rows.Pairwise (id · < id ·)) (hRow : ∀ a ∈ chosen, ∃ row ∈ rows, id row = key a)
    (hKey : ∀ row ∈ rows, ∃ a ∈ chosen, key a = id row) : chosen.length = rows.length := by
  have hPerm : (chosen.map key).Perm (rows.map id) := by
    refine (List.perm_ext_iff_of_nodup ?_ ?_).mpr fun n => ?_
    · exact List.pairwise_map.mpr hKeys
    · exact List.pairwise_map.mpr (hIds.imp Int.ne_of_lt)
    · rw [List.mem_map, List.mem_map]
      constructor
      · rintro ⟨a, ha, rfl⟩
        exact hRow a ha
      · rintro ⟨row, hMem, rfl⟩
        exact hKey row hMem
  have hLength := hPerm.length_eq
  rwa [List.length_map, List.length_map] at hLength

namespace Sound

/-- The tags of a medium, singled out by their ids, are as many as its attachments. -/
theorem pairs_of_media (h : s.Sound) (mediaId : Int) (p : Int → Bool) :
    s.pairs (fun m t => m == mediaId && p t) =
      (((s.tagsOf mediaId).filter fun tag => p tag.id).length : Int) := by
  rw [pairs, List.countP_eq_length_filter]
  congr 1
  refine length_eq_of_keys (·.tagId) (·.id) ?_ ?_ ?_ ?_
  · -- one medium does not carry one tag twice
    refine (h.once.filter _).imp_of_mem ?_
    intro a b ha hb hDistinct hTag
    simp only [List.mem_filter, Bool.and_eq_true, beq_iff_eq] at ha hb
    exact hDistinct ⟨ha.2.1.trans hb.2.1.symm, hTag⟩
  · exact (h.tags_ids.filter _).filter _
  · intro a ha
    simp only [List.mem_filter, Bool.and_eq_true, beq_iff_eq] at ha
    obtain ⟨hMem, hMedia, hp⟩ := ha
    obtain ⟨unused, hUnused, hId⟩ := h.attachedTag a hMem
    obtain ⟨tag, hTag, rfl⟩ := List.mem_map.mp hUnused
    have hId' : tag.id = a.tagId := hId
    refine ⟨tag, List.mem_filter.mpr ⟨mem_tagsOf.mpr ⟨hTag, ?_⟩, by rw [hId']; exact hp⟩, hId'⟩
    exact isAttached_iff.mpr ⟨a, hMem, hMedia, hId'.symm⟩
  · intro tag hTag
    obtain ⟨hCarried, hp⟩ := List.mem_filter.mp hTag
    obtain ⟨a, ha, hMedia, hTagId⟩ := isAttached_iff.mp (mem_tagsOf.mp hCarried).2
    refine ⟨a, List.mem_filter.mpr ⟨ha, ?_⟩, hTagId⟩
    simp [hMedia, hTagId, hp]

/-- The media of a tag are as many as its attachments. -/
theorem pairs_of_tag (h : s.Sound) (tagId : Int) :
    s.pairs (fun _ t => t == tagId) = ((s.mediaOf tagId).length : Int) := by
  rw [pairs, List.countP_eq_length_filter]
  congr 1
  refine length_eq_of_keys (·.mediaId) (·.id) ?_ ?_ ?_ ?_
  · refine (h.once.filter _).imp_of_mem ?_
    intro a b ha hb hDistinct hMedia
    simp only [List.mem_filter, beq_iff_eq] at ha hb
    exact hDistinct ⟨hMedia, ha.2.trans hb.2.symm⟩
  · exact h.media_ids.filter _
  · intro a ha
    simp only [List.mem_filter, beq_iff_eq] at ha
    obtain ⟨core, hCore, hId⟩ := h.attachedMedia a ha.1
    obtain ⟨row, hRow, rfl⟩ := List.mem_map.mp hCore
    have hId' : row.id = a.mediaId := hId
    refine ⟨row, List.mem_filter.mpr ⟨hRow, ?_⟩, hId'⟩
    exact isAttached_iff.mpr ⟨a, ha.1, hId'.symm, ha.2⟩
  · intro row hRow
    obtain ⟨a, ha, hMedia, hTag⟩ := isAttached_iff.mp (List.mem_filter.mp hRow).2
    exact ⟨a, List.mem_filter.mpr ⟨ha, by simp [hTag]⟩, hMedia⟩

-- ---------------------------------------------------------------------------
-- Categories
-- ---------------------------------------------------------------------------

/-- Every tag that is stored has a category. -/
theorem exists_category (h : s.Sound) {tag : TagRow} (hTag : tag ∈ s.tags) :
    ∃ c : TagCategory, tag.category = c.code :=
  h.outline.categories tag.unused (List.mem_map_of_mem hTag)

/-- It is found under the id of the tag. -/
theorem category?_of_mem (h : s.Sound) {tag : TagRow} (hTag : tag ∈ s.tags) :
    s.category? tag.id = some tag.category := by
  rw [category?, tagRow?, find?_of_ids h.tags_ids hTag]
  rfl

/-- Every tag of a medium is of one of the three categories. -/
theorem length_tagsOf (h : s.Sound) (mediaId : Int) :
    (s.tagsOf mediaId).length = (s.tagsIn mediaId .general).length +
      (s.tagsIn mediaId .metadata).length + (s.tagsIn mediaId .artist).length := by
  have hCategory : ∀ tag ∈ s.tagsOf mediaId, ∃ c : TagCategory, tag.category = c.code :=
    fun tag hTag => h.exists_category (mem_tagsOf.mp hTag).1
  unfold tagsIn
  generalize s.tagsOf mediaId = tags at hCategory ⊢
  induction tags with
  | nil => rfl
  | cons tag rest ih =>
    obtain ⟨c, hc⟩ := hCategory tag (List.mem_cons_self ..)
    have hRest := ih fun tag' hTag' => hCategory tag' (List.mem_cons_of_mem tag hTag')
    simp only [List.filter_cons, hc, List.length_cons]
    cases c <;> simp [TagCategory.code] at hRest ⊢ <;> omega

end Sound

end Store

-- ---------------------------------------------------------------------------
-- The order of tags
-- ---------------------------------------------------------------------------

/-- A tag stands before another one in the list of a medium: by category, then by name. -/
def Tag.Precedes (a b : Tag) : Prop :=
  a.category.code < b.category.code ∨
    (a.category = b.category ∧ Text.NameBefore a.name b.name)

instance (a b : Tag) : Decidable (a.Precedes b) := by
  unfold Tag.Precedes
  infer_instance

namespace Store

/-- Rows in the order of a number, and in that of their names where the number is the same. -/
def NumberedBefore (number : TagRow → Int) (a b : TagRow) : Prop :=
  number a < number b ∨ (number a = number b ∧ Text.collated a.name ≤ Text.collated b.name)

section

variable {number : TagRow → Int} {a b c : TagRow}

theorem NumberedBefore.trans (hab : NumberedBefore number a b) (hbc : NumberedBefore number b c) :
    NumberedBefore number a c := by
  rcases hab with hab | ⟨hab, hName⟩ <;> rcases hbc with hbc | ⟨hbc, hName'⟩
  · left; omega
  · left; omega
  · left; omega
  · exact .inr ⟨hab.trans hbc, String.le_trans hName hName'⟩

/-- Of two tags one is not behind the other. -/
theorem numberedBefore_total (number : TagRow → Int) (a b : TagRow) :
    NumberedBefore number a b ∨ NumberedBefore number b a := by
  rcases Int.lt_trichotomy (number a) (number b) with hLt | hEq | hGt
  · exact .inl (.inl hLt)
  · rcases String.le_total (Text.collated a.name) (Text.collated b.name) with hName | hName
    · exact .inl (.inr ⟨hEq, hName⟩)
    · exact .inr (.inr ⟨hEq.symm, hName⟩)
  · exact .inr (.inl hGt)

/-- Rows with different names that are sorted by a number and by name are nowhere level. -/
theorem pairwise_sorted {before : TagRow → TagRow → Bool}
    (hBefore : ∀ a b, before a b = true ↔ NumberedBefore number a b) {rows : List TagRow}
    (hNames : rows.Pairwise fun a b => ¬Text.OneName a.name b.name) :
    (rows.mergeSort before).Pairwise fun a b =>
      number a < number b ∨ (number a = number b ∧ Text.NameBefore a.name b.name) := by
  have hSorted : (rows.mergeSort before).Pairwise fun a b => before a b = true := by
    refine List.pairwise_mergeSort (fun a b c hab hbc => ?_) (fun a b => ?_) rows
    · exact (hBefore a c).mpr (((hBefore a b).mp hab).trans ((hBefore b c).mp hbc))
    · rw [Bool.or_eq_true, hBefore, hBefore]
      exact numberedBefore_total number a b
  have hDistinct :=
    ((List.mergeSort_perm rows before).pairwise_iff fun hNot hSame => hNot hSame.symm).mpr hNames
  refine (hSorted.and hDistinct).imp ?_
  rintro a b ⟨hab, hNot⟩
  exact ((hBefore a b).mp hab).imp_right fun ⟨hEq, hLe⟩ => ⟨hEq, Text.nameBefore_of_le hLe hNot⟩

end

/-- Tags are listed by category, and then by name. -/
theorem listedBefore_iff (a b : TagRow) :
    listedBefore a b = true ↔ NumberedBefore (·.category) a b := by
  simp [listedBefore, nameLe, NumberedBefore]

/-- The tags of a medium, sorted, stand one before the other. -/
theorem Sound.precedes {s : Store} (h : s.Sound) (mediaId : Int) :
    ((s.tagsOf mediaId).mergeSort listedBefore).Pairwise fun a b => a.read.Precedes b.read := by
  have hCode {tag : TagRow} (hTag : tag ∈ (s.tagsOf mediaId).mergeSort listedBefore) :
      tag.category = tag.read.category.code := by
    have hMem := (mem_tagsOf.mp ((List.mergeSort_perm ..).mem_iff.mp hTag)).1
    obtain ⟨c, hc⟩ := h.exists_category hMem
    rw [TagRow.read_code hc, hc]
  refine (pairwise_sorted listedBefore_iff (h.tags_names.filter _)).imp_of_mem ?_
  rintro a b ha hb (hLt | ⟨hEq, hName⟩)
  · left
    rwa [← hCode ha, ← hCode hb]
  · exact .inr ⟨by simp only [TagRow.read, hEq], hName⟩

end Store

end MediaLibrary
