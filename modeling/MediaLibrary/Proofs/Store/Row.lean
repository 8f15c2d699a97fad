import MediaLibrary.Store.Row

/-!
# Store — what rows stand for

A row that decodes stands for a medium or a tag that agrees with it in every column;
only kind, rating and category are read as what their texts and numbers mean. So
where decoding succeeds it is a plain function, `MediaRow.read` or `TagRow.read`, and
rows that all decode are read one by one.

* `MediaRow.decode_of_words`, `TagRow.decode_of_code` — rows as they are written;
* `mapM_decode` — reading rows that all decode.
-/

namespace MediaLibrary

-- ---------------------------------------------------------------------------
-- Media
-- ---------------------------------------------------------------------------

/-- What a row of a medium is read as. It does not matter what stands for a text that stands for
nothing: such a row is never decoded. -/
def MediaRow.read (row : MediaRow) : Media :=
  { row with
    kind := (MediaKind.ofName? row.kind).getD .image
    rating := (Rating.ofWord? row.rating).getD .safe }

@[simp] theorem MediaRow.read_id (row : MediaRow) : row.read.id = row.id := rfl

/-- What a row stands for is what is read of it, -/
theorem MediaRow.eq_read {row : MediaRow} {m : Media} (h : row.decode = .ok m) : m = row.read := by
  unfold MediaRow.decode at h
  split at h
  · cases h
  · rename_i hKind
    split at h
    · cases h
    · rename_i hRating
      cases h
      simp [read, hKind, hRating]

/-- if it stands for anything. -/
theorem MediaRow.decode_eq_read {row : MediaRow} (h : ∃ m, row.decode = .ok m) :
    row.decode = .ok row.read := by
  obtain ⟨m, hm⟩ := h
  rw [hm, eq_read hm]

/-- A kind is known by its name, -/
@[simp] theorem MediaKind.ofName?_name (kind : MediaKind) : ofName? kind.name = some kind := by
  cases kind <;> rfl

/-- and a rating by its own. -/
@[simp] theorem Rating.ofWord?_name (rating : Rating) : ofWord? rating.name = some rating := by
  cases rating <;> rfl

/-- No two kinds have one name, -/
theorem MediaKind.name_injective {a b : MediaKind} (h : a.name = b.name) : a = b := by
  rw [← Option.some_inj, ← ofName?_name a, h, ofName?_name]

/-- and no two ratings have. -/
theorem Rating.name_injective {a b : Rating} (h : a.name = b.name) : a = b := by
  rw [← Option.some_inj, ← ofWord?_name a, h, ofWord?_name]

theorem MediaRow.read_kind {row : MediaRow} {kind : MediaKind} (h : row.kind = kind.name) :
    row.read.kind = kind := by
  simp [read, h]

theorem MediaRow.read_rating {row : MediaRow} {rating : Rating} (h : row.rating = rating.name) :
    row.read.rating = rating := by
  simp [read, h]

/-- A row that does not decode is a fault of the store. -/
theorem MediaRow.fault_of_decode {row : MediaRow} {e : Error} (h : row.decode = .error e) :
    ∃ fault, e = .storage fault := by
  unfold MediaRow.decode at h
  split at h
  · cases h
    exact ⟨_, rfl⟩
  · split at h
    · cases h
      exact ⟨_, rfl⟩
    · cases h

/-- A row whose kind and rating are written in full stands for a medium. -/
theorem MediaRow.decode_of_words {row : MediaRow} {kind : MediaKind} {rating : Rating}
    (hKind : row.kind = kind.name) (hRating : row.rating = rating.name) :
    row.decode = .ok row.read := by
  simp [decode, read, hKind, hRating]

-- ---------------------------------------------------------------------------
-- Tags
-- ---------------------------------------------------------------------------

/-- What a row of a tag is read as, as `MediaRow.read` for media. -/
def TagRow.read (row : TagRow) : Tag :=
  { row with category := (TagCategory.ofCode? row.category).getD .general }

@[simp] theorem TagRow.read_id (row : TagRow) : row.read.id = row.id := rfl

/-- What a row of a tag stands for is what is read of it. -/
theorem TagRow.eq_read {row : TagRow} {tag : Tag} (h : row.decode = .ok tag) : tag = row.read := by
  unfold TagRow.decode at h
  split at h
  · cases h
  · rename_i hCategory
    cases h
    simp [read, hCategory]

/-- A row with the code of a category stands for a tag. -/
theorem TagRow.decode_of_code {row : TagRow} {category : TagCategory}
    (h : row.category = category.code) : row.decode = .ok row.read := by
  simp [decode, read, h]

/-- A tag is in the category whose code is stored. -/
theorem TagRow.read_code {row : TagRow} {category : TagCategory}
    (h : row.category = category.code) : row.read.category = category := by
  simp [read, h]

-- ---------------------------------------------------------------------------
-- Many rows
-- ---------------------------------------------------------------------------

/-- Rows that all stand for something are read one by one. -/
theorem mapM_decode {α β : Type} {decode : α → Except Error β} {read : α → β} {rows : List α}
    (h : ∀ row ∈ rows, decode row = .ok (read row)) : rows.mapM decode = .ok (rows.map read) := by
  induction rows with
  | nil => rfl
  | cons row rest ih =>
    have hRest := ih fun row' hRow' => h row' (List.mem_cons_of_mem row hRow')
    rw [List.mapM_cons, h row (List.mem_cons_self ..), hRest]
    rfl

end MediaLibrary
