import Mathlib
import MediaLibrary.Filter.Directive
import MediaLibrary.Proofs.Calendar.DateText
import MediaLibrary.Proofs.Text.Collation

/-!
# Filter — directives as they can be typed

A word asks for a directive if it gives a value for the key of the directive, and the value is a
text of what the directive says: one of a few words in any case, an integer, or a date. Nothing else
is read, and a word asks for one directive at most.

* `Directive.Gives` — the key and the value of a word;
* `Directive.key`, `Directive.IsTyped` — the key of a directive, and the values typed for it;
* `Directive.IsAskedBy`, `Directive.read?_eq_some_iff` — the words that ask for a directive.
-/

namespace MediaLibrary.Directive

open Calendar Text

-- ---------------------------------------------------------------------------
-- Words
-- ---------------------------------------------------------------------------

/-- A word gives a value for a key. It may begin with a slash, of which one is dropped; then comes
the key, in any case of `A` to `Z`, up to the first colon, and behind that the value. -/
def Gives (word : List Char) (key : String) (value : List Char) : Prop :=
  ∃ typed, ':' ∉ typed ∧ String.ofList (typed.map Char.toLower) = key ∧
    (word = '/' :: (typed ++ ':' :: value) ∨
      (word.head? ≠ some '/' ∧ word = typed ++ ':' :: value))

variable {k : String} {word value : List Char} {d : Directive}

/-- A word is split at its first colon, and the key loses its capitals. -/
theorem split?_eq_some_iff :
    split? word = some (k, value) ↔
      ∃ typed, ':' ∉ typed ∧ String.ofList (typed.map Char.toLower) = k ∧
        word = typed ++ ':' :: value := by
  constructor
  · intro h
    by_cases hColon : ':' ∈ word
    · obtain ⟨typed, rest, rfl, hTyped⟩ := List.eq_append_cons_of_mem hColon
      simp only [split?, takeWhile_ne hTyped, List.drop_left] at h
      cases h
      exact ⟨typed, hTyped, rfl, rfl⟩
    · simp only [split?, takeWhile_ne_all hColon, List.drop_length] at h
      cases h
  · rintro ⟨typed, hTyped, rfl, rfl⟩
    simp only [split?, takeWhile_ne hTyped, List.drop_left]

/-- A word gives a value to a key just if it is split so behind its slash. -/
theorem gives_iff : Gives word k value ↔ split? (dropSlash word) = some (k, value) := by
  rw [split?_eq_some_iff, Gives]
  unfold dropSlash
  split
  · simp
  · rename_i hSlash
    have hHead : word.head? ≠ some '/' := by
      intro hHead
      obtain ⟨rest, rfl⟩ := List.head?_eq_some_iff.mp hHead
      exact hSlash rest rfl
    have hNe : ∀ rest, word ≠ '/' :: rest := fun rest h => hHead (by rw [h]; rfl)
    simp [hHead, hNe]

-- ---------------------------------------------------------------------------
-- Values
-- ---------------------------------------------------------------------------

/-- One of some words, in any case of `A` to `Z`. -/
def OneOf (words : List String) (value : List Char) : Prop :=
  ∃ word ∈ words, List.Forall₂ SameChar value word.toList

/-- The text of an integer of 64 bits. -/
def IsInt64 (n : Int) (value : List Char) : Prop :=
  IsInteger n value ∧ -9223372036854775808 ≤ n ∧ n ≤ 9223372036854775807

/-- The words for yes and for no. -/
def flagWords : Bool → List String
  | true => ["true", "yes", "1"]
  | false => ["false", "no", "0"]

/-- The words for a rating: its name and the first letter of it. -/
def ratingWords : Rating → List String
  | .safe => ["safe", "s"]
  | .questionable => ["questionable", "q"]
  | .explicit => ["explicit", "e"]

/-- The word for a kind. -/
def kindWords : MediaKind → List String
  | .image => ["image"]
  | .video => ["video"]
  | .audio => ["audio"]

/-- The key that asks for a directive. -/
def key : Directive → String
  | favorite _ => "favorite"
  | atLeast .width _ => "minwidth"
  | atLeast .height _ => "minheight"
  | atLeast .fileSize _ => "minfilesize"
  | atLeast .viewCount _ => "minviews"
  | atMost .width _ => "maxwidth"
  | atMost .height _ => "maxheight"
  | atMost .fileSize _ => "maxfilesize"
  | atMost .viewCount _ => "maxviews"
  | rating _ => "rating"
  | kind _ => "type"
  | children _ => "children"
  | parent _ => "parent"
  | after _ => "after"
  | before _ => "before"

/-- The values that a directive can be typed with behind its key. -/
def IsTyped : Directive → List Char → Prop
  | favorite b => OneOf (flagWords b)
  | atLeast _ n => IsInt64 n
  | atMost _ n => IsInt64 n
  | rating r => OneOf (ratingWords r)
  | kind k => OneOf (kindWords k)
  | children b => OneOf (flagWords b)
  | parent .absent => OneOf ["none", "false"]
  | parent .any => OneOf ["any", "true"]
  | parent (.is id) => IsInt64 id
  | after date => date.IsTyped
  | before date => date.IsTyped

/-- The word asks for the directive. -/
def IsAskedBy (d : Directive) (word : List Char) : Prop :=
  ∃ value, Gives word d.key value ∧ d.IsTyped value

-- ---------------------------------------------------------------------------
-- Values that are read
-- ---------------------------------------------------------------------------

/-- Words without capitals are compared with what the value is in lower case. -/
theorem oneOf_iff {words : List String}
    (h : ∀ word ∈ words, word.toList.map Char.toLower = word.toList) :
    OneOf words value ↔ String.ofList (value.map Char.toLower) ∈ words := by
  have hSame (word : String) (hWord : word ∈ words) :
      List.Forall₂ SameChar value word.toList ↔ String.ofList (value.map Char.toLower) = word := by
    rw [forall₂_sameChar_iff, h word hWord, ← String.toList_inj, String.toList_ofList]
  constructor
  · rintro ⟨word, hWord, hTyped⟩
    rwa [(hSame word hWord).mp hTyped]
  · intro hWord
    exact ⟨_, hWord, (hSame _ hWord).mpr rfl⟩

/-- A flag is read just from its words. -/
theorem readBool?_eq_some_iff {b : Bool} :
    readBool? (String.ofList (value.map Char.toLower)) = some b ↔ OneOf (flagWords b) value := by
  rw [oneOf_iff (by cases b <;> decide)]
  generalize String.ofList (value.map Char.toLower) = word
  unfold readBool?
  cases b <;> grind [flagWords]

theorem ofWord?_eq_some_iff {r : Rating} :
    Rating.ofWord? (String.ofList (value.map Char.toLower)) = some r ↔
      OneOf (ratingWords r) value := by
  rw [oneOf_iff (by cases r <;> decide), Rating.ofWord?, find?_entry (by decide)]
  cases r <;> simp [Rating.byWord, Rating.byName, Rating.name, ratingWords]

theorem ofName?_eq_some_iff {kind : MediaKind} :
    MediaKind.ofName? (String.ofList (value.map Char.toLower)) = some kind ↔
      OneOf (kindWords kind) value := by
  rw [oneOf_iff (by cases kind <;> decide), MediaKind.ofName?, find?_entry (by decide)]
  cases kind <;> simp [MediaKind.byName, MediaKind.name, kindWords]

/-- An integer is written with a digit, and so none of the words without one. -/
theorem lowered_notMem {words : List String} {n : Int} (h : IsInt64 n value)
    (hWords : ∀ word ∈ words, ∀ c ∈ word.toList, c.isDigit = false) :
    String.ofList (value.map Char.toLower) ∉ words := by
  intro hWord
  obtain ⟨c, hc, hDigit⟩ := h.1.exists_digit
  have hLower : c.toLower = c := by
    refine toLower_of_not_isUpper (not_isUpper_iff.mpr (.inl ?_))
    have hHigh : c.toNat ≤ 57 := (Char.isDigit_iff_toNat.mp hDigit).2
    omega
  have hNot := hWords _ hWord c (by
    rw [String.toList_ofList]
    exact List.mem_map.mpr ⟨c, hc, hLower⟩)
  rw [hDigit] at hNot
  cases hNot

/-- A wish about parents is read just from its words, or from the number of a parent. -/
theorem readParent?_eq_some_iff {wish : ParentWish} :
    readParent? (String.ofList (value.map Char.toLower)) value = some wish ↔
      (parent wish).IsTyped value := by
  have hAbsent : (parent .absent).IsTyped value ↔ _ := oneOf_iff (by decide)
  have hAny : (parent .any).IsTyped value ↔ _ := oneOf_iff (by decide)
  have hId (id : Int) : (parent (.is id)).IsTyped value ↔ readInt64? value = some id :=
    readInt64?_eq_some_iff.symm
  have hNumber (id : Int) (h : readInt64? value = some id) :
      String.ofList (value.map Char.toLower) ∉ ["none", "false", "any", "true"] :=
    lowered_notMem (readInt64?_eq_some_iff.mp h) (by simp)
  generalize String.ofList (value.map Char.toLower) = word at hAbsent hAny hNumber ⊢
  unfold readParent?
  cases hRead : readInt64? value <;> cases wish <;> grind

/-- A directive belongs to the key it is read under. -/
theorem key_of_ofParts? (h : ofParts? k value = some d) : d.key = k := by
  unfold ofParts? at h
  simp only at h
  split at h
  case h_16 => cases h
  all_goals
    obtain ⟨v, -, rfl⟩ := Option.map_eq_some_iff.mp h
    rfl

/-- The values that are read for its key are those that a directive is typed with. -/
theorem ofParts?_key_iff (d : Directive) : ofParts? d.key value = some d ↔ d.IsTyped value := by
  have hMap {α : Type} {make : α → Directive} (hMake : Function.Injective make) (read : Option α)
      (a : α) : read.map make = some (make a) ↔ read = some a := by
    simp [Option.map_eq_some_iff, hMake.eq_iff]
  cases d with
  | favorite b => exact (hMap (fun _ _ => by simp) _ b).trans readBool?_eq_some_iff
  | atLeast m n => cases m <;> exact (hMap (fun _ _ => by simp) _ n).trans readInt64?_eq_some_iff
  | atMost m n => cases m <;> exact (hMap (fun _ _ => by simp) _ n).trans readInt64?_eq_some_iff
  | rating r => exact (hMap (fun _ _ => by simp) _ r).trans ofWord?_eq_some_iff
  | kind kind => exact (hMap (fun _ _ => by simp) _ kind).trans ofName?_eq_some_iff
  | children b => exact (hMap (fun _ _ => by simp) _ b).trans readBool?_eq_some_iff
  | parent wish => exact (hMap (fun _ _ => by simp) _ wish).trans readParent?_eq_some_iff
  | after date => exact (hMap (fun _ _ => by simp) _ date).trans Date.read?_eq_some_iff
  | before date => exact (hMap (fun _ _ => by simp) _ date).trans Date.read?_eq_some_iff

/-- The directive of a word is the one that it asks for. -/
theorem read?_eq_some_iff : read? word = some d ↔ d.IsAskedBy word := by
  simp only [read?, Option.bind_eq_some_iff, ← gives_iff, Prod.exists, IsAskedBy]
  constructor
  · rintro ⟨k, value, hGives, hParts⟩
    obtain rfl := key_of_ofParts? hParts
    exact ⟨value, hGives, (ofParts?_key_iff d).mp hParts⟩
  · rintro ⟨value, hGives, hTyped⟩
    exact ⟨d.key, value, hGives, (ofParts?_key_iff d).mpr hTyped⟩

end MediaLibrary.Directive
