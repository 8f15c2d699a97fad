import Mathlib.Data.Bool.AllAny
import Mathlib.Data.List.Forall2
import MediaLibrary.Proofs.Query.Typed
import MediaLibrary.Proofs.Text.LowerCase
import MediaLibrary.Proofs.Text.Words

/-!
# Tag — what an input asks for

An input is read word by word, and each word is looked at with what was read before it. Told
without this, every word asks for a tag by itself; the input is refused for the first name that
is not allowed; and of the tags that are asked for, the first one of each name is taken. Every
list of allowed names can be typed: each tag with its category in front, in which no colon of
the name is mistaken for that of a category.

* `Asks`, `asks_iff` — the category and the name of a word;
* `Firsts` — the first tag of each name;
* `tags_of_input` — what is read, and that all tags can be typed.
-/

namespace MediaLibrary

open Text (AreWords IsWordAt Spaced)

namespace Tag

-- ---------------------------------------------------------------------------
-- The tag of a word
-- ---------------------------------------------------------------------------

/-- A word asks for a tag: a category up to its first colon goes with the name behind the colon, and
a word that begins with no category is a name of the general one as it stands. -/
inductive Asks : List Char → NewTag → Prop where
  | category {front name : List Char} {category : TagCategory} : ':' ∉ front →
      TagCategory.ofWord? front = some category →
      Asks (front ++ ':' :: name) ⟨String.ofList name, category⟩
  | plain {word : List Char} :
      (∀ front name, word = front ++ ':' :: name → ':' ∉ front →
        TagCategory.ofWord? front = none) →
      Asks word ⟨String.ofList word, .general⟩

/-- The tag of a word. -/
def named (word : List Char) : NewTag :=
  ⟨String.ofList (splitCategory word).2, (splitCategory word).1⟩

/-- What stands in front of the first colon is a category if it is the word of one. -/
theorem splitCategory_colon {front : List Char} (hFront : ':' ∉ front) (name : List Char) :
    splitCategory (front ++ ':' :: name) =
      (TagCategory.ofWord? front).elim (.general, front ++ ':' :: name) (·, name) := by
  simp only [splitCategory, takeWhile_ne hFront, List.drop_left]
  cases TagCategory.ofWord? front <;> rfl

/-- A word without a colon is a general name. -/
theorem splitCategory_plain {word : List Char} (hWord : ':' ∉ word) :
    splitCategory word = (.general, word) := by
  simp only [splitCategory, takeWhile_ne_all hWord, List.drop_length]

/-- Every word asks for one tag. -/
theorem asks_iff {word : List Char} {tag : NewTag} : Asks word tag ↔ tag = named word := by
  constructor
  · rintro (@⟨front, name, category, hFront, hCategory⟩ | hPlain)
    · rw [named, splitCategory_colon hFront, hCategory, Option.elim_some]
    · by_cases hColon : ':' ∈ word
      · obtain ⟨front, name, rfl, hFront⟩ := List.eq_append_cons_of_mem hColon
        rw [named, splitCategory_colon hFront, hPlain front name rfl hFront, Option.elim_none]
      · rw [named, splitCategory_plain hColon]
  · rintro rfl
    by_cases hColon : ':' ∈ word
    · obtain ⟨front, name, rfl, hFront⟩ := List.eq_append_cons_of_mem hColon
      rw [named, splitCategory_colon hFront]
      cases hCategory : TagCategory.ofWord? front with
      | some category => exact .category hFront hCategory
      | none =>
        refine .plain fun front' name' hSplit hFront' => ?_
        have hSame : front' = front := by
          rw [← takeWhile_ne hFront name, hSplit, takeWhile_ne hFront']
        exact hSame ▸ hCategory
    · rw [named, splitCategory_plain hColon]
      refine .plain fun front name hSplit _ => absurd ?_ hColon
      exact hSplit ▸ List.mem_append_right front (List.mem_cons_self ..)

/-- A name is asked for in characters of its word. -/
theorem Asks.subset {word : List Char} {tag : NewTag} (h : Asks word tag) :
    tag.name.toList ⊆ word := by
  cases h with
  | category => simp
  | plain => simp

-- ---------------------------------------------------------------------------
-- The first tag of each name
-- ---------------------------------------------------------------------------

/-- The tags of a list whose names no tag before them has, in the order of the list. -/
structure Firsts (asked tags : List NewTag) : Prop where
  mem_iff : ∀ tag, tag ∈ tags ↔ asked.find? (·.name == tag.name) = some tag
  ordered : tags.Pairwise fun a b =>
    (asked.map (·.name)).idxOf a.name < (asked.map (·.name)).idxOf b.name

namespace Firsts

variable {asked tags : List NewTag}

theorem nil : Firsts [] [] where
  mem_iff := by simp
  ordered := .nil

/-- Only tags that are asked for are kept. -/
theorem subset (h : Firsts asked tags) : tags ⊆ asked :=
  fun tag hTag => List.mem_of_find?_eq_some ((h.mem_iff tag).mp hTag)

/-- No name is kept twice. -/
theorem nodup (h : Firsts asked tags) : (tags.map (·.name)).Nodup := by
  rw [List.Nodup, List.pairwise_map]
  refine h.ordered.imp fun hLt hEq => ?_
  rw [hEq] at hLt
  exact Nat.lt_irrefl _ hLt

/-- No name is lost either. -/
theorem exists_name_iff (h : Firsts asked tags) (name : String) :
    (∃ tag ∈ tags, tag.name = name) ↔ ∃ tag ∈ asked, tag.name = name := by
  constructor
  · rintro ⟨tag, hTag, rfl⟩
    exact ⟨tag, h.subset hTag, rfl⟩
  · intro hAsked
    have hSome : (asked.find? (·.name == name)).isSome := by simpa using hAsked
    obtain ⟨tag, hFind⟩ := Option.isSome_iff_exists.mp hSome
    have hName : tag.name = name := by simpa using List.find?_some hFind
    subst hName
    exact ⟨tag, (h.mem_iff tag).mpr hFind, rfl⟩

end Firsts

/-- The tags with one more, unless its name is there. -/
def addNew (tags : List NewTag) (tag : NewTag) : List NewTag :=
  if tags.any (·.name == tag.name) then tags else tags ++ [tag]

/-- A tag is the first one of its name in a longer list, if it was so before, or comes last and
has a new name. -/
theorem find?_append_singleton {asked : List NewTag} {tag t : NewTag} :
    (asked ++ [tag]).find? (·.name == t.name) = some t ↔
      asked.find? (·.name == t.name) = some t ∨
        (¬∃ other ∈ asked, other.name = tag.name) ∧ t = tag := by
  rw [List.find?_append, Option.or_eq_some_iff, List.find?_eq_none]
  refine or_congr_right ⟨?_, ?_⟩
  · rintro ⟨hNone, hLast⟩
    obtain rfl := List.mem_singleton.mp (List.mem_of_find?_eq_some hLast)
    exact ⟨by simpa using hNone, rfl⟩
  · rintro ⟨hNew, rfl⟩
    exact ⟨by simpa using hNew, by simp⟩

/-- The next tag is kept if its name is new. -/
theorem Firsts.addNew {asked tags : List NewTag} (h : Firsts asked tags) (tag : NewTag) :
    Firsts (asked ++ [tag]) (addNew tags tag) := by
  have hAny : tags.any (·.name == tag.name) = true ↔ ∃ other ∈ asked, other.name = tag.name := by
    rw [← h.exists_name_iff]
    simp
  have hIdx : ∀ a ∈ tags, ((asked ++ [tag]).map (·.name)).idxOf a.name =
      (asked.map (·.name)).idxOf a.name := by
    intro a ha
    rw [List.map_append, List.idxOf_append_of_mem (List.mem_map_of_mem (h.subset ha))]
  have hOld : tags.Pairwise fun a b => ((asked ++ [tag]).map (·.name)).idxOf a.name <
      ((asked ++ [tag]).map (·.name)).idxOf b.name := by
    refine h.ordered.imp_of_mem fun ha hb hLt => ?_
    rwa [hIdx _ ha, hIdx _ hb]
  rw [Tag.addNew]
  split
  · rename_i hKnown
    refine ⟨fun t => ?_, hOld⟩
    rw [h.mem_iff, find?_append_singleton]
    simp [hAny.mp hKnown]
  · rename_i hNew
    rw [hAny] at hNew
    refine ⟨fun t => ?_, ?_⟩
    · rw [List.mem_append, List.mem_singleton, h.mem_iff, find?_append_singleton]
      simp [hNew]
    · refine List.pairwise_append.mpr ⟨hOld, List.pairwise_singleton .., fun a ha b hb => ?_⟩
      have hMem : a.name ∈ asked.map (·.name) :=
        List.mem_map_of_mem (h.subset ha)
      have hLast : tag.name ∉ asked.map (·.name) := by simpa using hNew
      rw [List.mem_singleton.mp hb, hIdx a ha, List.map_append, List.idxOf_append, if_neg hLast]
      exact Nat.lt_add_left _ (List.idxOf_lt_length_iff.mpr hMem)

/-- One by one, the first tag of each name is what is taken. -/
theorem Firsts.foldl_addNew {asked tags : List NewTag} (h : Firsts asked tags)
    (rest : List NewTag) : Firsts (asked ++ rest) (rest.foldl Tag.addNew tags) := by
  induction rest generalizing asked tags with
  | nil => rwa [List.append_nil]
  | cons tag rest ih =>
    rw [List.append_cons]
    exact ih (h.addNew tag)

/-- Of tags with different names, all are taken. -/
theorem foldl_addNew_eq_append {tags rest : List NewTag}
    (h : ((tags ++ rest).map (·.name)).Nodup) : rest.foldl addNew tags = tags ++ rest := by
  induction rest generalizing tags with
  | nil => rw [List.foldl_nil, List.append_nil]
  | cons tag rest ih =>
    rw [List.append_cons] at h ⊢
    have hNew : ¬tags.any (·.name == tag.name) = true := by
      rw [List.map_append, List.map_append, List.append_assoc, List.nodup_append] at h
      intro hAny
      obtain ⟨other, hOther, hSame⟩ := List.any_eq_true.mp hAny
      exact h.2.2 _ (List.mem_map_of_mem hOther) _ (by simp) (beq_iff_eq.mp hSame)
    rw [List.foldl_cons, addNew, if_neg hNew, ih h]

-- ---------------------------------------------------------------------------
-- Reading
-- ---------------------------------------------------------------------------

/-- The tags that words ask for, without those that have no name. -/
def asked (words : List (List Char)) : List NewTag :=
  (words.map named).filter (!·.name.isEmpty)

theorem addWord_eq (tags : List NewTag) (word : List Char) :
    addWord tags word =
      if (!(named word).name.isEmpty) = true then do
        checkName (named word).name
        return addNew tags (named word)
      else return tags := by
  have hEmpty : (named word).name.isEmpty = (splitCategory word).2.isEmpty := by
    rw [Bool.eq_iff_iff, String.isEmpty_iff, List.isEmpty_iff, ← String.toList_eq_nil_iff, named,
      String.toList_ofList]
  rw [hEmpty]
  cases hNil : (splitCategory word).2.isEmpty with
  | true => simp [addWord, hNil]
  | false =>
    simp only [addWord, addNew, named, hNil]
    refine congrArg (checkName _ >>= ·) (funext fun _ => ?_)
    exact (apply_ite pure ..).symm

/-- The names that words ask for are checked, and the new ones taken. -/
theorem readInput_eq (input : String) :
    readInput input = (asked (Text.words (Text.lowerCase input))).foldlM
      (fun tags tag => do checkName tag.name; return addNew tags tag) [] := by
  rw [asked, List.foldlM_filter, List.foldlM_map, readInput]
  congr
  funext tags word
  exact addWord_eq tags word

/-- An input is read just if each name in it is valid, and then as the first of each name. -/
theorem readInput_eq_ok_iff {input : String} {tags : List NewTag} :
    readInput input = .ok tags ↔
      (∀ tag ∈ asked (Text.words (Text.lowerCase input)), checkName tag.name = .ok ()) ∧
        (asked (Text.words (Text.lowerCase input))).foldl addNew [] = tags := by
  rw [readInput_eq, foldlM_checked_eq_ok_iff]

/-- The tags that are read are the first ones of their names among those that are asked for. -/
theorem firsts_of_readInput {input : String} {tags : List NewTag} (h : readInput input = .ok tags) :
    Firsts (asked (Text.words (Text.lowerCase input))) tags := by
  rw [← (readInput_eq_ok_iff.mp h).2]
  exact Firsts.nil.foldl_addNew _

/-- The names in a line that was read are allowed. -/
theorem checkName_of_readInput {input : String} {tags : List NewTag}
    (h : readInput input = .ok tags) : ∀ tag ∈ tags, checkName tag.name = .ok () :=
  fun tag hTag => (readInput_eq_ok_iff.mp h).1 tag ((firsts_of_readInput h).subset hTag)

/-- No name that is asked for has a capital of ASCII. -/
theorem not_isUpper_of_mem_asked {input : String} {tag : NewTag}
    (h : tag ∈ asked (Text.words (Text.lowerCase input))) :
    ∀ c ∈ tag.name.toList, c.isUpper = false := by
  intro c hc
  obtain ⟨word, hWord, rfl⟩ := List.mem_map.mp (List.mem_filter.mp h).1
  obtain ⟨⟨place, run⟩, hAt, rfl⟩ := List.mem_map.mp hWord
  have hIn : c ∈ run := (asks_iff.mpr rfl : Asks run (named run)).subset hc
  exact Text.not_isUpper_of_mem_lowerCase
    ((((Text.areWords_wordsAt _).mem_iff place run).mp hAt).subset hIn)

-- ---------------------------------------------------------------------------
-- Typing
-- ---------------------------------------------------------------------------

/-- A tag as it is typed, with its category in front. -/
def typed (tag : NewTag) : String :=
  tag.category.name ++ ":" ++ tag.name

/-- A tag is named by the word it is typed as. -/
theorem named_typed (tag : NewTag) : named (typed tag).toList = tag := by
  have hColon : ':' ∉ tag.category.name.toList := by
    cases tag.category <;> decide
  have hText : (typed tag).toList = tag.category.name.toList ++ ':' :: tag.name.toList := by
    simp [typed]
  rw [named, hText, splitCategory_colon hColon, TagCategory.ofWord?_name]
  simp

/-- What a tag is typed with is ASCII in lower case and no separator. -/
theorem typed_chars {tag : NewTag} (hName : checkName tag.name = .ok ())
    (hSmall : ∀ c ∈ tag.name.toList, c.isUpper = false) :
    ∀ c ∈ (typed tag).toList,
      c.toNat < 0x80 ∧ c.isUpper = false ∧ Text.isSeparator c = false := by
  have hCategory : ∀ c ∈ tag.category.name.toList ++ [':'],
      c.toNat < 0x80 ∧ c.isUpper = false ∧ Text.isSeparator c = false := by
    cases tag.category <;> exact List.all_iff_forall_prop.mp (by decide)
  intro c hc
  rw [typed, String.toList_append, String.toList_append] at hc
  rcases List.mem_append.mp hc with hc | hc
  · exact hCategory c hc
  · have hChar : isTagChar c = true := (isTyped_of_checkName hName).chars c hc
    refine ⟨?_, hSmall c hc, ?_⟩
    · simp only [isTagChar, Bool.and_eq_true, decide_eq_true_eq] at hChar
      omega
    · by_contra hSeparator
      rw [isTagChar_of_isSeparator (by simpa using hSeparator)] at hChar
      cases hChar

/-- All tags can be typed, whatever colons are in their names. -/
theorem readInput_typed {tags : List NewTag} {text : String}
    (hNodup : (tags.map (·.name)).Nodup)
    (hNames : ∀ tag ∈ tags, checkName tag.name = .ok () ∧ ∀ c ∈ tag.name.toList, c.isUpper = false)
    (hText : Spaced (tags.map fun tag => (typed tag).toList) text.toList) :
    readInput text = .ok tags := by
  have hChars : ∀ tag ∈ tags, ∀ c ∈ (typed tag).toList,
      c.toNat < 0x80 ∧ c.isUpper = false ∧ Text.isSeparator c = false :=
    fun tag hTag => typed_chars (hNames tag hTag).1 (hNames tag hTag).2
  have hLower : Text.lowerCase text = text := by
    refine Text.lowerCase_eq_self fun c hc => ?_
    rcases hText.separator_or_mem hc with hSeparator | ⟨_, hWord, hc⟩
    · simp only [Text.isSeparator, Bool.or_eq_true, beq_iff_eq] at hSeparator
      rcases hSeparator with ((rfl | rfl) | rfl) | rfl <;> decide
    · obtain ⟨tag, hTag, rfl⟩ := List.mem_map.mp hWord
      exact ⟨(hChars tag hTag c hc).1, (hChars tag hTag c hc).2.1⟩
  have hWords : Text.words text = tags.map fun tag => (typed tag).toList := by
    refine hText.map_wordsAt (fun word hWord => ?_) 0
    obtain ⟨tag, hTag, rfl⟩ := List.mem_map.mp hWord
    exact ⟨by simp [typed], fun c hc => (hChars tag hTag c hc).2.2⟩
  have hAsked : asked (Text.words (Text.lowerCase text)) = tags := by
    rw [hLower, hWords, asked, List.map_map]
    have hNamed : (named ∘ fun tag => (typed tag).toList) = id := funext named_typed
    rw [hNamed, List.map_id, List.filter_eq_self]
    intro tag hTag
    simpa using (isTyped_of_checkName (hNames tag hTag).1).ne_nil
  rw [readInput_eq_ok_iff, hAsked, foldl_addNew_eq_append (by simpa using hNodup)]
  exact ⟨fun tag hTag => (hNames tag hTag).1, List.nil_append tags⟩

/-- An input is read from the words of its lower case. Each asks for a tag; a word with a category
and no name asks for nothing. The input is refused exactly if a name is not allowed, with the fault
of the first such name, and otherwise the first tag of each name is read, in the order of the
input, without capitals. Conversely, tags with different names that are allowed and have no
capitals are read from every text in which they are typed with separators around them. -/
theorem tags_of_input :
    (∀ input : String, ∃ words said asked,
      AreWords (Text.lowerCase input).toList words ∧
      List.Forall₂ (fun word tag => Asks word.2 tag) words said ∧
      asked = said.filter (!·.name.isEmpty) ∧
      ((∃ tags, readInput input = .ok tags) ↔ ∀ tag ∈ asked, checkName tag.name = .ok ()) ∧
      (∀ e, readInput input = .error e ↔ ∃ before tag after, asked = before ++ tag :: after ∧
        (∀ other ∈ before, checkName other.name = .ok ()) ∧ checkName tag.name = .error e) ∧
      ∀ tags, readInput input = .ok tags → Firsts asked tags ∧ (tags.map (·.name)).Nodup ∧
        ∀ tag ∈ tags, ∀ c ∈ tag.name.toList, c.isUpper = false) ∧
    ∀ (tags : List NewTag) (text : String), (tags.map (·.name)).Nodup →
      (∀ tag ∈ tags, checkName tag.name = .ok () ∧ ∀ c ∈ tag.name.toList, c.isUpper = false) →
      Spaced (tags.map fun tag => (typed tag).toList) text.toList → readInput text = .ok tags := by
  refine ⟨fun input => ?_, fun tags text => readInput_typed⟩
  have hWords := Text.areWords_wordsAt (Text.lowerCase input).toList
  refine ⟨_, _, asked (Text.words (Text.lowerCase input)), hWords, ?_, rfl, ?_, ?_, ?_⟩
  · rw [Text.words, List.map_map, List.forall₂_map_right_iff, List.forall₂_same]
    exact fun word _ => asks_iff.mpr rfl
  · simp only [readInput_eq_ok_iff, exists_and_left, exists_eq', and_true]
  · intro e
    rw [readInput_eq, foldlM_checked_eq_error_iff]
  · intro tags hRead
    have hFirsts := firsts_of_readInput hRead
    exact ⟨hFirsts, hFirsts.nodup, fun tag hTag =>
      not_isUpper_of_mem_asked (hFirsts.subset hTag)⟩

/-- The name that comes twice keeps the category that it comes with first, and the sign of the
kelvin is a small letter in the end. A name may look like a word with a category. -/
theorem tags_of_mixedInput :
    readInput " Artist:Re:Zero\ta:  M:x re:zero \u212A" =
        .ok [⟨"re:zero", .artist⟩, ⟨"x", .metadata⟩, ⟨"k", .general⟩] ∧
      (∀ tag ∈ [⟨"re:zero", .artist⟩, ⟨"x", .metadata⟩, (⟨"k", .general⟩ : NewTag)],
        ∀ c ∈ tag.name.toList, c.isUpper = false) ∧
      readInput "artist:a:b\n metadata:general:x" =
        .ok [⟨"a:b", .artist⟩, ⟨"general:x", .metadata⟩] := by
  have hRead : readInput " Artist:Re:Zero\ta:  M:x re:zero \u212A" =
      .ok [⟨"re:zero", .artist⟩, ⟨"x", .metadata⟩, ⟨"k", .general⟩] := by
    decide +kernel
  have hSpaced : Spaced _ (['\n', ' '].intercalate
      ([⟨"a:b", .artist⟩, ⟨"general:x", .metadata⟩].map fun tag => (typed tag).toList)) :=
    Text.spaced_intercalate (by decide) (List.all_eq_true.mp (by decide)) _
  have hSmall (name : String) (h : name.toList.all (!·.isUpper) = true) :
      ∀ c ∈ name.toList, c.isUpper = false := by
    simpa using h
  obtain ⟨_, _, _, -, -, -, -, -, hTaken⟩ :=
    tags_of_input.1 " Artist:Re:Zero\ta:  M:x re:zero \u212A"
  refine ⟨hRead, (hTaken _ hRead).2.2,
    tags_of_input.2 _ "artist:a:b\n metadata:general:x" (by decide) ?_ hSpaced⟩
  intro tag hTag
  rcases List.mem_pair.mp hTag with rfl | rfl
  · exact ⟨by decide +kernel, hSmall "a:b" (by decide)⟩
  · exact ⟨by decide +kernel, hSmall "general:x" (by decide)⟩

end Tag

end MediaLibrary
