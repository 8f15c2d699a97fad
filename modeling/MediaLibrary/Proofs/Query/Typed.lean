import MediaLibrary.Proofs.Query.Canonical
import MediaLibrary.Tag.Input

/-!
# Query — names typed as tags

What may be typed as the name of a tag can be asked for in a query: no such name begins
with a mark, so a query says by it what a plain word says, and a mark in front of it is
read as a mark. Only the name `or` is a word of the query language, which says nothing by
itself; it has to be asked for with a mark.

* `Tag.isTyped_of_checkName` — what is known of the names that are allowed;
* `Query.parse_excluded`, `Query.parse_optional`, `Query.parse_orWord` — one name;
* `Query.parse_spaced` — names with separators between them.
-/

namespace MediaLibrary

open Query (IsPlain orWord)

-- ---------------------------------------------------------------------------
-- Names that are allowed
-- ---------------------------------------------------------------------------

namespace Tag

/-- A name of a tag that begins with no mark. -/
structure IsTyped (name : String) : Prop extends IsName name where
  unmarked : ∀ m : Mark, name.toList.head? ≠ some m.char

theorem isEdgeMark_mark (m : Mark) : isEdgeMark m.char = true := by
  cases m <;> rfl

/-- A name that is allowed consists of characters of names and begins with no mark. -/
theorem isTyped_of_checkName {name : String} (h : checkName name = .ok ()) : IsTyped name := by
  unfold checkName at h
  split at h
  · cases h
  · rename_i first rest hName
    split at h
    · cases h
    · rename_i hChars
      rw [List.find?_eq_none] at hChars
      simp only at h
      split at h
      · cases h
      · rename_i hFirst
        refine ⟨⟨by simp [hName], fun c hc => ?_⟩, fun m hm => ?_⟩
        · rw [hName] at hc
          simpa using hChars c hc
        · rw [hName, List.head?_cons, Option.some_inj] at hm
          exact hFirst (hm ▸ isEdgeMark_mark m)

theorem IsTyped.isPlain {name : String} (h : IsTyped name) (hOr : name ≠ orWord) :
    IsPlain name.toList :=
  ⟨h.unmarked, fun hEq => hOr (String.toList_injective hEq)⟩

end Tag

namespace Query

-- ---------------------------------------------------------------------------
-- One name
-- ---------------------------------------------------------------------------

/-- A query of one name is canonical, so it is what its text says. -/
theorem parse_excluded {name : String} (h : Tag.IsName name) :
    parse ("-" ++ name) = .ok { excluded := [name] } := by
  have hCanonical : IsCanonical { excluded := [name] } := ⟨by simpa [names] using h, by simp⟩
  have hText : text { excluded := [name] } = "-" ++ name := by
    simp [text, terms]
    rfl
  exact hText ▸ hCanonical.parse_text

theorem parse_optional {name : String} (h : Tag.IsName name) :
    parse ("~" ++ name) = .ok { optional := [name] } := by
  have hCanonical : IsCanonical { optional := [name] } := ⟨by simpa [names] using h, by simp⟩
  have hText : text { optional := [name] } = "~" ++ name := by
    simp [text, terms]
    rfl
  exact hText ▸ hCanonical.parse_text

/-- The word `or` by itself asks for nothing. -/
theorem parse_orWord : parse orWord = .ok {} := by cbv

-- ---------------------------------------------------------------------------
-- Several names
-- ---------------------------------------------------------------------------

/-- Names without marks, with separators between and around them, are included. -/
theorem parse_spaced {ws : List String} {text : String}
    (hSpaced : Text.Spaced (ws.map String.toList) text.toList)
    (hNames : ∀ name ∈ ws, Tag.IsTyped name ∧ name ≠ orWord) :
    parse text = .ok { included := ws } := by
  have hTerms : ∀ word ∈ ws.map String.toList, word ≠ [] ∧ IsTermText word := by
    rintro _ hWord
    obtain ⟨name, hName, rfl⟩ := List.mem_map.mp hWord
    obtain ⟨hTyped, hOr⟩ := hNames name hName
    exact ⟨hTyped.ne_nil, (hTyped.isPlain hOr).isTermText hTyped.toIsName⟩
  have hWords : Text.words text = ws.map String.toList :=
    hSpaced.map_wordsAt
      (fun word hWord => ⟨(hTerms word hWord).1, (hTerms word hWord).2.noSeparator⟩) 0
  have hPlain : ∀ name ∈ ws, IsPlain name.toList :=
    fun name hName => (hNames name hName).1.isPlain (hNames name hName).2
  refine parse_of_words hWords (fun word hWord => (hTerms word hWord).2) ?_
  have hNothing : Reads false [] {} := .nil
  simpa using hNothing.included_append hPlain

/-- A name without a mark is a list of one. -/
theorem parse_included {name : String} (h : Tag.IsTyped name) (hOr : name ≠ orWord) :
    parse name = .ok { included := [name] } := by
  have hAlone : Text.Spaced [name.toList] (name.toList ++ []) := .word (by simp) .nil
  rw [List.append_nil] at hAlone
  exact parse_spaced hAlone (by simp [h, hOr])

end Query

end MediaLibrary
