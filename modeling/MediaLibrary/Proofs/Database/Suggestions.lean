import Mathlib.Data.List.Sort
import MediaLibrary.Proofs.Database.Run
import MediaLibrary.Proofs.Store.Attached
import MediaLibrary.Proofs.Store.Tidy
import MediaLibrary.Proofs.Text.Pattern

/-!
# Database — suggestions

The tags that are suggested are the first ones of all tags that begin like the text, in an
order in which no two of them are level, for no two have one name. The text is looked for
by a pattern, but none of its characters acts as a mark there. A text for which the pattern is too
long is refused, as soon as a tag has to be held against it.

* `Tag.Outranks` — the order of suggestions;
* `Store.Refuses` — texts that are too long;
* `Store.begun` — the tags that begin like a text, ranked;
* `Database.suggest_on` — what is suggested on a sound store;
* `suggestions_of_reachable` — the suggestions of a reachable database.
-/

namespace MediaLibrary

open Database (ready)

-- ---------------------------------------------------------------------------
-- Ranking
-- ---------------------------------------------------------------------------

/-- A tag is suggested before another one: by its use, then by name, in the order that the store has
for names. -/
def Tag.Outranks (a b : Tag) : Prop :=
  b.usageCount < a.usageCount ∨ (a.usageCount = b.usageCount ∧ Text.NameBefore a.name b.name)

instance (a b : Tag) : Decidable (a.Outranks b) := by
  unfold Tag.Outranks
  infer_instance

/-- Of two tags one outranks the other at most. -/
theorem Tag.Outranks.asymm {a b : Tag} (h : a.Outranks b) : ¬b.Outranks a := by
  rcases h with hMore | ⟨hSame, hName⟩
  · rintro (hLess | ⟨hEq, -⟩) <;> omega
  · rintro (hLess | ⟨-, hName'⟩)
    · omega
    · exact hName.asymm hName'

instance : Std.Irrefl Tag.Outranks where
  irrefl _ h := h.asymm h

instance : Std.Antisymm Tag.Outranks where
  antisymm _ _ h h' := absurd h' h.asymm

namespace Store

variable {s : Store}

/-- Suggestions come by use, the most used first, and then by number. -/
theorem suggestedBefore_iff (a b : TagRow) :
    suggestedBefore a b = true ↔ NumberedBefore (-·.usageCount) a b := by
  simp [suggestedBefore, nameLe, NumberedBefore]

/-- The text is too long to look for the tags that begin with it. As a pattern it has more than
fifty thousand bytes, and some tag is held against the pattern. -/
def Refuses (s : Store) (start : String) : Prop :=
  50000 ≤ start.utf8ByteSize + start.toList.countP (· ∈ Text.marks) ∧
    ∃ tag ∈ s.tags, Text.IsTested start tag.name

/-- A pattern is too long and tried on some name just where the store refuses it. -/
theorem refuses_iff {start : String} :
    (decide (Text.Pattern.maxSize < (Text.Pattern.beginning start).utf8ByteSize)
      && s.tags.any fun tag => Text.Pattern.isTested start tag.name) = true ↔ s.Refuses start := by
  rw [Bool.and_eq_true, decide_eq_true_eq, List.any_eq_true, Text.Pattern.utf8ByteSize_beginning]
  simp only [Text.Pattern.isTested_iff, Refuses, Text.Pattern.maxSize, Nat.lt_add_one_iff]

theorem Refuses.ne_empty {start : String} (h : s.Refuses start) : start.isEmpty = false := by
  rw [← Bool.not_eq_true, String.isEmpty_iff]
  rintro rfl
  exact absurd h.1 (by decide)

/-- Only a text with a NUL or with an `@` in the end is ever refused. -/
theorem Refuses.unusual {start : String} (h : s.Refuses start) :
    '\x00' ∈ start.toList ∨ start.toList.getLast? = some '@' := by
  by_contra hUsual
  obtain ⟨hNul, hAt⟩ := not_or.mp hUsual
  obtain ⟨tag, -, front, hFront, hTested⟩ := h.2
  obtain rfl : start.toList = front := by
    rw [← Text.isFront_iff.mp hFront, Text.readable_eq_self hNul]
  rcases hTested with hNothing | ⟨hNul' | hAt', -⟩
  · have hEmpty := h.ne_empty
    rw [String.toList_eq_nil_iff.mp hNothing] at hEmpty
    cases hEmpty
  · exact hNul hNul'
  · exact hAt hAt'

/-- The rows of the tags that begin like a text, as they are ranked. -/
def begun (s : Store) (start : String) : List TagRow :=
  (s.tags.filter fun tag => Text.Pattern.accepts (Text.Pattern.beginning start) tag.name).mergeSort
    suggestedBefore

/-- The tags that are begun are those whose names begin so. -/
theorem mem_begun {start : String} {tag : TagRow} :
    tag ∈ s.begun start ↔ tag ∈ s.tags ∧ Text.Begins tag.name start := by
  rw [begun, (List.mergeSort_perm ..).mem_iff, List.mem_filter, Text.Pattern.accepts_beginning_iff]

/-- Suggestions stand in the order of their ranks. -/
theorem Sound.outranks (h : s.Sound) (start : String) :
    (s.begun start).Pairwise fun a b => a.read.Outranks b.read := by
  refine (pairwise_sorted suggestedBefore_iff (h.tags_names.filter _)).imp ?_
  rintro a b (hLt | ⟨hEq, hName⟩)
  · exact .inl (Int.neg_lt_neg_iff.mp hLt)
  · exact .inr ⟨Int.neg_inj.mp hEq, hName⟩

/-- The tags that are read of these rows are those of the store that begin like the text. -/
theorem Sound.mem_read_begun (h : s.Sound) {start : String} {tag : Tag} :
    tag ∈ (s.begun start).map TagRow.read ↔
      ∃ row ∈ s.tags, row.decode = .ok tag ∧ Text.Begins tag.name start := by
  rw [List.mem_map]
  constructor
  · rintro ⟨row, hRow, rfl⟩
    obtain ⟨hMem, hBegins⟩ := mem_begun.mp hRow
    obtain ⟨c, hc⟩ := h.exists_category hMem
    exact ⟨row, hMem, TagRow.decode_of_code hc, hBegins⟩
  · rintro ⟨row, hMem, hDecode, hBegins⟩
    obtain rfl := TagRow.eq_read hDecode
    exact ⟨row, mem_begun.mpr ⟨hMem, hBegins⟩, rfl⟩

/-- None of them is there twice. -/
theorem Sound.nodup_begun (h : s.Sound) (start : String) :
    (((s.begun start).map TagRow.read).map (·.id)).Nodup := by
  rw [List.map_map]
  refine ((List.mergeSort_perm ..).map _).nodup_iff.mpr (List.pairwise_map.mpr ?_)
  exact (h.tags_ids.filter _).imp Int.ne_of_lt

end Store

-- ---------------------------------------------------------------------------
-- Suggestions
-- ---------------------------------------------------------------------------

namespace Database

open Work

variable {start : String} {limit : Int}

/-- Without room for a suggestion nothing is looked at. -/
theorem suggest_of_nonpos (hLimit : limit ≤ 0) (start : String) (db : Database) :
    (suggest start limit).on db = (.error (.input .suggestionLimit), db) := by
  rw [suggest, if_pos hLimit]
  rfl

/-- Blanks begin no tag. -/
theorem suggest_of_blank (hLimit : 0 < limit) (hBlank : ∀ c ∈ start.toList, Text.isBlank c = true)
    (db : Database) : (suggest start limit).on db = (.ok [], db) := by
  rw [suggest, if_neg (Int.not_le.mpr hLimit), if_pos (Text.trim_isEmpty_iff.mpr hBlank)]
  rfl

/-- A text that is not blank is left when the blanks around it are gone. -/
theorem trim_filled (hStart : ∃ c ∈ start.toList, Text.isBlank c = false) :
    (Text.trim start).isEmpty = false := by
  rw [Bool.eq_false_iff]
  intro hEmpty
  obtain ⟨c, hc, hNot⟩ := hStart
  rw [Text.trim_isEmpty_iff.mp hEmpty c hc] at hNot
  cases hNot

/-- What is too long is refused. -/
theorem suggest_refused {s : Store} (hLimit : 0 < limit)
    (hStart : ∃ c ∈ start.toList, Text.isBlank c = false) (hLong : s.Refuses (Text.trim start)) :
    (suggest start limit).on (ready s) = (.error (.storage .patternTooLong), ready s) := by
  have hTested := Store.refuses_iff.mpr hLong
  rw [suggest, if_neg (Int.not_le.mpr hLimit)]
  simp only [trim_filled hStart, Bool.false_eq_true, ↓reduceIte, on_bind, on_lock, on_tables,
    hTested]
  rfl

/-- What is not refused suggests the tags that are begun, up to the limit. -/
theorem suggest_on {s : Store} (h : s.Sound) (hLimit : 0 < limit)
    (hStart : ∃ c ∈ start.toList, Text.isBlank c = false) (hShort : ¬s.Refuses (Text.trim start)) :
    (suggest start limit).on (ready s) =
      (.ok (((s.begun (Text.trim start)).map TagRow.read).take (min limit maxSuggestions).toNat),
        ready s) := by
  have hTested := Bool.eq_false_iff.mpr (mt Store.refuses_iff.mp hShort)
  have hDecode : ∀ tag ∈ (s.begun (Text.trim start)).take (min limit maxSuggestions).toNat,
      tag.decode = .ok tag.read := by
    intro tag hTag
    obtain ⟨c, hc⟩ := h.exists_category (Store.mem_begun.mp (List.mem_of_mem_take hTag)).1
    exact TagRow.decode_of_code hc
  rw [suggest, if_neg (Int.not_le.mpr hLimit)]
  simp only [trim_filled hStart, Bool.false_eq_true, ↓reduceIte, on_bind, on_lock, on_tables,
    hTested, on_ofExcept]
  rw [← List.map_take, ← mapM_decode hDecode]
  rfl

/-- Suggesting fails without room, or for a text that is too long to look for, and only then. -/
theorem suggest_eq_error_iff {s : Store} (h : s.Sound) {e : Error} {db' : Database} :
    (suggest start limit).on (ready s) = (.error e, db') ↔ db' = ready s ∧
      ((limit ≤ 0 ∧ e = .input .suggestionLimit) ∨
        (0 < limit ∧ s.Refuses (Text.trim start) ∧ e = .storage .patternTooLong)) := by
  by_cases hLimit : limit ≤ 0
  · rw [suggest_of_nonpos hLimit]
    simp only [Prod.mk.injEq, Except.error.injEq, hLimit, Int.not_lt.mpr hLimit, true_and,
      false_and, or_false, eq_comm, and_comm]
  have hRoom : 0 < limit := Int.not_le.mp hLimit
  by_cases hLong : s.Refuses (Text.trim start)
  · have hStart : ∃ c ∈ start.toList, Text.isBlank c = false := by
      by_contra hBlank
      have hEmpty := hLong.ne_empty
      rw [Text.trim_isEmpty_iff.mpr (by simpa using hBlank)] at hEmpty
      cases hEmpty
    rw [suggest_refused hRoom hStart hLong]
    simp only [Prod.mk.injEq, Except.error.injEq, hLimit, hRoom, hLong, true_and, false_and,
      false_or, eq_comm, and_comm]
  · obtain ⟨tags, hOn⟩ : ∃ tags, (suggest start limit).on (ready s) = (.ok tags, ready s) := by
      by_cases hBlank : ∀ c ∈ start.toList, Text.isBlank c = true
      · exact ⟨_, suggest_of_blank hRoom hBlank _⟩
      · exact ⟨_, suggest_on h hRoom (by simpa using hBlank) hLong⟩
    simp [hOn, hLimit, hLong]

end Database

/-- In every reachable database suggesting changes nothing. It fails where there is no room for a
suggestion, and where the text is too long to look for, which only a text with a NUL or with an `@`
in the end ever is. A text of blanks begins no tag. For any other one, the tags that begin like it
are ranked, all of them and each once, the most used first and those that are used alike by their
names; there is one such ranking, and its first tags are suggested, as many as there is room for and
never more than a hundred. A tag begins like a text if it begins with its very characters, the
blanks around them and the case of `A` to `Z` aside, up to a NUL. -/
theorem suggestions_of_reachable {db : Database} (h : db.Reachable) (start : String) (limit : Int) :
    ∃ s, db.store = some s ∧
      (∀ e db', (Database.suggest start limit).on db = (.error e, db') ↔ db' = db ∧
        ((limit ≤ 0 ∧ e = .input .suggestionLimit) ∨
          (0 < limit ∧ s.Refuses (Text.trim start) ∧ e = .storage .patternTooLong))) ∧
      (s.Refuses (Text.trim start) →
        '\x00' ∈ (Text.trim start).toList ∨ (Text.trim start).toList.getLast? = some '@') ∧
      (0 < limit → (∀ c ∈ start.toList, Text.isBlank c = true) →
        (Database.suggest start limit).on db = (.ok [], db)) ∧
      (0 < limit → (∃ c ∈ start.toList, Text.isBlank c = false) → ¬s.Refuses (Text.trim start) →
        ∃ ranked, (Database.suggest start limit).on db =
            (.ok (ranked.take (min limit 100).toNat), db) ∧
          (∀ tag, tag ∈ ranked ↔
            ∃ row ∈ s.tags, row.decode = .ok tag ∧ Text.Begins tag.name (Text.trim start)) ∧
          ranked.Pairwise Tag.Outranks ∧
          (ranked.map (·.id)).Nodup ∧
          ∀ other : List Tag, (∀ tag, tag ∈ other ↔ tag ∈ ranked) →
            other.Pairwise Tag.Outranks → other = ranked) := by
  obtain ⟨s, rfl, hSound⟩ := h.sound
  refine ⟨s, rfl, fun e db' => Database.suggest_eq_error_iff hSound, fun hLong => hLong.unusual,
    fun hLimit hBlank => Database.suggest_of_blank hLimit hBlank _, fun hLimit hStart hShort => ?_⟩
  have hRanked : ((s.begun (Text.trim start)).map TagRow.read).Pairwise Tag.Outranks :=
    List.pairwise_map.mpr (hSound.outranks _)
  exact ⟨_, Database.suggest_on hSound hLimit hStart hShort, fun tag => hSound.mem_read_begun,
    hRanked, hSound.nodup_begun _,
    fun other hSame hPairwise => hPairwise.eq_of_mem_iff hRanked hSame⟩

/-- A library of tags whose names hold the marks of patterns. -/
def Database.markedTags : Database :=
  Database.afterAll [(.createMedia (.image "a"), 1),
    (.addTags 1 [⟨"axy", .general⟩], 2), (.createTag ⟨"a%_", .general⟩, 3),
    (.addTags 1 [⟨"A%z", .artist⟩], 4), (.createTag ⟨"a\\%", .metadata⟩, 5)]
    ((Database.prepare 0).after {})

/-- The sign in the text is looked for as itself. Of the two names that begin with it the one that
is used comes first, in whatever case it is stored. -/
theorem suggestions_of_markedTags :
    Database.markedTags.Reachable ∧ (∃ c ∈ " a%".toList, Text.isBlank c = false) ∧
      (Database.suggest " a%" 9).on Database.markedTags =
        (.ok [⟨3, "A%z", .artist, 1, 4⟩, ⟨2, "a%_", .general, 0, 3⟩], Database.markedTags) ∧
      (Database.suggest " a%" 0).on Database.markedTags =
        (.error (.input .suggestionLimit), Database.markedTags) ∧
      (Database.suggest "\u3000" 9).on Database.markedTags = (.ok [], Database.markedTags) := by
  have hReachable : Database.markedTags.Reachable := .afterAll (.prepared 0) _
  have hStart : ∃ c ∈ " a%".toList, Text.isBlank c = false := ⟨'a', by decide, by decide⟩
  have hTrim : Text.trim " a%" = "a%" := by decide +kernel
  have hTags : Database.markedTags.store.map (·.tags) = some [⟨1, "axy", 0, 1, 2⟩,
      ⟨2, "a%_", 0, 0, 3⟩, ⟨3, "A%z", 2, 1, 4⟩, ⟨4, "a\\%", 1, 0, 5⟩] := by
    decide +kernel
  obtain ⟨s, hStore, -, -, -, hRanked⟩ := suggestions_of_reachable hReachable " a%" 9
  have hShort : ¬s.Refuses (Text.trim " a%") := fun hLong => absurd hLong.1 (by decide +kernel)
  obtain ⟨ranked, hOn, hMem, -, -, hUnique⟩ := hRanked (by decide) hStart hShort
  rw [hStore, Option.map_some, Option.some_inj] at hTags
  have hTwo : [⟨3, "A%z", .artist, 1, 4⟩, ⟨2, "a%_", .general, 0, 3⟩] = ranked := by
    refine hUnique _ (fun tag => ?_) (by decide +kernel)
    rw [hMem, hTags, hTrim]
    simp only [List.mem_cons, List.not_mem_nil, or_false]
    constructor
    · rintro (rfl | rfl)
      · exact ⟨_, .inr (.inr (.inl rfl)), rfl, by decide +kernel⟩
      · exact ⟨_, .inr (.inl rfl), rfl, by decide +kernel⟩
    · rintro ⟨row, hRow, hDecode, hBegins⟩
      obtain rfl := TagRow.eq_read hDecode
      rcases hRow with rfl | rfl | rfl | rfl
      · exact absurd hBegins (by decide +kernel)
      · exact .inr rfl
      · exact .inl rfl
      · exact absurd hBegins (by decide +kernel)
  subst hTwo
  refine ⟨hReachable, hStart, hOn, ?_, ?_⟩
  · obtain ⟨_, -, hFaults, -⟩ := suggestions_of_reachable hReachable " a%" 0
    exact (hFaults _ _).mpr ⟨rfl, .inl ⟨by decide, rfl⟩⟩
  · obtain ⟨_, -, -, -, hBlank, -⟩ := suggestions_of_reachable hReachable "\u3000" 9
    exact hBlank (by decide) (List.all_eq_true.mp (by decide +kernel))

/-- A name that begins in another way is suggested for a text with a NUL, behind the one that the
text is. -/
theorem suggestions_of_hiddenNames :
    Database.hiddenNames.Reachable ∧ Text.trim "a\x00z" = "a\x00z" ∧
      (∃ tags, (Database.suggest "a\x00z" 9).on Database.hiddenNames =
          (.ok tags, Database.hiddenNames) ∧
        tags.map (·.name) = ["a\x00z", "a\x00ab"]) ∧
      ¬(Text.fold "a\x00z").toList <+: (Text.fold "a\x00ab").toList := by
  obtain ⟨s, hReady, hSound⟩ := Database.reachable_hiddenNames.sound
  have hStart : ∃ c ∈ "a\x00z".toList, Text.isBlank c = false := ⟨'a', by decide, by decide⟩
  have hTrim : Text.trim "a\x00z" = "a\x00z" := by decide +kernel
  have hFound := Database.holds_of_ready hReady (fun s =>
    (s.tags.filter fun tag =>
      Text.Pattern.accepts (Text.Pattern.beginning "a\x00z") tag.name) =
        [⟨1, "a\x00ab", 0, 1, 2⟩, ⟨2, "a\x00z", 0, 1, 2⟩]) (by decide +kernel)
  have hShort : ¬s.Refuses (Text.trim "a\x00z") := fun hLong => absurd hLong.1 (by decide +kernel)
  have hOn := Database.suggest_on hSound (show (0 : Int) < 9 by decide) hStart hShort
  rw [hTrim, Store.begun, hFound, mergeSort_pair, if_neg (by decide +kernel), ← hReady] at hOn
  exact ⟨Database.reachable_hiddenNames, hTrim, ⟨_, hOn, rfl⟩, by decide +kernel⟩

end MediaLibrary
