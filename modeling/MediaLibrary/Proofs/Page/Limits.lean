import MediaLibrary.Page.Fetch
import MediaLibrary.Proofs.Query.Canonical
import MediaLibrary.Proofs.Selection.Names
import MediaLibrary.Proofs.Selection.Statement
import MediaLibrary.Proofs.Text.Digits
import MediaLibrary.Proofs.Text.LowerCase

/-!
# Page — limits of the store

Three statements are needed for a page, and the store may refuse each of them: the one that counts,
the one that lists, and, if there are rows on the page, the one that looks for what follows. The
last one has the deepest expressions, since its conditions are part of an expression themselves.

* `Page.prepared`, `Page.Accepted`, `Page.Refused` — the statements of a page;
* `Selection.Fits` — the selections all of whose statements are taken;
* `Selection.fits_of_few` — a few hundred conditions always fit;
* `Query.ofNumbers` — queries with as many names as one likes.
-/

namespace MediaLibrary

open Selection

-- ---------------------------------------------------------------------------
-- The statements of a page
-- ---------------------------------------------------------------------------

namespace Page

variable {sel : Selection Condition} {w : Window} {piece : List MediaRow}

/-- The statements for a page with these rows are taken, one after the other. -/
def prepared (sel : Selection Condition) (w : Window) (piece : List MediaRow) : Except Error Unit := do
  (counting sel).prepare
  (listing sel w.anchor).prepare
  match piece.getLast? with
  | some last => (following sel last.id).prepare
  | none => return ()

/-- The store takes the statements for a page with these rows. -/
@[mk_iff]
structure Accepted (sel : Selection Condition) (w : Window) (piece : List MediaRow) : Prop where
  counting : (counting sel).Accepted
  listing : (listing sel w.anchor).Accepted
  following : ∀ last ∈ piece.getLast?, (following sel last.id).Accepted

instance (sel : Selection Condition) (w : Window) (piece : List MediaRow) :
    Decidable (Accepted sel w piece) :=
  decidable_of_iff _ (accepted_iff sel w piece).symm

/-- What the store says of a page with these rows if it does not take one of its statements. -/
def Refused (sel : Selection Condition) (w : Window) (piece : List MediaRow) (e : Error) : Prop :=
  (counting sel).Refused e ∨ (listing sel w.anchor).Refused e ∨
    ∃ last ∈ piece.getLast?, (following sel last.id).Refused e

/-- A page is refused as a fault of the store. -/
theorem Refused.storage {e : Error} (h : Refused sel w piece e) : ∃ fault, e = .storage fault := by
  rcases h with h | h | ⟨_, -, h⟩ <;> exact h.storage

/-- All statements of a page are prepared just if all are accepted. -/
theorem prepared_eq_ok_iff : prepared sel w piece = .ok () ↔ Accepted sel w piece := by
  rw [accepted_iff, ← Statement.prepare_eq_ok_iff, ← Statement.prepare_eq_ok_iff]
  simp only [← Statement.prepare_eq_ok_iff]
  rw [prepared]
  cases (counting sel).prepare with
  | error e => simp [bind, Except.bind]
  | ok _ =>
    cases (listing sel w.anchor).prepare with
    | error e => simp [bind, Except.bind]
    | ok _ => cases piece.getLast? <;> simp [bind, Except.bind, pure, Except.pure]

/-- A page that is refused is refused for one of its statements. -/
theorem prepared_eq_error {e : Error} (h : prepared sel w piece = .error e) :
    Refused sel w piece e := by
  rw [prepared] at h
  cases hCount : (counting sel).prepare with
  | error e' =>
    rw [hCount] at h
    cases h
    exact .inl (Statement.prepare_eq_error hCount)
  | ok _ =>
    rw [hCount] at h
    cases hList : (listing sel w.anchor).prepare with
    | error e' =>
      rw [hList] at h
      cases h
      exact .inr (.inl (Statement.prepare_eq_error hList))
    | ok _ =>
      rw [hList] at h
      cases hLast : piece.getLast? with
      | none =>
        rw [hLast] at h
        cases h
      | some last =>
        rw [hLast] at h
        exact .inr (.inr ⟨last, hLast, Statement.prepare_eq_error h⟩)

/-- Accepted statements do not get in the way of what is read. -/
theorem map_prepared_of_accepted {α : Type} (h : Accepted sel w piece) (a : α) :
    ((prepared sel w piece).map fun _ => a) = .ok a := by
  rw [prepared_eq_ok_iff.mpr h]
  rfl

/-- Otherwise the limit that is met first is told. -/
theorem exists_map_prepared_error {α : Type} (h : ¬Accepted sel w piece) (a : α) :
    ∃ e, ((prepared sel w piece).map fun _ => a) = .error e ∧ Refused sel w piece e := by
  cases hPrepared : prepared sel w piece with
  | error e => exact ⟨e, rfl, prepared_eq_error hPrepared⟩
  | ok _ => exact absurd (prepared_eq_ok_iff.mp hPrepared) h

-- ---------------------------------------------------------------------------
-- How large they are
-- ---------------------------------------------------------------------------

theorem conditions_bounded (sel : Selection Condition) (c : Condition) (p : Param) :
    (sel.bounded c p).conditions = sel.conditions ++ [c] := by
  simp [conditions, bounded]

/-- A count has the places and the levels of its conditions and no others. -/
theorem counting_accepted_iff :
    (counting sel).Accepted ↔
      placeCount sel.conditions ≤ Statement.maxPlaces ∧
        conjunctionLevels sel.conditions + innerLevels sel.conditions ≤ Statement.maxLevels :=
  Iff.rfl

/-- A bound has one place, and is one more condition in the conjunction. -/
theorem bounded_size (sel : Selection Condition) (op : Comparison) (p : Param) :
    placeCount (sel.bounded (.compared .id op) p).conditions = placeCount sel.conditions + 1 ∧
      conjunctionLevels (sel.bounded (.compared .id op) p).conditions =
        conjoined (conjunctionLevels sel.conditions) (.compared .id op) ∧
      innerLevels (sel.bounded (.compared .id op) p).conditions = innerLevels sel.conditions := by
  rw [conditions_bounded, placeCount_append, conjunctionLevels_concat, innerLevels_append]
  exact ⟨rfl, rfl, Nat.max_zero _⟩

end Page

-- ---------------------------------------------------------------------------
-- Selections that fit
-- ---------------------------------------------------------------------------

namespace Selection

variable {sel : Selection Condition}

/-- The store takes every statement for pages of a selection. -/
structure Fits (sel : Selection Condition) : Prop where
  counting : (Page.counting sel).Accepted
  listing : ∀ anchor, (Page.listing sel anchor).Accepted
  following : ∀ id, (Page.following sel id).Accepted

/-- What fits is accepted for every window. -/
theorem Fits.accepted (h : sel.Fits) (w : Window) (piece : List MediaRow) :
    Page.Accepted sel w piece :=
  ⟨h.counting, h.listing w.anchor, fun _ _ => h.following _⟩

/-- How many levels a conjunction has with a bound behind it. -/
def boundedLevels (sel : Selection Condition) : Nat :=
  conjoined (conjunctionLevels sel.conditions) (.compared .id .above)

theorem le_boundedLevels (sel : Selection Condition) :
    conjunctionLevels sel.conditions ≤ sel.boundedLevels :=
  le_conjoined _ _

/-- A list from a bound on takes two places, and is as deep as its conjunction. -/
theorem listed_bounded_accepted_iff (op : Comparison) (p : Param) (order : String) :
    (Page.listed (sel.bounded (.compared .id op) p) order).Accepted ↔
      placeCount sel.conditions + 2 ≤ Statement.maxPlaces ∧
        sel.boundedLevels + innerLevels sel.conditions ≤ Statement.maxLevels := by
  obtain ⟨hCount, hDeep, hInner⟩ := Page.bounded_size sel op p
  rw [Statement.Accepted, Statement.places, Statement.levels, Page.listed, hCount, hDeep]
  simp only [Statement.allLevels, hInner]
  rfl

/-- What looks for more is a conjunction that is counted once by itself and once as it lies within
another expression. -/
theorem following_accepted_iff (id : Int) :
    (Page.following sel id).Accepted ↔
      placeCount sel.conditions + 1 ≤ Statement.maxPlaces ∧
        sel.boundedLevels + 1 + sel.boundedLevels + innerLevels sel.conditions ≤
          Statement.maxLevels := by
  obtain ⟨hCount, hDeep, hInner⟩ := Page.bounded_size sel .above (.int id)
  rw [Statement.Accepted, Statement.places, Statement.levels, Page.following, hCount, hDeep]
  simp only [Statement.allLevels, hInner]
  rfl

/-- Of the statements for pages, the one with an offset has the most places, and the one that looks
for what follows the most levels. -/
theorem fits_iff :
    sel.Fits ↔ placeCount sel.conditions + 2 ≤ Statement.maxPlaces ∧
      sel.boundedLevels + 1 + sel.boundedLevels + innerLevels sel.conditions ≤
        Statement.maxLevels := by
  have hMore := sel.le_boundedLevels
  constructor
  · intro h
    exact ⟨(h.listing (.offset 0)).1, ((following_accepted_iff 0).mp (h.following 0)).2⟩
  · rintro ⟨hPlaces, hLevels⟩
    have hFirst : conjunctionLevels sel.conditions + innerLevels sel.conditions ≤
        Statement.maxLevels := by omega
    have hBound : sel.boundedLevels + innerLevels sel.conditions ≤ Statement.maxLevels := by omega
    refine ⟨Page.counting_accepted_iff.mpr ⟨by omega, hFirst⟩, fun anchor => ?_,
      fun id => (following_accepted_iff id).mpr ⟨by omega, hLevels⟩⟩
    cases anchor with
    | first =>
      have hPlace : placeCount sel.conditions + 1 ≤ Statement.maxPlaces := by omega
      exact ⟨hPlace, hFirst⟩
    | offset n => exact ⟨hPlaces, hFirst⟩
    | after a => exact (listed_bounded_accepted_iff .above (.int a) "ASC").mpr ⟨hPlaces, hBound⟩
    | before b => exact (listed_bounded_accepted_iff .below (.int b) "DESC").mpr ⟨hPlaces, hBound⟩

instance (sel : Selection Condition) : Decidable sel.Fits :=
  decidable_of_iff _ fits_iff.symm

/-- Whether what comes from a search fits can be decided from the search. -/
theorem fits_of_compile {q : Query} {f : Filters} (hSel : compile q f = .ok sel)
    (h : (compile q f).toOption.any (fun sel => decide sel.Fits) = true) : sel.Fits := by
  rw [hSel] at h
  exact of_decide_eq_true h

/-- A selection of at most 491 conditions fits, if its parameters leave room for two more. -/
theorem fits_of_few (hConditions : sel.conditions.length ≤ 491)
    (hPlaces : placeCount sel.conditions + 2 ≤ Statement.maxPlaces) : sel.Fits := by
  have hLevels := conjunctionLevels_le sel.conditions
  have hInner := innerLevels_le sel.conditions
  have hBound : sel.boundedLevels ≤ sel.conditions.length + 6 := by
    simp only [boundedLevels, conjoined, Condition.levels]
    split <;> omega
  have hRoom : Statement.maxLevels = 1000 := rfl
  rw [fits_iff]
  omega

end Selection

-- ---------------------------------------------------------------------------
-- Queries with many names
-- ---------------------------------------------------------------------------

/-- A number as the name of a tag. -/
def Tag.numberName (n : Nat) : String :=
  String.ofList (Nat.toDigits 10 n)

namespace Tag

theorem toList_numberName (n : Nat) : (numberName n).toList = Nat.toDigits 10 n :=
  String.toList_ofList

theorem toNat_of_mem_numberName {n : Nat} {c : Char} (hc : c ∈ (numberName n).toList) :
    0x30 ≤ c.toNat ∧ c.toNat ≤ 0x39 := by
  rw [toList_numberName] at hc
  have hDigit := Text.isDigit_of_mem_toDigits hc
  simpa [Char.isDigit, UInt32.le_iff_toNat_le] using hDigit

/-- A number is a valid name. -/
theorem isName_numberName (n : Nat) : IsName (numberName n) where
  ne_nil := by
    rw [toList_numberName]
    exact Nat.toDigits_ne_nil
  chars := by
    intro c hc
    have hDigit := toNat_of_mem_numberName hc
    have hNot (d : Char) (hd : d.toNat < 0x30) : (c != d) = true := by
      rw [bne_iff_ne]
      rintro rfl
      omega
    simp only [isTagChar, Bool.and_eq_true, decide_eq_true_eq]
    exact ⟨⟨⟨by omega, by omega⟩, hNot '*' (by decide)⟩, hNot ',' (by decide)⟩

theorem isPlain_numberName (n : Nat) : Query.IsPlain (numberName n).toList where
  unmarked := by
    intro m hMark
    have hDigit := toNat_of_mem_numberName (List.mem_of_mem_head? hMark)
    cases m <;> exact absurd hDigit (by decide)
  ne_or := by
    intro hOr
    have hMem : 'o' ∈ (numberName n).toList := hOr ▸ by decide
    exact absurd (toNat_of_mem_numberName hMem) (by decide)

/-- Different numbers are different names. -/
theorem numberName_injective : Function.Injective numberName := by
  intro m n h
  have hDigits := congrArg String.toList h
  rw [toList_numberName, toList_numberName] at hDigits
  rw [← Text.digitsValue_toDigits m, hDigits, Text.digitsValue_toDigits]

/-- A number has only one spelling. -/
theorem normalName_numberName (n : Nat) : normalName (numberName n) = numberName n := by
  rw [normalName, (isName_numberName n).trim_eq]
  apply String.toList_injective
  rw [Text.toList_fold]
  refine (List.map_congr_left fun c hc => ?_).trans (List.map_id _)
  have hDigit := toNat_of_mem_numberName hc
  exact Text.toLower_of_not_isUpper (Text.not_isUpper_iff.mpr (by omega))

end Tag

namespace Query

/-- A query that includes the first numbers. -/
def ofNumbers (n : Nat) : Query where
  included := (List.range n).map Tag.numberName

/-- A query of numbers is read back from its text. -/
theorem parse_ofNumbers (n : Nat) : parse (ofNumbers n).text = .ok (ofNumbers n) := by
  have hEach {name : String} (hName : name ∈ (ofNumbers n).included) :
      ∃ k, Tag.numberName k = name := by
    obtain ⟨k, -, hk⟩ := List.mem_map.mp hName
    exact ⟨k, hk⟩
  refine IsCanonical.parse_text ⟨fun name hName => ?_, fun name hName => ?_⟩
  · obtain ⟨k, rfl⟩ := hEach (by simpa [names, ofNumbers] using hName)
    exact Tag.isName_numberName k
  · obtain ⟨k, rfl⟩ := hEach hName
    exact Tag.isPlain_numberName k

/-- Each number is asked for by a condition of its own. -/
theorem compile_ofNumbers (n : Nat) :
    ∃ sel, compile (ofNumbers n) {} = .ok sel ∧
      sel.conditions = List.replicate n .carries := by
  have hForm : normalForm (ofNumbers n).included = (ofNumbers n).included := by
    have hSame : (ofNumbers n).included.map normalName = (ofNumbers n).included := by
      rw [ofNumbers, List.map_map]
      exact List.map_congr_left fun k _ => Tag.normalName_numberName k
    rw [normalForm, hSame]
    exact eraseDups_of_nodup (List.nodup_range.map Tag.numberName_injective)
  have hFull : "" ∉ normalForm (ofNumbers n).included := by
    rw [hForm]
    intro hEmpty
    obtain ⟨k, -, hk⟩ := List.mem_map.mp hEmpty
    exact (Tag.isName_numberName k).ne_nil (by rw [hk]; rfl)
  have hIncluded : normalNames .included (ofNumbers n).included = .ok (ofNumbers n).included :=
    normalNames_eq_ok_iff.mpr ⟨hFull, hForm⟩
  refine ⟨⟨(ofNumbers n).included.map (fun name => clause "include" .carries [.text name])
    ++ [] ++ [] ++ []⟩, ?_, ?_⟩
  · rw [compile, hIncluded]
    rfl
  · simp only [List.append_nil]
    exact List.eq_replicate_iff.mpr ⟨by simp [conditions, ofNumbers], by simp [conditions, clause]⟩

/-- The store does not even count what carries a thousand tags. -/
theorem compile_thousand :
    ∃ sel, compile (ofNumbers 1000) {} = .ok sel ∧
      (Page.counting sel).prepare = .error Statement.tooManyLevels := by
  obtain ⟨sel, hSel, h⟩ := compile_ofNumbers 1000
  refine ⟨sel, hSel, ?_⟩
  have hLevels : conjunctionLevels sel.conditions = 1004 := by
    rw [h]
    exact conjunctionLevels_carries 999
  have hPlaces : placeCount sel.conditions = 1000 := by
    rw [h]
    exact placeCount_carries 1000
  rcases Statement.prepare_cases (Page.counting sel) with ⟨-, hAccepted⟩ | ⟨e, hError, hRefused⟩
  · have hBeyond := (Page.counting_accepted_iff.mp hAccepted).2
    simp only [hLevels, Statement.maxLevels] at hBeyond
    omega
  · rcases hRefused with ⟨hMany, -⟩ | ⟨-, rfl⟩
    · have hFew : (Page.counting sel).places = 1000 := hPlaces
      rw [hFew] at hMany
      exact absurd hMany (by decide)
    · exact hError

end Query

end MediaLibrary
