import Mathlib.Data.List.Forall2
import MediaLibrary.Proofs.Basic
import MediaLibrary.Proofs.Text.Trim
import MediaLibrary.Text.Collation

/-!
# Text — names as the store compares them

Names that differ in the case of `A` to `Z` at most are one name to the store, and as long as
one of two names has no NUL the converse holds as well. Two names with a NUL are one just if they
are alike up to there and have as many bytes in all; this is also how names come one before the
other. What the store makes of a name to compare it says just this.

* `IsFront` — what stands in front of the first NUL;
* `OneName`, `NameBefore` — names that are one, and the order of names;
* `oneName_iff`, `nameBefore_iff` — what the store compares of names;
* `oneName_iff_fold_eq` — without a NUL nothing matters but letter case.
-/

namespace MediaLibrary.Text

-- ---------------------------------------------------------------------------
-- Names
-- ---------------------------------------------------------------------------

/-- Two characters that differ at most in the case of `A` to `Z`. -/
def SameChar (c d : Char) : Prop :=
  c.toLower = d.toLower

instance (c d : Char) : Decidable (SameChar c d) :=
  inferInstanceAs (Decidable (_ = _))

/-- What stands in front of the first NUL, or all there is if there is no NUL. -/
structure IsFront (front cs : List Char) : Prop where
  nul_notMem : '\x00' ∉ front
  split : cs = front ∨ ∃ rest, cs = front ++ '\x00' :: rest

/-- Two names are one to the store: in front of a NUL they have the same characters, letter case
aside, and both have as many bytes. -/
def OneName (a b : String) : Prop :=
  ∃ front front', IsFront front a.toList ∧ IsFront front' b.toList ∧
    List.Forall₂ SameChar front front' ∧ a.utf8ByteSize = b.utf8ByteSize

/-- One name comes before another one in the store: by the characters in front of a NUL, letter case
aside, and then by the number of bytes. -/
def NameBefore (a b : String) : Prop :=
  ∃ front front', IsFront front a.toList ∧ IsFront front' b.toList ∧
    (front.map Char.toLower < front'.map Char.toLower ∨
      (List.Forall₂ SameChar front front' ∧ a.utf8ByteSize < b.utf8ByteSize))

-- ---------------------------------------------------------------------------
-- Letter case
-- ---------------------------------------------------------------------------

theorem forall₂_sameChar_iff {cs ds : List Char} :
    List.Forall₂ SameChar cs ds ↔ cs.map Char.toLower = ds.map Char.toLower := by
  rw [← List.forall₂_eq_eq_eq, List.forall₂_map_left_iff, List.forall₂_map_right_iff]
  rfl

/-- No letter is a NUL, in lower case or not. -/
theorem toLower_bne_nul (c : Char) : (c.toLower != '\x00') = (c != '\x00') := by
  cases h : c.isUpper with
  | false => rw [toLower_of_not_isUpper h]
  | true =>
    have hUpper : 0x41 ≤ c.toNat ∧ c.toNat ≤ 0x5a := of_decide_eq_true h
    have hNot (d : Char) (hd : 0x41 ≤ d.toNat) : (d != '\x00') = true := by
      rw [bne_iff_ne]
      rintro rfl
      exact absurd hd (by decide)
    rw [hNot c hUpper.1, hNot c.toLower (by rw [toNat_toLower_of_isUpper h]; omega)]

/-- A letter takes one byte, in lower case or not. -/
theorem utf8Size_toLower (c : Char) : c.toLower.utf8Size = c.utf8Size := by
  cases h : c.isUpper with
  | false => rw [toLower_of_not_isUpper h]
  | true =>
    have hUpper : 0x41 ≤ c.toNat ∧ c.toNat ≤ 0x5a := of_decide_eq_true h
    have hOne (d : Char) (hd : d.toNat ≤ 0x7f) : d.utf8Size = 1 :=
      Char.utf8Size_eq_one_iff.mpr (UInt32.le_iff_toNat_le.mpr hd)
    rw [hOne c (by omega), hOne c.toLower (by rw [toNat_toLower_of_isUpper h]; omega)]

/-- Letter case has no part in where a name is read up to. -/
theorem readable_map_toLower (cs : List Char) :
    readable (cs.map Char.toLower) = (readable cs).map Char.toLower := by
  have hSame : (· != '\x00') ∘ Char.toLower = (· != '\x00') := funext toLower_bne_nul
  rw [readable, readable, List.takeWhile_map, hSame]

theorem unread_map_toLower (cs : List Char) :
    unread (cs.map Char.toLower) = (unread cs).map Char.toLower := by
  have hSame : (· != '\x00') ∘ Char.toLower = (· != '\x00') := funext toLower_bne_nul
  rw [unread, unread, List.dropWhile_map, hSame]

theorem byteSize_map_toLower (cs : List Char) : byteSize (cs.map Char.toLower) = byteSize cs := by
  have hSame : Char.utf8Size ∘ Char.toLower = Char.utf8Size := funext utf8Size_toLower
  rw [byteSize, byteSize, List.map_map, hSame]

-- ---------------------------------------------------------------------------
-- NUL
-- ---------------------------------------------------------------------------

/-- What is read and what is left make up the text. -/
theorem readable_append_unread (cs : List Char) : readable cs ++ unread cs = cs :=
  List.takeWhile_append_dropWhile

/-- What is read has no NUL. -/
theorem nul_notMem_readable (cs : List Char) : '\x00' ∉ readable cs := by
  intro h
  have hNot := List.mem_takeWhile_imp h
  simp at hNot

/-- Without a NUL, all of a text is read. -/
theorem readable_eq_self {cs : List Char} (h : '\x00' ∉ cs) : readable cs = cs :=
  takeWhile_ne_all h

/-- Behind a NUL nothing is read, whatever stands there. -/
theorem readable_append {cs : List Char} (h : '\x00' ∈ cs) (rest : List Char) :
    readable (cs ++ rest) = readable cs := by
  rw [readable, readable, List.takeWhile_append, if_neg]
  intro hLength
  have hAll : readable cs = cs := (List.takeWhile_prefix _).eq_of_length hLength
  exact nul_notMem_readable cs (hAll.symm ▸ h)

/-- Bytes add up. -/
theorem byteSize_append (cs ds : List Char) : byteSize (cs ++ ds) = byteSize cs + byteSize ds := by
  induction cs with
  | nil => exact (Nat.zero_add _).symm
  | cons c cs ih =>
    have hCons (es : List Char) : byteSize (c :: es) = c.utf8Size + byteSize es := rfl
    rw [List.cons_append, hCons, hCons, ih, Nat.add_assoc]

/-- The bytes of a text are those of its characters. -/
theorem utf8ByteSize_eq (s : String) : s.utf8ByteSize = byteSize s.toList := by
  have hChars (cs : List Char) : (String.ofList cs).utf8ByteSize = byteSize cs := by
    induction cs with
    | nil => rfl
    | cons c cs ih =>
      have hCons : String.ofList (c :: cs) = String.singleton c ++ String.ofList cs :=
        String.toList_injective (by simp)
      rw [hCons, String.utf8ByteSize_append, String.utf8ByteSize_singleton, ih]
      rfl
  rw [← hChars, String.ofList_toList]

theorem byteSize_eq_zero_iff {cs : List Char} : byteSize cs = 0 ↔ cs = [] := by
  cases cs with
  | nil => simp [byteSize]
  | cons c cs =>
    have hSize := c.utf8Size_pos
    simp only [byteSize, List.map_cons, List.foldr_cons, reduceCtorEq, iff_false]
    omega

/-- Something is left unread just if there is a NUL. -/
theorem unread_eq_nil_iff {cs : List Char} : unread cs = [] ↔ '\x00' ∉ cs := by
  rw [unread, List.dropWhile_eq_nil_iff]
  constructor
  · intro h hNul
    simpa using h _ hNul
  · intro h c hc
    rw [bne_iff_ne]
    rintro rfl
    exact h hc

/-- What stands in front of the first NUL is what the store reads. -/
theorem isFront_iff {front cs : List Char} : IsFront front cs ↔ readable cs = front := by
  constructor
  · rintro ⟨hNul, rfl | ⟨rest, rfl⟩⟩
    · exact readable_eq_self hNul
    · exact takeWhile_ne hNul rest
  · rintro rfl
    refine ⟨nul_notMem_readable cs, ?_⟩
    have hSplit := readable_append_unread cs
    cases hUnread : unread cs with
    | nil =>
      rw [hUnread, List.append_nil] at hSplit
      exact .inl hSplit.symm
    | cons c rest =>
      have hNul : c = '\x00' := by
        have hFirst := List.head?_dropWhile_not (· != '\x00') cs
        rw [← unread, hUnread] at hFirst
        simpa using hFirst
      rw [hUnread, hNul] at hSplit
      exact .inr ⟨rest, hSplit.symm⟩

/-- What is not read are the bytes that are left. -/
theorem byteSize_readable_unread (cs : List Char) :
    byteSize (readable cs) + byteSize (unread cs) = byteSize cs := by
  rw [← byteSize_append, readable_append_unread]

-- ---------------------------------------------------------------------------
-- What is compared
-- ---------------------------------------------------------------------------

variable {a b s : String}

/-- Names are compared by what stands in front of a NUL, and then by how much stands behind. -/
theorem append_replicate_lt_iff {cs ds : List Char} (hc : '\x00' ∉ cs) (hd : '\x00' ∉ ds)
    (m n : Nat) :
    cs ++ List.replicate m '\x00' < ds ++ List.replicate n '\x00' ↔
      cs < ds ∨ (cs = ds ∧ m < n) := by
  have hLeast {c : Char} (h : c ≠ '\x00') : '\x00' < c :=
    UInt32.pos_iff_ne_zero.mpr fun hZero => h (Char.ext hZero)
  induction cs generalizing ds with
  | nil =>
    cases ds with
    | nil =>
      induction m generalizing n with
      | zero => cases n <;> simp [List.replicate_succ]
      | succ m ih => cases n <;> simp_all [List.replicate_succ]
    | cons d ds =>
      have hPos := hLeast (List.ne_of_not_mem_cons hd).symm
      cases m <;> simp [List.replicate_succ, List.cons_lt_cons_iff, hPos]
  | cons c cs ih =>
    have hNotBelow : ¬c < '\x00' := UInt32.not_lt_zero
    cases ds with
    | nil =>
      have hNe : c ≠ '\x00' := (List.ne_of_not_mem_cons hc).symm
      cases n with
      | zero => simp
      | succ n =>
        rw [List.nil_append, List.replicate_succ, List.cons_append, List.cons_lt_cons_iff]
        simp [hNotBelow, hNe]
    | cons d ds =>
      simp only [List.cons_append, List.cons_lt_cons_iff, List.cons.injEq,
        ih (List.not_mem_of_not_mem_cons hc) (List.not_mem_of_not_mem_cons hd)]
      rw [and_or_left, or_assoc, and_assoc]

/-- What is compared of two names is the same just if the store reads the same of them, letter case
aside, and leaves as many bytes of them unread. -/
theorem collated_eq_iff :
    collated a = collated b ↔
      (readable a.toList).map Char.toLower = (readable b.toList).map Char.toLower ∧
        byteSize (unread a.toList) = byteSize (unread b.toList) := by
  constructor
  · intro h
    have hChars := congrArg String.toList h
    rw [collated, collated, String.toList_ofList, String.toList_ofList] at hChars
    -- what is read holds no NUL, so it ends where the NULs begin
    have hRead (s : String) : readable ((readable s.toList).map Char.toLower
        ++ List.replicate (byteSize (unread s.toList)) '\x00') =
          (readable s.toList).map Char.toLower := by
      refine takeWhile_run (fun c hc => ?_) (fun c hc => ?_)
      · rw [← readable_map_toLower] at hc
        exact List.mem_takeWhile_imp (p := (· != '\x00')) hc
      · have hNul := List.eq_of_mem_replicate (List.mem_of_mem_head? hc)
        rw [hNul]
        rfl
    have hFront := congrArg readable hChars
    rw [hRead, hRead] at hFront
    refine ⟨hFront, ?_⟩
    rw [hFront] at hChars
    simpa using congrArg List.length (List.append_cancel_left hChars)
  · rintro ⟨hFront, hSize⟩
    rw [collated, collated, hFront, hSize]

/-- Where two names are read alike, they have as many bytes just if as many are left. -/
theorem byteSize_unread_lt_iff
    (h : (readable a.toList).map Char.toLower = (readable b.toList).map Char.toLower) :
    byteSize (unread a.toList) < byteSize (unread b.toList) ↔ a.utf8ByteSize < b.utf8ByteSize := by
  have hRead := congrArg byteSize h
  rw [byteSize_map_toLower, byteSize_map_toLower] at hRead
  rw [utf8ByteSize_eq, utf8ByteSize_eq, ← byteSize_readable_unread a.toList,
    ← byteSize_readable_unread b.toList]
  omega

/-- What is compared of a name is the same for the names that are one. -/
theorem oneName_iff : OneName a b ↔ collated a = collated b := by
  simp only [OneName, isFront_iff, exists_eq_left', exists_and_left, forall₂_sameChar_iff,
    collated_eq_iff]
  refine and_congr_right fun hFront => ?_
  have hLess := byteSize_unread_lt_iff hFront
  have hMore := byteSize_unread_lt_iff hFront.symm
  omega

/-- Its order is the one of names. -/
theorem nameBefore_iff : NameBefore a b ↔ collated a < collated b := by
  have hNul (s : String) : '\x00' ∉ (readable s.toList).map Char.toLower := by
    rw [← readable_map_toLower]
    exact nul_notMem_readable _
  rw [collated, collated, String.lt_iff, String.toList_ofList, String.toList_ofList,
    append_replicate_lt_iff (hNul a) (hNul b)]
  simp only [NameBefore, isFront_iff, exists_eq_left', exists_and_left, forall₂_sameChar_iff]
  exact or_congr_right (and_congr_right fun hFront => (byteSize_unread_lt_iff hFront).symm)

instance (a b : String) : Decidable (OneName a b) :=
  decidable_of_iff _ oneName_iff.symm

instance (a b : String) : Decidable (NameBefore a b) :=
  decidable_of_iff _ nameBefore_iff.symm

/-- The store takes two names for one just if they are one. -/
@[simp] theorem sameName_iff : sameName a b = true ↔ OneName a b :=
  beq_iff_eq.trans oneName_iff.symm

-- ---------------------------------------------------------------------------
-- Names that are one
-- ---------------------------------------------------------------------------

/-- A name is one name with itself. -/
theorem OneName.refl (s : String) : OneName s s :=
  oneName_iff.mpr rfl

theorem OneName.symm (h : OneName a b) : OneName b a :=
  oneName_iff.mpr (oneName_iff.mp h).symm

/-- Names that are one with the same name are one name. -/
theorem OneName.trans (h : OneName a b) (h' : OneName b s) : OneName a s :=
  oneName_iff.mpr ((oneName_iff.mp h).trans (oneName_iff.mp h'))

/-- A name is one with what it is in lower case. -/
theorem oneName_fold (s : String) : OneName (fold s) s := by
  have hLower (cs : List Char) : (cs.map Char.toLower).map Char.toLower = cs.map Char.toLower := by
    rw [List.map_map]
    exact List.map_congr_left fun c _ => toLower_of_not_isUpper (not_isUpper_toLower c)
  rw [oneName_iff, collated_eq_iff, toList_fold, readable_map_toLower, unread_map_toLower,
    byteSize_map_toLower, hLower]
  exact ⟨rfl, rfl⟩

/-- Names that differ in letter case at most are one to the store. -/
theorem OneName.of_fold_eq (h : fold a = fold b) : OneName a b :=
  (oneName_fold a).symm.trans (h ▸ oneName_fold b)

/-- A name without a NUL is compared as a whole. -/
theorem collated_eq_fold (h : '\x00' ∉ s.toList) : collated s = fold s := by
  rw [collated, readable_eq_self h, unread_eq_nil_iff.mpr h]
  rw [byteSize_eq_zero_iff.mpr rfl, List.replicate_zero, List.append_nil]
  rfl

/-- Names are one to the store just if they differ in letter case at most, as long as one of them
has no NUL. -/
theorem oneName_iff_fold_eq (h : '\x00' ∉ b.toList) : OneName a b ↔ fold a = fold b := by
  refine ⟨fun hSame => ?_, .of_fold_eq⟩
  have hCompared := oneName_iff.mp hSame
  have hLeft := (collated_eq_iff.mp hCompared).2
  rw [unread_eq_nil_iff.mpr h, byteSize_eq_zero_iff.mpr rfl, byteSize_eq_zero_iff,
    unread_eq_nil_iff] at hLeft
  rw [← collated_eq_fold hLeft, hCompared, collated_eq_fold h]

/-- No other text is one name with the empty one. -/
theorem oneName_empty_iff : OneName s "" ↔ s = "" := by
  rw [oneName_iff_fold_eq List.not_mem_nil, fold_eq_empty_iff.mpr rfl, fold_eq_empty_iff]

-- ---------------------------------------------------------------------------
-- The order of names
-- ---------------------------------------------------------------------------

/-- Names that are put in order one after the other come so, unless they are one. -/
theorem nameBefore_of_le (h : collated a ≤ collated b) (hNot : ¬OneName a b) : NameBefore a b :=
  nameBefore_iff.mpr (String.not_le.mp fun hGe => hNot (oneName_iff.mpr (String.le_antisymm h hGe)))

/-- Of two names one comes first at most. -/
theorem NameBefore.asymm (h : NameBefore a b) : ¬NameBefore b a := by
  rw [nameBefore_iff] at h ⊢
  exact String.lt_asymm h

end MediaLibrary.Text
