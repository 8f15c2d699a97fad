import MediaLibrary.Json.Codec
import MediaLibrary.Proofs.Json.Written

/-!
# Json — faithful codecs

A codec is faithful about the values that fit if it loses none of them and makes no
others: what it writes of one it reads as the same value, and nothing that it reads
is a value that does not fit. What fits is what the number types of a record can
hold. Faithfulness goes from the parts of a value to the value, and of a record only
its members have to be looked at.

* `Codec.Faithful`, `Codec.Faithful.readText_compact`, `readText_pretty` — the law;
* `Codec.int64_faithful`, … — scalars;
* `Codec.Faithful.optional`, `Codec.Faithful.list` — values of parts;
* `Member.of_faithful`, `Codec.record_faithful` — records.
-/

namespace MediaLibrary.Json

variable {α β : Type}

/-- What the codec writes of a value that fits it reads as this value, and all that it reads
fits. -/
structure Codec.Faithful (codec : Codec α) (fits : α → Prop) : Prop where
  isExact : ∀ a, fits a → (codec.write a).isExact = true
  read_write : ∀ a, fits a → codec.read (codec.write a).node = .ok a
  fits_of_read : ∀ node a, codec.read node = .ok a → fits a

/-- The codec is faithful about all values. -/
def Codec.Lossless (codec : Codec α) : Prop :=
  codec.Faithful fun _ => True

namespace Codec.Faithful

variable {codec : Codec α} {fits : α → Prop}

theorem readText_compact (h : codec.Faithful fits) {a : α} (ha : fits a) :
    codec.readText (codec.write a).compact = .ok a := by
  rw [Codec.readText, decodeText, Json.readText_compact (h.isExact a ha), h.read_write a ha]
  rfl

theorem readText_pretty (h : codec.Faithful fits) {a : α} (ha : fits a) :
    codec.readText (codec.write a).pretty = .ok a := by
  rw [Codec.readText, decodeText, Json.readText_pretty (h.isExact a ha), h.read_write a ha]
  rfl

/-- A text is read as a value in range, or not at all. -/
theorem fits_of_readText (h : codec.Faithful fits) {s : String} {a : α}
    (hRead : codec.readText s = .ok a) : fits a := by
  obtain ⟨a', hValue, hEnd⟩ := exists_of_bind hRead
  have hSame : a' = a := by
    split at hEnd
    · exact Except.ok.inj hEnd
    · cases hEnd
  exact hSame ▸ h.fits_of_read _ _ hValue

end Codec.Faithful

-- ---------------------------------------------------------------------------
-- Scalars
-- ---------------------------------------------------------------------------

/-- A whole number within the bounds is read as itself. -/
theorem Decoder.whole_ofInt {low high n : Int} (hLow : low ≤ n) (hHigh : n ≤ high)
    (hMin : Text.int64Min ≤ n) (hMax : n ≤ Text.nat64Max) :
    Decoder.whole low high (.number (.ofInt n)) = .ok n := by
  simp [Decoder.whole, quantity_ofInt hMin hMax, hLow, hHigh]

/-- A whole number that is read is within the bounds. -/
theorem Decoder.bounds_of_whole {low high n : Int} {node : Node}
    (h : Decoder.whole low high node = .ok n) : low ≤ n ∧ n ≤ high := by
  cases node with
  | number numeral =>
    simp only [Decoder.whole] at h
    split at h
    · split at h
      · rename_i hBounds
        cases h
        simpa using hBounds
      · cases h
    · cases h
    · cases h
  | _ => cases h

namespace Codec

/-- Numbers of 64 bits with a sign come back as they were written. -/
theorem int64_faithful : int64.Faithful fun n => Text.fitsInt64 n = true where
  isExact _ _ := rfl
  read_write n hn := by
    rw [Text.fitsInt64, Bool.and_eq_true, decide_eq_true_iff, decide_eq_true_iff] at hn
    have hMax : Text.int64Max ≤ Text.nat64Max := by decide
    exact Decoder.whole_ofInt hn.1 hn.2 hn.1 (Int.le_trans hn.2 hMax)
  fits_of_read _ n h := by
    have hBounds := Decoder.bounds_of_whole h
    rw [Text.fitsInt64, Bool.and_eq_true, decide_eq_true_iff, decide_eq_true_iff]
    exact hBounds

theorem nat64_faithful : nat64.Faithful fun n => n ≤ Text.nat64Max where
  isExact _ _ := rfl
  read_write n hn := by
    have hRead : Decoder.whole 0 Text.nat64Max (.number (.ofInt n)) = .ok (n : Int) :=
      Decoder.whole_ofInt (by omega) (by omega) (by simp [Text.int64Min]) (by omega)
    exact congrArg (fun x : Except Fault Int => x.map Int.toNat) hRead
  fits_of_read _ n h := by
    obtain ⟨m, hRead, rfl⟩ := exists_of_map h
    have hBounds := Decoder.bounds_of_whole hRead
    omega

/-- A flag comes back from its word. -/
theorem boolean_lossless : boolean.Lossless where
  isExact _ _ := rfl
  read_write _ _ := rfl
  fits_of_read _ _ _ := trivial

/-- A text comes back whatever characters it has. -/
theorem text_lossless : text.Lossless where
  isExact _ _ := rfl
  read_write _ _ := rfl
  fits_of_read _ _ _ := trivial

/-- A character comes back from a text of one character. -/
theorem character_lossless : character.Lossless where
  isExact _ _ := rfl
  read_write c _ := by
    simp [character, node, Decoder.character, Decoder.string, bind, Except.bind]
  fits_of_read _ _ _ := trivial

/-- Values whose text form is read back. -/
theorem readable_lossless {write : α → List Char} {read? : List Char → Option α}
    (h : ∀ a, read? (write a) = some a) : (readable write read?).Lossless where
  isExact _ _ := rfl
  read_write a _ := by
    simp [readable, node, Decoder.readable, Decoder.string, h, bind, Except.bind]
  fits_of_read _ _ _ := trivial

/-- Values whose names stand for them. -/
theorem named_lossless {names : List (String × α)} {name : α → String}
    (h : ∀ a, Json.named names (name a) = .ok a) : (named names name).Lossless where
  isExact _ _ := rfl
  read_write a _ := h a
  fits_of_read _ _ _ := trivial

end Codec

-- ---------------------------------------------------------------------------
-- Values of parts
-- ---------------------------------------------------------------------------

/-- What is not `null` is read as a value that is there. -/
theorem Decoder.optional_of_ne {value : Decoder α} {node : Node} (h : node ≠ .null) :
    Decoder.optional value node = (value node).map some := by
  cases node <;> first | rfl | exact absurd rfl h

namespace Codec.Faithful

variable {codec : Codec α} {fits : α → Prop}

/-- An absent value is written as `null`, so no present one may be. -/
theorem optional (h : codec.Faithful fits) (hNull : ∀ a, (codec.write a).node ≠ .null) :
    (Codec.optional codec).Faithful fun o => ∀ a ∈ o, fits a where
  isExact o ho := by
    cases o with
    | none => rfl
    | some a => exact h.isExact a (ho a rfl)
  read_write o ho := by
    cases o with
    | none => rfl
    | some a =>
      have hRead : codec.read (codec.write a).node = .ok a := h.read_write a (ho a rfl)
      calc Decoder.optional codec.read (codec.write a).node
          = (codec.read (codec.write a).node).map some := Decoder.optional_of_ne (hNull a)
        _ = .ok (some a) := by rw [hRead]; rfl
  fits_of_read node o hRead := by
    rintro a rfl
    by_cases hNode : node = .null
    · subst hNode
      cases hRead
    · obtain ⟨a', hValue, hSame⟩ := exists_of_map ((Decoder.optional_of_ne hNode).symm.trans hRead)
      cases hSame
      exact h.fits_of_read node a hValue

/-- A list comes back if each item does. -/
theorem list (h : codec.Faithful fits) :
    (Codec.list codec).Faithful fun as => ∀ a ∈ as, fits a where
  isExact as has := by
    refine areExact_iff.mpr fun item hItem => ?_
    obtain ⟨a, ha, rfl⟩ := List.mem_map.mp hItem
    exact h.isExact a (has a ha)
  read_write as has := by
    have hRead : (nodes (as.map codec.write)).mapM codec.read = .ok as := by
      induction as with
      | nil => rfl
      | cons a as ih =>
        rw [List.map_cons, nodes, List.mapM_cons, h.read_write a (has a (List.mem_cons_self ..)),
          ih fun a ha => has a (List.mem_cons_of_mem _ ha)]
        rfl
    change (do
      let as ← (nodes (as.map codec.write)).mapM codec.read
      Close.closed.endItems
      return as) = _
    rw [hRead]
    rfl
  fits_of_read node as hRead := by
    cases node with
    | array items close =>
      obtain ⟨as', hItems, hEnd⟩ := exists_of_bind hRead
      obtain ⟨_, -, hSame⟩ := exists_of_bind hEnd
      cases hSame
      exact mapM_keeps h.fits_of_read hItems
    | _ => cases hRead

/-- Faithfulness depends on the range as a property only. -/
theorem congr {fits' : α → Prop} (h : codec.Faithful fits) (hSame : ∀ a, fits a ↔ fits' a) :
    codec.Faithful fits' where
  isExact a ha := h.isExact a ((hSame a).mpr ha)
  read_write a ha := h.read_write a ((hSame a).mpr ha)
  fits_of_read node a hRead := (hSame a).mp (h.fits_of_read node a hRead)

end Codec.Faithful

namespace Codec.Lossless

variable {codec : Codec α}

theorem optional (h : codec.Lossless) (hNull : ∀ a, (codec.write a).node ≠ .null) :
    (Codec.optional codec).Lossless :=
  (Faithful.optional h hNull).congr fun _ => by simp

theorem list (h : codec.Lossless) : (Codec.list codec).Lossless :=
  (Faithful.list h).congr fun _ => by simp

end Codec.Lossless

-- ---------------------------------------------------------------------------
-- Records
-- ---------------------------------------------------------------------------

/-- Reading the field into a record that fits gives one that fits. -/
def Field.Keeps (field : Field α) (fits : α → Prop) : Prop :=
  ∀ a node a', fits a → field.read a node = .ok a' → fits a'

/-- Members read by position keep what each of them keeps. -/
theorem readFields_keeps {fits : α → Prop} {fields : List (Field α)}
    (hFields : ∀ field ∈ fields, field.Keeps fits) {a a' : α} {items : List Node} {close : Close}
    (ha : fits a) (h : readFields a fields items close = .ok a') : fits a' := by
  induction fields generalizing a items with
  | nil =>
    rw [readFields] at h
    split at h
    · obtain ⟨_, -, hSame⟩ := exists_of_bind h
      cases hSame
      exact ha
    · cases h
  | cons field fields ih =>
    obtain ⟨hField, hFields⟩ := List.forall_mem_cons.mp hFields
    cases items with
    | nil =>
      obtain ⟨_, -, hLeftOut⟩ := exists_of_bind h
      split at hLeftOut
      · cases hLeftOut
        exact ha
      · cases hLeftOut
    | cons item items =>
      obtain ⟨b, hRead, hRest⟩ := exists_of_bind h
      exact ih hFields (hField a item b ha hRead) hRest

theorem readMember_keeps {fits : α → Prop} {fields : List (Field α)}
    (hFields : ∀ field ∈ fields, field.Keeps fits) {state state' : α × List Nat}
    {member : Except Fault String × Node} (ha : fits state.1)
    (h : readMember fields state member = .ok state') : fits state'.1 := by
  obtain ⟨key, -, h⟩ := exists_of_bind h
  cases hIndex : fieldIndex? fields key with
  | none =>
    rw [hIndex] at h
    obtain ⟨_, -, hSame⟩ := exists_of_bind h
    cases hSame
    exact ha
  | some i =>
    simp only [hIndex] at h
    split at h
    · cases h
    · cases hField : fields[i]? with
      | none =>
        rw [hField] at h
        cases h
        exact ha
      | some field =>
        rw [hField] at h
        obtain ⟨b, hRead, hSame⟩ := exists_of_bind h
        cases hSame
        exact hFields field (List.mem_of_getElem? hField) _ _ b ha hRead

/-- A record is in range if each of its fields keeps it there. -/
theorem Decoder.record_keeps {fits : α → Prop} {fields : List (Field α)}
    (hFields : ∀ field ∈ fields, field.Keeps fits) {start a : α} {node : Node} (hStart : fits start)
    (h : Decoder.record fields start node = .ok a) : fits a := by
  cases node with
  | object members close =>
    obtain ⟨⟨a', seen⟩, hMembers, h⟩ := exists_of_bind h
    obtain ⟨_, -, hPresent⟩ := exists_of_bind h
    have hFits : fits a' :=
      foldlM_keeps (P := fun state => fits state.1)
        (fun _ _ _ hState hStep => readMember_keeps hFields hState hStep) hStart hMembers
    split at hPresent
    · cases hPresent
      exact hFits
    · cases hPresent
  | array items close => exact readFields_keeps hFields hStart h
  | _ => cases h

/-- A member that is written exactly, is read into a record as it was written of another one, and
keeps what fits. `put a b` is the record `b` with this member as `a` has it. -/
structure Member.Faithful (m : Member α) (fits : α → Prop) (put : α → α → α) : Prop where
  isExact : ∀ a, fits a → (m.write a).isExact = true
  read_write : ∀ a b, fits a → m.field.read b (m.write a).node = .ok (put a b)
  keeps : m.field.Keeps fits

/-- A member is as faithful as the codec of its value. -/
theorem Member.of_faithful {codec : Codec β} {fitsPart : β → Prop} {fits : α → Prop}
    (h : codec.Faithful fitsPart) {names : List String} {absence : Absence} {get : α → β}
    {set : α → β → α} (hGet : ∀ a, fits a → fitsPart (get a))
    (hSet : ∀ a b, fits a → fitsPart b → fits (set a b)) :
    (Member.of names absence codec get set).Faithful fits fun a b => set b (get a) where
  isExact a ha := h.isExact _ (hGet a ha)
  read_write a b ha := by
    change (codec.read (codec.write (get a)).node).map (set b) = _
    rw [h.read_write _ (hGet a ha)]
    rfl
  keeps a node a' ha hRead := by
    obtain ⟨b, hPart, rfl⟩ := exists_of_map hRead
    exact hSet a b ha (h.fits_of_read node b hPart)

/-- A member that every value fits. -/
theorem Member.of_lossless {codec : Codec β} (h : codec.Lossless) {fits : α → Prop}
    {names : List String} {absence : Absence} {get : α → β} {set : α → β → α}
    (hSet : ∀ a b, fits a → fits (set a b)) :
    (Member.of names absence codec get set).Faithful fits fun a b => set b (get a) :=
  of_faithful h (fun _ _ => trivial) fun a b ha _ => hSet a b ha

/-- All of the members are faithful. `put a b` is the record `b` with these members as `a` has
them. -/
inductive MembersFaithful (fits : α → Prop) : List (Member α) → (α → α → α) → Prop
  | nil : MembersFaithful fits [] fun _ b => b
  | cons {m : Member α} {members : List (Member α)} {put puts : α → α → α}
      (hMember : m.Faithful fits put) (hMembers : MembersFaithful fits members puts) :
      MembersFaithful fits (m :: members) fun a b => puts a (put a b)

/-- Each of the members is faithful for itself. -/
theorem MembersFaithful.of_mem {fits : α → Prop} {members : List (Member α)} {put : α → α → α}
    (h : MembersFaithful fits members put) {m : Member α} (hm : m ∈ members) :
    ∃ put, m.Faithful fits put := by
  induction h with
  | nil => cases hm
  | cons hMember _ ih =>
    rcases List.mem_cons.mp hm with rfl | hm
    · exact ⟨_, hMember⟩
    · exact ih hm

/-- Each member is found under the key that it is written under. -/
def KeysFound (members : List (Member α)) : Prop :=
  ∀ i (h : i < members.length), fieldIndex? (members.map (·.field)) members[i].key = some i

instance (members : List (Member α)) : Decidable (KeysFound members) :=
  inferInstanceAs (Decidable
    (∀ i (h : i < members.length), fieldIndex? (members.map (·.field)) members[i].key = some i))

/-- A member that was not seen before is read by the field it belongs to. -/
theorem readMember_at {members : List (Member α)} (hKeys : KeysFound members) {i : Nat}
    (hi : i < members.length) {seen : List Nat} (hSeen : i ∉ seen) {a b : α} {node : Node}
    (hRead : members[i].field.read a node = .ok b) :
    readMember (members.map (·.field)) (a, seen) (.ok members[i].key, node) =
      .ok (b, i :: seen) := by
  have hField : (members.map (·.field))[i]? = some members[i].field := by simp [hi]
  simp only [readMember, bind, Except.bind, hKeys i hi, hField, hRead, List.contains_eq_mem, hSeen,
    decide_false, Bool.false_eq_true, if_false]
  rfl

/-- Reading what was written of the members that are left puts them into the record. -/
theorem foldlM_readMember {fits : α → Prop} {members : List (Member α)} (hKeys : KeysFound members)
    (done : List (Member α)) {rest : List (Member α)} {put : α → α → α}
    (hRest : MembersFaithful fits rest put) (hSplit : members = done ++ rest) {a : α} (ha : fits a)
    (b : α) (seen : List Nat) (hSeen : ∀ i, i ∈ seen ↔ i < done.length) :
    ∃ seen', (memberNodes (Codec.writeMembers rest a)).foldlM
        (readMember (members.map (·.field))) (b, seen) = .ok (put a b, seen') ∧
      ∀ i, i ∈ seen' ↔ i < members.length := by
  induction hRest generalizing done b seen with
  | nil => exact ⟨seen, rfl, by simpa [hSplit] using hSeen⟩
  | @cons m rest put puts hMember hRest ih =>
    have hPlace : done.length < members.length := by simp [hSplit]
    have hHere : members[done.length] = m := by simp [hSplit]
    have hRead : members[done.length].field.read b (m.write a).node = .ok (put a b) := by
      rw [hHere]
      exact hMember.read_write a b ha
    have hFresh : done.length ∉ seen := by simp [hSeen]
    have hStep := readMember_at hKeys hPlace hFresh hRead
    have hNext : ∀ i, i ∈ done.length :: seen ↔ i < (done ++ [m]).length := by
      intro i
      simp only [List.mem_cons, hSeen, List.length_append, List.length_singleton]
      omega
    obtain ⟨seen', hFold, hAll⟩ := ih (done ++ [m]) (by simp [hSplit]) (put a b) _ hNext
    refine ⟨seen', ?_, hAll⟩
    rw [hHere] at hStep
    rw [Codec.writeMembers, List.map_cons, memberNodes, List.foldlM_cons, hStep]
    exact hFold

theorem allPresent_of_mem {fields : List (Field α)} {seen : List Nat}
    (hSeen : ∀ i < fields.length, i ∈ seen) : allPresent fields seen = true := by
  refine List.all_eq_true.mpr fun ⟨field, i⟩ hEntry => ?_
  have hField : fields[i]? = some field := List.mk_mem_zipIdx_iff_getElem?.mp hEntry
  have hi : i < fields.length := (List.getElem?_eq_some_iff.mp hField).1
  simp [hSeen i hi]

/-- The members that were written are read again, with which record they ever start. -/
theorem Decoder.record_writeMembers {fits : α → Prop} {members : List (Member α)}
    {put : α → α → α} (hKeys : KeysFound members) (hMembers : MembersFaithful fits members put)
    {a : α} (ha : fits a) (start : α) :
    Decoder.record (members.map (·.field)) start
      (.object (memberNodes (Codec.writeMembers members a)) .closed) = .ok (put a start) := by
  obtain ⟨seen, hFold, hSeen⟩ :=
    foldlM_readMember hKeys [] hMembers rfl ha start [] (by simp)
  have hPresent : allPresent (members.map (·.field)) seen = true :=
    allPresent_of_mem fun i hi => (hSeen i).mpr (by simpa using hi)
  simp only [Decoder.record, hFold, bind, Except.bind, Close.endMembers, hPresent, if_true]
  rfl

/-- What the members write has only numbers that JSON has. -/
theorem membersExact_writeMembers {fits : α → Prop} {members : List (Member α)}
    {put : α → α → α} (hMembers : MembersFaithful fits members put) {a : α} (ha : fits a) :
    membersExact (Codec.writeMembers members a) = true := by
  refine membersExact_iff.mpr fun entry hEntry => ?_
  obtain ⟨m, hm, rfl⟩ := List.mem_map.mp hEntry
  obtain ⟨put, hMember⟩ := hMembers.of_mem hm
  exact hMember.isExact a ha

/-- A record is faithful if its members are. Putting all members of a record into the start makes
the record again. -/
theorem Codec.record_faithful {fits : α → Prop} {members : List (Member α)} {put : α → α → α}
    {start : α} (hKeys : KeysFound members) (hMembers : MembersFaithful fits members put)
    (hStart : fits start) (hPut : ∀ a, put a start = a) :
    (record members start).Faithful fits where
  isExact a ha := membersExact_writeMembers hMembers ha
  read_write a ha := by
    have hRead := Decoder.record_writeMembers hKeys hMembers ha start
    rwa [hPut a] at hRead
  fits_of_read node a hRead := by
    refine Decoder.record_keeps (fun field hField => ?_) hStart hRead
    obtain ⟨m, hm, rfl⟩ := List.mem_map.mp hField
    obtain ⟨put, hMember⟩ := hMembers.of_mem hm
    exact hMember.keeps

end MediaLibrary.Json
