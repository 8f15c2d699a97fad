import MediaLibrary.Proofs.Json.Faithful
import MediaLibrary.Wire.Error

/-!
# Wire — the codec of parse errors is faithful

The details of an error of reading a query are read in two steps, since its members
make sense only for its type: all of them are kept until the type is known, which
may come last. Nothing is lost on that way.

* `ParseError.Fits` — the place has 64 bits;
* `ParseError.codec_faithful` — the codec.
-/

namespace MediaLibrary

open Json

namespace ParseError

/-- The place of the error has 64 bits. -/
def Fits (e : ParseError) : Prop :=
  e.position ≤ Text.nat64Max

-- ---------------------------------------------------------------------------
-- The members of a type
-- ---------------------------------------------------------------------------

/-- The place of an error comes back. -/
theorem positionMember_faithful :
    positionMember.Faithful Fits fun e start => start.atPosition e.position :=
  Member.of_faithful Codec.nat64_faithful (fun _ he => he) fun e _ _ hPosition => by
    cases e <;> exact hPosition

theorem characterMember_faithful (character : Char) :
    (characterMember character).Faithful Fits fun _ start => start.withCharacter character :=
  Member.of_lossless Codec.character_lossless fun e _ he => by cases e <;> exact he

/-- Errors of one type have the same members, which make any of them the same as another. -/
theorem members_faithful (e : ParseError) :
    ∃ put, MembersFaithful Fits e.members put ∧
      ∀ start : ParseError, start.type = e.type → put e start = e := by
  cases e with
  | invalidCharacter character position =>
    refine ⟨_, .cons (characterMember_faithful character) (.cons positionMember_faithful .nil), ?_⟩
    intro start hType
    cases start with
    | invalidCharacter => rfl
    | emptyTag => simp [type] at hType
  | emptyTag position =>
    refine ⟨_, .cons positionMember_faithful .nil, ?_⟩
    intro start hType
    cases start with
    | invalidCharacter => simp [type] at hType
    | emptyTag => rfl

/-- The type of an error says which members it has. -/
theorem fields_of_type {e start : ParseError} (hType : start.type = e.type) :
    start.members.map (·.field) = e.members.map (·.field) := by
  cases e <;> cases start <;> first | rfl | simp [type] at hType

theorem keysFound_members (e : ParseError) : KeysFound e.members := by
  intro i hi
  cases e with
  | invalidCharacter =>
    match i, hi with
    | 0, _ => rfl
    | 1, _ => rfl
  | emptyTag =>
    match i, hi with
    | 0, _ => rfl

/-- The members that were written of an error make any error of its type the same. -/
theorem readMembers_written {e : ParseError} (he : e.Fits) {start : ParseError}
    (hType : start.type = e.type) :
    readMembers start (.object (memberNodes (Codec.writeMembers e.members e)) .closed) = .ok e := by
  obtain ⟨put, hMembers, hPut⟩ := e.members_faithful
  rw [readMembers, fields_of_type hType,
    Decoder.record_writeMembers (keysFound_members e) hMembers he, hPut start hType]
  rfl

/-- The members that are read leave an error in range. -/
theorem readMembers_fits {start e : ParseError} {node : Node} (hStart : start.Fits)
    (h : readMembers start node = .ok e) : e.Fits := by
  obtain ⟨put, hMembers, -⟩ := start.members_faithful
  have hRead : Decoder.record (start.members.map (·.field)) start node = .ok e := by
    unfold readMembers at h
    cases hRecord : Decoder.record (start.members.map (·.field)) start node with
    | error fault => rw [hRecord] at h; cases h
    | ok e' => rw [hRecord] at h; exact h
  refine Decoder.record_keeps (fun field hField => ?_) hStart hRead
  obtain ⟨m, hm, rfl⟩ := List.mem_map.mp hField
  exact (hMembers.of_mem hm).choose_spec.keeps

-- ---------------------------------------------------------------------------
-- The type
-- ---------------------------------------------------------------------------

/-- The first error of each type. -/
theorem readType_type (e : ParseError) :
    ∃ start, readType (.string (.ok e.type)) = .ok start ∧ start.type = e.type := by
  cases e with
  | invalidCharacter => exact ⟨.invalidCharacter ' ' 0, rfl, rfl⟩
  | emptyTag => exact ⟨.emptyTag 0, rfl, rfl⟩

/-- An error begins in range. -/
theorem fits_of_readType {node : Node} {start : ParseError} (h : readType node = .ok start) :
    start.Fits := by
  obtain ⟨name, -, hNamed⟩ := exists_of_bind h
  unfold named at hNamed
  split at hNamed
  · rename_i entry hFind
    cases hNamed
    have hMem := List.mem_of_find?_eq_some hFind
    simp only [byType, List.mem_cons, List.not_mem_nil, or_false, Prod.mk.injEq] at hMem
    rcases hMem with ⟨-, rfl⟩ | ⟨-, rfl⟩ <;> exact Nat.zero_le _
  · cases hNamed

-- ---------------------------------------------------------------------------
-- The details
-- ---------------------------------------------------------------------------

/-- Members beside the type are kept, whatever they hold. -/
theorem foldlM_readMember_kept (start : ParseError) {members : List (String × Json)}
    (hKeys : ∀ m ∈ members, m.1 ≠ "type")
    (hAny : ∀ m ∈ members, m.2.node.readAny memberDepth = .ok ())
    (kept : List (String × Node)) :
    (memberNodes members).foldlM readMember (some start, kept) =
      .ok (some start, kept ++ members.map fun m => (m.1, m.2.node)) := by
  induction members generalizing kept with
  | nil => simp [memberNodes, pure, Except.pure]
  | cons m members ih =>
    obtain ⟨hKey, hKeys⟩ := List.forall_mem_cons.mp hKeys
    obtain ⟨hMember, hAny⟩ := List.forall_mem_cons.mp hAny
    have hStep : readMember (some start, kept) (.ok m.1, m.2.node) =
        .ok (some start, kept ++ [(m.1, m.2.node)]) := by
      simp [readMember, hKey, hMember, bind, Except.bind, pure, Except.pure]
    rw [memberNodes, List.foldlM_cons, hStep]
    exact (ih hKeys hAny _).trans (by simp)

/-- No written member is taken for the type, and each can be kept until the type is known. -/
theorem writeMembers_kept {e : ParseError} (he : e.Fits) :
    (∀ m ∈ Codec.writeMembers e.members e, m.1 ≠ "type") ∧
      ∀ m ∈ Codec.writeMembers e.members e, m.2.node.readAny memberDepth = .ok () := by
  have hPosition : (Json.int e.position).node.readAny memberDepth = .ok () := by
    have hNumber := quantity_ofInt (n := e.position) (by simp [Text.int64Min])
      (by exact_mod_cast he)
    simp [node, Node.readAny, hNumber]
  cases e with
  | invalidCharacter character position =>
    simpa [members, Codec.writeMembers, Member.key, characterMember, positionMember, Member.of,
      Field.of, Codec.nat64, Codec.character, node, Node.readAny] using hPosition
  | emptyTag position =>
    simpa [members, Codec.writeMembers, Member.key, positionMember, Member.of, Field.of,
      Codec.nat64] using hPosition

/-- Whatever members are read, the error stays in range. -/
theorem fits_of_readMember {state state' : Option ParseError × List (String × Node)}
    {member : Except Fault String × Node} (hState : ∀ e ∈ state.1, e.Fits)
    (h : readMember state member = .ok state') : ∀ e ∈ state'.1, e.Fits := by
  obtain ⟨key, -, h⟩ := exists_of_bind h
  split at h
  · split at h
    · cases h
    · obtain ⟨start, hType, hSame⟩ := exists_of_bind h
      cases hSame
      rintro e ⟨⟩
      exact fits_of_readType hType
  · obtain ⟨_, -, hSame⟩ := exists_of_bind h
    cases hSame
    exact hState

/-- An error comes back with its type, its place and its character. -/
theorem codec_faithful : codec.Faithful Fits where
  isExact e he := by
    obtain ⟨put, hMembers, -⟩ := e.members_faithful
    exact membersExact_writeMembers hMembers he
  read_write e he := by
    obtain ⟨start, hRead, hType⟩ := e.readType_type
    obtain ⟨hKeys, hAny⟩ := writeMembers_kept he
    have hFirst : readMember (none, []) (.ok "type", .string (.ok e.type)) =
        .ok (some start, []) := by
      simp [readMember, hRead, bind, Except.bind, pure, Except.pure]
    have hRest := foldlM_readMember_kept start hKeys hAny []
    have hMembers := readMembers_written he hType
    rw [memberNodes_eq_map] at hMembers
    simpa [codec, details, node, read, memberNodes, hFirst, hRest, bind, Except.bind,
      Close.endMembers, Function.comp_def] using hMembers
  fits_of_read node e h := by
    cases node with
    | object members close =>
      obtain ⟨⟨start, kept⟩, hFold, h⟩ := exists_of_bind h
      obtain ⟨_, -, h⟩ := exists_of_bind h
      have hStart : ∀ s ∈ start, s.Fits :=
        foldlM_keeps (P := fun state => ∀ s ∈ state.1, s.Fits)
          (fun _ _ _ hState hStep => fits_of_readMember hState hStep) (by simp) hFold
      cases start with
      | none => cases h
      | some start => exact readMembers_fits (hStart start rfl) h
    | array items close =>
      cases items with
      | nil =>
        obtain ⟨_, -, h⟩ := exists_of_bind h
        cases h
      | cons first items =>
        obtain ⟨start, hType, h⟩ := exists_of_bind h
        obtain ⟨_, -, h⟩ := exists_of_bind h
        obtain ⟨_, -, h⟩ := exists_of_bind h
        exact readMembers_fits (fits_of_readType hType) h
    | _ => cases h

end ParseError

end MediaLibrary
