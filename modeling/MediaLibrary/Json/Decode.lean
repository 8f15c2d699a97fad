import MediaLibrary.Json.Reader

/-!
# Json — from nodes to typed values

A decoder takes a node for a value of a type or finds the first fault in reading
order: a value of the wrong shape, or the place where the text stops being JSON.

* whole numbers, binary numbers, truth values, texts, lists, optional values;
* `variant` — one of several names, as a string or as the only key of an object
  whose value is `null`;
* `record` — a structure, as an object with its fields in any order or as an
  array with its fields in their own order. Unknown members are passed over, a
  field given twice is refused, and each field says where it may be left out.
-/

namespace MediaLibrary.Json

/-- A reader of typed values. -/
abbrev Decoder (α : Type) := Node → Except Fault α

-- ---------------------------------------------------------------------------
-- Ends
-- ---------------------------------------------------------------------------

/-- The items of a list are over: did its array end as it should? -/
def Close.endItems : Close → Except Fault Unit
  | .closed => .ok ()
  | .ended => .error .truncated
  | .afterComma fault => .error fault
  | .stray | .notKey _ | .brokenKey _ _ => .error .malformed

/-- All items that were wanted are read: does the array end here? -/
def Close.endFields : Close → Except Fault Unit
  | .closed => .ok ()
  | .ended => .error .truncated
  | _ => .error .malformed

/-- The members of an object are over: did the object end as it should? -/
def Close.endMembers : Close → Except Fault Unit
  | .closed => .ok ()
  | .ended => .error .truncated
  | .afterComma fault => .error fault
  | .brokenKey read _ => .error read
  | .stray | .notKey _ => .error .malformed

/-- The end of an object that is passed over. -/
def Close.skipMembers : Close → Except Fault Unit
  | .brokenKey _ skipped => .error skipped
  | close => close.endMembers

-- ---------------------------------------------------------------------------
-- Whole nodes
-- ---------------------------------------------------------------------------

/-- The fault of wanting a value of another kind: a scalar is read first, an array or an object
is refused at its first character. -/
def Node.unwanted : Node → Fault
  | .absent => .truncated
  | .broken _ read _ => read
  | .string (.error fault) => fault
  | .number numeral =>
    match numeral.quantity with
    | .tooLarge => .malformed
    | _ => .mismatched
  | _ => .mismatched

mutual

/-- Passes over a value: only its grammar matters. -/
def Node.skip : Node → Except Fault Unit
  | .absent => .error .truncated
  | .broken _ _ skipped => .error skipped
  | .array items close => do
    skipItems items
    close.endItems
  | .object members close => do
    skipMembers members
    close.skipMembers
  | _ => .ok ()

/-- Passes over items. -/
def skipItems : List Node → Except Fault Unit
  | [] => .ok ()
  | item :: items => do
    item.skip
    skipItems items

/-- Passes over members. -/
def skipMembers : List (Except Fault String × Node) → Except Fault Unit
  | [] => .ok ()
  | (_, value) :: members => do
    value.skip
    skipMembers members

end

mutual

/-- Reads a value of any kind, with `room` levels of arrays and objects left for it. -/
def Node.readAny (room : Nat) : Node → Except Fault Unit
  | .array items close =>
    if room ≤ 1 then .error .malformed
    else do
      readAnyItems (room - 1) items
      close.endItems
  | .object members close =>
    if room ≤ 1 then .error .malformed
    else do
      readAnyMembers (room - 1) members
      close.endMembers
  | .absent => .error .truncated
  | .broken _ read _ => .error read
  | .string (.error fault) => .error fault
  | .number numeral =>
    match numeral.quantity with
    | .tooLarge => .error .malformed
    | _ => .ok ()
  | _ => .ok ()

/-- Reads items of any kind. -/
def readAnyItems (room : Nat) : List Node → Except Fault Unit
  | [] => .ok ()
  | item :: items => do
    item.readAny room
    readAnyItems room items

/-- Reads members of any kind. -/
def readAnyMembers (room : Nat) : List (Except Fault String × Node) → Except Fault Unit
  | [] => .ok ()
  | (key, value) :: members => do
    let _ ← key
    value.readAny room
    readAnyMembers room members

end

-- ---------------------------------------------------------------------------
-- Scalars
-- ---------------------------------------------------------------------------

/-- A whole number between two bounds. -/
def Decoder.whole (low high : Int) : Decoder Int
  | .number numeral =>
    match numeral.quantity with
    | .whole n => if low ≤ n && n ≤ high then .ok n else .error .mismatched
    | .real _ => .error .mismatched
    | .tooLarge => .error .malformed
  | node => .error node.unwanted

/-- A signed whole number of 64 bits. -/
def Decoder.int64 : Decoder Int :=
  whole Text.int64Min Text.int64Max

/-- An unsigned whole number of 64 bits. -/
def Decoder.nat64 : Decoder Nat := fun node =>
  (whole 0 Text.nat64Max node).map Int.toNat

/-- A binary number; a whole one is converted. -/
def Decoder.real : Decoder Float
  | .number numeral =>
    match numeral.quantity with
    | .whole n => .ok (Float.ofInt n)
    | .real x => .ok x
    | .tooLarge => .error .malformed
  | node => .error node.unwanted

/-- A truth value. -/
def Decoder.boolean : Decoder Bool
  | .bool b => .ok b
  | node => .error node.unwanted

/-- A text. -/
def Decoder.string : Decoder String
  | .string s => s
  | node => .error node.unwanted

/-- A text of exactly one character. -/
def Decoder.character : Decoder Char := fun node => do
  match (← string node).toList with
  | [c] => .ok c
  | _ => .error .mismatched

/-- A text that `read?` understands. -/
def Decoder.readable {α : Type} (read? : List Char → Option α) : Decoder α := fun node => do
  match read? (← string node).toList with
  | some a => .ok a
  | none => .error .mismatched

-- ---------------------------------------------------------------------------
-- Compound values
-- ---------------------------------------------------------------------------

/-- A value or `null`. -/
def Decoder.optional {α : Type} (value : Decoder α) : Decoder (Option α)
  | .null => .ok none
  | node => (value node).map some

/-- A list of values. -/
def Decoder.list {α : Type} (item : Decoder α) : Decoder (List α)
  | .array items close => do
    let as ← items.mapM item
    close.endItems
    return as
  | node => .error node.unwanted

/-- The value that a name stands for. -/
def named {α : Type} (names : List (String × α)) (name : String) : Except Fault α :=
  match names.find? fun entry => entry.1 == name with
  | some (_, a) => .ok a
  | none => .error .mismatched

/-- One of several names. Anything but a string or an object is refused unread. -/
def Decoder.variant {α : Type} (names : List (String × α)) : Decoder α
  | .string s => do named names (← s)
  | .object ((key, value) :: members) close => do
    let a ← named names (← key)
    match value with
    | .null => pure ()
    | value => throw value.unwanted
    match members, close with
    | [], .closed => return a
    | [], .ended => throw .truncated
    | _, _ => throw .malformed
  | .object [] .ended => .error .truncated
  | .object [] (.notKey asText) => .error asText
  | .object [] (.brokenKey read _) => .error read
  | .absent => .error .truncated
  | .broken true read _ => .error read
  | _ => .error .malformed

-- ---------------------------------------------------------------------------
-- Records
-- ---------------------------------------------------------------------------

/-- Where a field may be left out, which keeps the value it starts with. -/
inductive Absence where
  | never
  | inObject
  | anywhere
deriving DecidableEq

/-- A field of a record: the names it goes by, where it may be left out, and how reading it
changes the record. -/
structure Field (α : Type) where
  names : List String
  absence : Absence
  read : α → Decoder α

/-- A field that holds what `value` reads. -/
def Field.of {α β : Type} (names : List String) (absence : Absence) (value : Decoder β)
    (set : α → β → α) : Field α :=
  ⟨names, absence, fun a node => (value node).map (set a)⟩

/-- The place of a key among the fields. -/
def fieldIndex? {α : Type} (fields : List (Field α)) (key : String) : Option Nat :=
  fields.findIdx? fun field => field.names.contains key

/-- Reads the members of an object; `seen` are the places of the fields already read. -/
def readMember {α : Type} (fields : List (Field α)) (state : α × List Nat)
    (member : Except Fault String × Node) : Except Fault (α × List Nat) := do
  let (a, seen) := state
  let key ← member.1
  match fieldIndex? fields key with
  | none =>
    member.2.skip
    return (a, seen)
  | some i =>
    if seen.contains i then throw .mismatched
    match fields[i]? with
    | none => return (a, seen)
    | some field => return (← field.read a member.2, i :: seen)

/-- Every field was read or may be left out of an object. -/
def allPresent {α : Type} (fields : List (Field α)) (seen : List Nat) : Bool :=
  (fields.zipIdx).all fun (field, i) => seen.contains i || field.absence != .never

/-- Reads the items of an array as the fields in their order. -/
def readFields {α : Type} (a : α) : List (Field α) → List Node → Close → Except Fault α
  | [], items, close => do
    if items.isEmpty then close.endFields else throw .malformed
    return a
  | field :: fields, [], close => do
    close.endItems
    if (field :: fields).all (·.absence == .anywhere) then return a else throw .mismatched
  | field :: fields, item :: items, close => do
    readFields (← field.read a item) fields items close

/-- A record that starts as `start`. -/
def Decoder.record {α : Type} (fields : List (Field α)) (start : α) : Decoder α
  | .object members close => do
    let (a, seen) ← members.foldlM (readMember fields) (start, [])
    close.endMembers
    if allPresent fields seen then return a else throw .mismatched
  | .array items close => readFields start fields items close
  | node => .error node.unwanted

-- ---------------------------------------------------------------------------
-- Texts
-- ---------------------------------------------------------------------------

/-- The value of a whole text. -/
def decodeText {α : Type} (value : Decoder α) (s : String) : Except Fault α := do
  let document := readText s
  let a ← value document.value
  if document.complete then return a else throw .malformed

end MediaLibrary.Json
