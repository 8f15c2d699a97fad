import MediaLibrary.Json.Decode
import MediaLibrary.Json.Value

/-!
# Json — codecs

A codec says how a type is written and how it is read. The codec of a record
comes from its members, each of which names its key once for both ways; an older
or looser spelling of a key may be read beside the one that is written.

* `Codec` — the two ways;
* `Codec.record` — a structure by its members.
-/

namespace MediaLibrary.Json

/-- How values of a type are written and read. -/
structure Codec (α : Type) where
  write : α → Json
  read : Decoder α

/-- A member of a record: how it is read, and how it is written. -/
structure Member (α : Type) where
  field : Field α
  write : α → Json

/-- The key that a member is written under. -/
def Member.key {α : Type} (m : Member α) : String :=
  m.field.names.headD ""

/-- A member that holds what a codec reads and writes. -/
def Member.of {α β : Type} (names : List String) (absence : Absence) (codec : Codec β)
    (get : α → β) (set : α → β → α) : Member α where
  field := Field.of names absence codec.read set
  write a := codec.write (get a)

namespace Codec

-- ---------------------------------------------------------------------------
-- Scalars
-- ---------------------------------------------------------------------------

/-- Signed whole numbers of 64 bits. -/
def int64 : Codec Int where
  write := .int
  read := Decoder.int64

/-- Unsigned whole numbers of 64 bits. -/
def nat64 : Codec Nat where
  write n := .int n
  read := Decoder.nat64

/-- Binary numbers. -/
def real : Codec Float where
  write := .real
  read := Decoder.real

/-- Truth values. -/
def boolean : Codec Bool where
  write := .bool
  read := Decoder.boolean

/-- Texts. -/
def text : Codec String where
  write := .text
  read := Decoder.string

/-- Characters, as texts of one character. -/
def character : Codec Char where
  write c := .text c.toString
  read := Decoder.character

/-- Values with a text form. -/
def readable {α : Type} (write : α → List Char) (read? : List Char → Option α) : Codec α where
  write a := .text (String.ofList (write a))
  read := Decoder.readable read?

/-- Values with names. -/
def named {α : Type} (names : List (String × α)) (name : α → String) : Codec α where
  write a := .text (name a)
  read := Decoder.variant names

-- ---------------------------------------------------------------------------
-- Compound values
-- ---------------------------------------------------------------------------

/-- Values that may be absent. -/
def optional {α : Type} (value : Codec α) : Codec (Option α) where
  write := Json.ofOption value.write
  read := Decoder.optional value.read

/-- Lists of values. -/
def list {α : Type} (item : Codec α) : Codec (List α) where
  write := Json.ofList item.write
  read := Decoder.list item.read

/-- The members of a record, written. -/
def writeMembers {α : Type} (members : List (Member α)) (a : α) : List (String × Json) :=
  members.map fun m => (m.key, m.write a)

/-- A record by its members. Reading starts with `start`, of which the members that are left out
remain. -/
def record {α : Type} (members : List (Member α)) (start : α) : Codec α where
  write a := .object (writeMembers members a)
  read := Decoder.record (members.map (·.field)) start

/-- The value of a whole text. -/
def readText {α : Type} (codec : Codec α) (s : String) : Except Fault α :=
  decodeText codec.read s

end Codec

end MediaLibrary.Json
