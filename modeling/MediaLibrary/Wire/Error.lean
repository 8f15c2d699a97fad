import MediaLibrary.Error
import MediaLibrary.Json.Codec

/-!
# Wire — errors

How errors travel: by code and message, an error of reading a query also with its
details. The details name their type, and only then their members make sense; so
the members are read as values of any kind until the type is known.
-/

namespace MediaLibrary

open Json

namespace ParseError

/-- The types of errors of reading a query, each with an error of it. -/
def byType : List (String × ParseError) :=
  [("invalid_character", .invalidCharacter ' ' 0), ("empty_tag", .emptyTag 0)]

/-- The name of the type of an error. -/
def type : ParseError → String
  | invalidCharacter _ _ => "invalid_character"
  | emptyTag _ => "empty_tag"

/-- The same error at another place. -/
def atPosition (position : Nat) : ParseError → ParseError
  | invalidCharacter character _ => invalidCharacter character position
  | emptyTag _ => emptyTag position

/-- The same error with another character. -/
def withCharacter (character : Char) : ParseError → ParseError
  | invalidCharacter _ position => invalidCharacter character position
  | e => e

/-- The member that holds the place. -/
def positionMember : Member ParseError :=
  .of ["position"] .never .nat64 position fun e v => e.atPosition v

/-- The member that holds the character. -/
def characterMember (character : Char) : Member ParseError :=
  .of ["character"] .never .character (fun _ => character) fun e v => e.withCharacter v

/-- The members that an error of a type has. -/
def members : ParseError → List (Member ParseError)
  | invalidCharacter character _ => [characterMember character, positionMember]
  | emptyTag _ => [positionMember]

/-- The details of an error. -/
def details (e : ParseError) : Json :=
  .object (("type", .text e.type) :: Codec.writeMembers e.members e)

/-- Reads the type of an error. -/
def readType : Decoder ParseError := fun node => do
  named byType (← Decoder.string node)

/-- How many levels of arrays and objects a member may have while the type is not known. -/
def memberDepth : Nat := 127

/-- Reads the members of an error of a type, which are well-formed as they stand. -/
def readMembers (start : ParseError) (node : Node) : Except Fault ParseError :=
  (Decoder.record (start.members.map (·.field)) start node).mapError fun _ => .mismatched

/-- Reads a member of the details: the type, or another member that is kept for later. -/
def readMember (state : Option ParseError × List (String × Node))
    (member : Except Fault String × Node) :
    Except Fault (Option ParseError × List (String × Node)) := do
  let (start, rest) := state
  let key ← member.1
  if key == "type" then
    if start.isSome then throw .mismatched
    return (some (← readType member.2), rest)
  else
    member.2.readAny memberDepth
    return (start, rest ++ [(key, member.2)])

/-- Reads the details of an error: an object with its type somewhere, or an array with its type
first. -/
def read : Decoder ParseError
  | .object members close => do
    let (start, rest) ← members.foldlM readMember (none, [])
    close.endMembers
    match start with
    | none => throw .mismatched
    | some start => readMembers start (.object (rest.map fun (key, node) => (.ok key, node)) .closed)
  | .array [] close => do
    close.endItems
    throw .mismatched
  | .array (first :: items) close => do
    let start ← readType first
    readAnyItems memberDepth items
    close.endItems
    readMembers start (.array items .closed)
  | node => .error node.unwanted

/-- Errors of reading a query. -/
def codec : Codec ParseError where
  write := details
  read := read

end ParseError

namespace Error

/-- The details of an error, if it has any. -/
def details : Error → List (String × Json)
  | parse e => [("details", e.details)]
  | _ => []

/-- An error for other programs. -/
def wire (e : Error) : Json :=
  .object [("code", .text e.code), ("message", .text e.message)]

/-- An error for the caller of a command. -/
def command (e : Error) : Json :=
  .object ([("code", .text e.code), ("message", .text e.message)] ++ e.details)

end Error

end MediaLibrary
