import MediaLibrary.Logging.Value
import MediaLibrary.Text.Alphanumeric
import MediaLibrary.Text.Blank
import MediaLibrary.Text.Bytes
import MediaLibrary.Text.Fold
import MediaLibrary.Text.Integer

/-!
# Logging — directives

A directive lets events through up to a level: of one target or of all, inside
spans of a name, inside spans with certain fields. Its text is
`target[span{field=value}]=level`, of which every part may be missing, but not
all.

* `LogDirective.read` — the directive of a text;
* `LogDirective.text` — its canonical text;
* `LogDirective.compare` — the order in which directives are tried.
-/

namespace MediaLibrary

-- ---------------------------------------------------------------------------
-- Levels
-- ---------------------------------------------------------------------------

/-- How much gets through. -/
inductive LogLevel where
  | off
  | error
  | warn
  | info
  | debug
  | trace
deriving DecidableEq

namespace LogLevel

/-- The name of a level. -/
def name : LogLevel → String
  | off => "off"
  | error => "error"
  | warn => "warn"
  | info => "info"
  | debug => "debug"
  | trace => "trace"

/-- All levels, from the least to the most that gets through. -/
def all : List LogLevel :=
  [off, error, warn, info, debug, trace]

/-- The place of a level among all. -/
def rank (level : LogLevel) : Nat :=
  all.idxOf level

/-- The level that lets more through. -/
def max (a b : LogLevel) : LogLevel :=
  if a.rank < b.rank then b else a

/-- A number, which may have a plus sign. -/
def readRank? : List Char → Option Nat
  | '+' :: digits => Text.readNat? digits
  | digits => Text.readNat? digits

/-- The level of a number or of a name in any case. -/
def read? (s : String) : Option LogLevel :=
  (readRank? s.toList >>= fun n => all[n]?) <|> all.find? fun level => Text.sameFolded level.name s

/-- The level after an equals sign, where nothing stands for all. -/
def readAfterSign? (s : String) : Option LogLevel :=
  if s.isEmpty then some trace else read? s

end LogLevel

-- ---------------------------------------------------------------------------
-- Directives
-- ---------------------------------------------------------------------------

/-- A field of a span, and the value it has to have. -/
structure LogField where
  name : String
  value : Option LogValue := none
deriving DecidableEq

/-- A directive. -/
structure LogDirective where
  level : LogLevel := .trace
  target : Option String := none
  span : Option String := none
  fields : List LogField := []
deriving DecidableEq

/-- Why a text is not read: it has the wrong form, or one of its parts would begin or end inside
a character. -/
inductive LogFault where
  | unreadable
  | split
deriving DecidableEq

namespace LogField

/-- The field of a text: a name, or a name and a value. A second equals sign ends the value. -/
def read? (cs : List Char) : Option LogField :=
  let name := String.ofList (cs.takeWhile (· != '='))
  match cs.dropWhile (· != '=') with
  | [] => some { name := name }
  | _ :: value =>
    (LogValue.read? (value.takeWhile (· != '='))).map fun v => { name := name, value := some v }

/-- The text of a field. -/
def text (f : LogField) : String :=
  match f.value with
  | none => f.name
  | some value => f.name ++ "=" ++ value.text

/-- The order of fields: those with a value are greater. -/
def compare (a b : LogField) : Ordering :=
  let byValue :=
    match a.value, b.value with
    | some a, some b => a.compare b
    | _, _ => .eq
  (Ord.compare a.value.isSome b.value.isSome).then ((Ord.compare a.name b.name).then byValue)

end LogField

namespace LogDirective

/-- The text of a directive. -/
def text (d : LogDirective) : String :=
  let fields :=
    if d.fields.isEmpty then ""
    else "\x7b" ++ String.intercalate "," (d.fields.map LogField.text) ++ "\x7d"
  let inside :=
    if d.span.isNone && d.fields.isEmpty then "" else "[" ++ d.span.getD "" ++ fields ++ "]"
  let sign := if d.target.isNone && inside.isEmpty then "" else "="
  d.target.getD "" ++ inside ++ sign ++ d.level.name

/-- The directive asks for something that is known only inside a span. -/
def isDynamic (d : LogDirective) : Bool :=
  d.span.isSome || !d.fields.isEmpty

/-- The directive asks for the value of a field. -/
def hasValue (d : LogDirective) : Bool :=
  d.fields.any (·.value.isSome)

/-- The directive can be tried without knowing the span. -/
def isStatic (d : LogDirective) : Bool :=
  d.span.isNone && !d.hasValue

/-- The order of two lists of fields: the first difference decides. -/
def compareFields : List LogField → List LogField → Ordering
  | [], [] => .eq
  | [], _ => .lt
  | _, [] => .gt
  | a :: as, b :: bs => (a.compare b).then (compareFields as bs)

/-- The order in which directives are tried: the most specific first. A longer target is more
specific, then a span, then the number of fields; the rest only makes the order total. -/
def compare (a b : LogDirective) : Ordering :=
  let size (d : LogDirective) := d.target.map (·.utf8ByteSize)
  ((Ord.compare (size b) (size a)).then
    ((Ord.compare b.span.isSome a.span.isSome).then (Ord.compare b.fields.length a.fields.length))).then
      ((Ord.compare b.target a.target).then
        ((Ord.compare b.span a.span).then (compareFields b.fields a.fields)))

-- ---------------------------------------------------------------------------
-- Reading
-- ---------------------------------------------------------------------------

/-- What is being read, and the place where it began. -/
inductive Reading where
  | nothing
  | levelOrTarget
  | span (start : Nat)
  | field (start : Nat)
  | afterFields
  | afterSpan
  | level (start : Nat)

/-- A target begins with a letter, a digit or one of three marks. -/
def beginsTarget (c : Char) : Bool :=
  c == '-' || c == ':' || c == '_' || Text.isAlphanumeric c

/-- The part of a text between two places. -/
def part (given : List Char) (start stop : Nat) : Except LogFault (List Char) :=
  match Text.cut? given start stop with
  | some cs => .ok cs
  | none => .error .split

/-- Reads one character, which stands at a place in the text without the blanks around it. The
marks that divide a directive are looked for there, but its parts are cut out of the whole text
at the same places, counted in bytes. -/
def readChar (given : List Char) (state : Reading × LogDirective) (c : Char × Nat) :
    Except LogFault (Reading × LogDirective) :=
  let (reading, d) := state
  let (c, i) := c
  match reading with
  | .nothing =>
    if c == '[' then .ok (.span (i + 1), d)
    else if beginsTarget c then .ok (.levelOrTarget, d)
    else .error .unreadable
  | .levelOrTarget =>
    if c == '=' || c == '[' then do
      let target := String.ofList (← part given 0 i)
      return (if c == '=' then .level (i + 1) else .span (i + 1), { d with target := some target })
    else .ok (.levelOrTarget, d)
  | .span start =>
    if c == ']' then do
      let span := String.ofList (← part given start i)
      return (.afterSpan, { d with span := some span })
    else if c == '\x7b' then do
      let span := String.ofList (← part given start i)
      return (.field (i + 1), { d with span := if span.isEmpty then none else some span })
    else .ok (.span start, d)
  | .field start =>
    if c == '\x7d' then do
      let field ← part given start i
      match if field.isEmpty then none else LogField.read? field with
      | some f => return (.afterFields, { d with fields := d.fields ++ [f] })
      | none => .error .unreadable
    else .ok (.field start, d)
  | .afterFields => if c == ']' then .ok (.afterSpan, d) else .error .unreadable
  | .afterSpan => if c == '=' then .ok (.level (i + 1), d) else .error .unreadable
  | .level start => .ok (.level start, d)

/-- The directive of a text without commas. A word alone is a level if it can be one. -/
def read (given : List Char) : Except LogFault LogDirective := do
  let trimmed := Text.trimEnd (Text.trimStart given)
  let (reading, d) ← (Text.withPlaces 0 trimmed).foldlM (readChar given) (.nothing, {})
  match reading with
  | .levelOrTarget =>
    let word := String.ofList given
    match LogLevel.read? word with
    | some level => return { d with level := level }
    | none => return { d with target := some word }
  | .level start =>
    let word := String.ofList (← part given start (Text.byteSize given))
    match LogLevel.readAfterSign? word with
    | some level => return { d with level := level }
    | none => .error .unreadable
  | .afterSpan => return d
  | _ => .error .unreadable

end LogDirective

end MediaLibrary
