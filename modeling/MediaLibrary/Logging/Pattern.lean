import MediaLibrary.Text.Alphanumeric
import MediaLibrary.Text.Blank
import MediaLibrary.Text.Integer

/-!
# Logging — patterns

The value of a field may be a pattern, a regular expression: characters, classes
of characters in brackets, groups, alternatives and repetitions, with flags that
change how the rest of a group is read. `LogPattern.isReadable` says which texts
are patterns.

Without the flag `u`, a pattern speaks of single bytes and may not match a part
of a character. With it, which is how every pattern begins, the classes and the
word borders that would need tables of all letters (`\d`, `\w`, `\s`, `\b`, `\p`)
are refused, and so is every character where the flag `i` ignores its case.

* `readAtom?` — a character, a place or a class with a name;
* `readClass?` — a class in brackets;
* `Reading.step?` — the next item of a pattern;
* `isReadable` — the text is a pattern, and nests no deeper than the limit.
-/

namespace MediaLibrary.LogPattern

-- ---------------------------------------------------------------------------
-- Flags
-- ---------------------------------------------------------------------------

/-- The flags that decide what can be read. -/
structure Flags where
  verbose : Bool := false
  ignoreCase : Bool := false
  unicode : Bool := true

namespace Flags

/-- The letters of flags, some after a minus, are all known, and none stands twice. -/
def areKnown (letters : List Char) : Bool :=
  letters.all "imsURux-".toList.contains && letters.Nodup && letters.getLast? != some '-'

/-- A flag after its letter was looked for: letters before a minus set flags, the others clear
them. -/
def after (letters : List Char) (letter : Char) (old : Bool) : Bool :=
  if (letters.takeWhile (· != '-')).contains letter then true
  else if letters.contains letter then false
  else old

/-- The flags after the letters of a group. -/
def set (flags : Flags) (letters : List Char) : Flags :=
  { verbose := after letters 'x' flags.verbose
    ignoreCase := after letters 'i' flags.ignoreCase
    unicode := after letters 'u' flags.unicode }

/-- What follows blanks and comments, which go from a number sign to the end of the line. -/
def skipFrom (inComment : Bool) : List Char → List Char
  | [] => []
  | c :: cs =>
    if inComment then skipFrom (c != '\n') cs
    else if Text.isBlank c then skipFrom false cs
    else if c == '#' then skipFrom true cs
    else c :: cs

/-- What is read next: a verbose pattern may have blanks and comments in front of it. -/
def skip (flags : Flags) (cs : List Char) : List Char :=
  if flags.verbose then skipFrom false cs else cs

/-- The next character after blanks and after the sign of a comment, if there is one. -/
def peek? (flags : Flags) (cs : List Char) : Option Char :=
  if flags.verbose then
    match cs.dropWhile Text.isBlank with
    | '#' :: cs => (cs.dropWhile Text.isBlank).head?
    | cs => cs.head?
  else cs.head?

end Flags

-- ---------------------------------------------------------------------------
-- Atoms
-- ---------------------------------------------------------------------------

/-- The smallest items: a character, which may be written as a byte; any character; a place
between characters; a class with a name. -/
inductive Atom where
  | literal (c : Char) (isByte : Bool)
  | any
  | place
  | named

/-- The character with a code point, if there is one. -/
def charOf? (n : Nat) : Option Char :=
  if n.isValidChar then some (Char.ofNat n) else none

/-- This many characters, with blanks skipped before each. -/
def readCount? (flags : Flags) : Nat → List Char → Option (List Char × List Char)
  | 0, cs => some ([], cs)
  | n + 1, cs =>
    match flags.skip cs with
    | [] => none
    | c :: cs => (readCount? flags n cs).map fun (taken, rest) => (c :: taken, rest)

/-- The character of a code point in braces, or in this many hexadecimal digits. -/
def readHex? (flags : Flags) (count : Nat) (cs : List Char) : Option (Atom × List Char) := do
  match flags.skip cs with
  | '\x7b' :: cs =>
    let digits := cs.takeWhile (· != '\x7d')
    let c ← Text.hexValue? digits >>= charOf?
    if digits.isEmpty || digits.length == cs.length then none
    else return (.literal c false, cs.drop (digits.length + 1))
  | cs =>
    let (digits, rest) ← readCount? flags count cs
    let c ← Text.hexValue? digits >>= charOf?
    return (.literal c (count == 2), rest)

/-- The control character of an escape letter. -/
def controlOf? : Char → Option Char
  | 'a' => some '\x07'
  | 't' => some '\t'
  | 'n' => some '\n'
  | 'v' => some '\x0b'
  | 'f' => some '\x0c'
  | 'r' => some '\r'
  | _ => none

/-- The atom after a backslash: a code point, a control character, a place, a class with a name,
or a mark that stands for itself. Borders of words and named classes need the flag `u` cleared,
and a named class must not be the complement of one. -/
def readEscape? (flags : Flags) : List Char → Option (Atom × List Char)
  | [] => none
  | 'x' :: cs => readHex? flags 2 cs
  | 'u' :: cs => readHex? flags 4 cs
  | 'U' :: cs => readHex? flags 8 cs
  | c :: cs =>
    match controlOf? c with
    | some control => some (.literal control false, cs)
    | none =>
      if c == 'A' || c == 'z' then some (.place, cs)
      else if "bB<>".toList.contains c then if flags.unicode then none else some (.place, cs)
      else if "dsw".toList.contains c then if flags.unicode then none else some (.named, cs)
      else if c.toNat < 0x80 && !c.isAlphanum then some (.literal c false, cs)
      else none

/-- The atom at the beginning of a text. -/
def readAtom? (flags : Flags) : List Char → Option (Atom × List Char)
  | [] => none
  | '\\' :: cs => readEscape? flags cs
  | '.' :: cs => some (.any, cs)
  | '^' :: cs => some (.place, cs)
  | '$' :: cs => some (.place, cs)
  | c :: cs => some (.literal c false, cs)

/-- The atom may stand outside a class. -/
def Flags.allows (flags : Flags) : Atom → Bool
  | .literal c isByte => if flags.unicode then !flags.ignoreCase else !isByte || c.toNat < 0x80
  | .any => flags.unicode
  | .place => true
  | .named => true

-- ---------------------------------------------------------------------------
-- Classes in brackets
-- ---------------------------------------------------------------------------

/-- How deeply items beside one another nest: two or more are one level deeper. -/
def joinedDepth : List Nat → Nat
  | [] => 0
  | [depth] => depth
  | depths => depths.foldl max 0 + 1

/-- The character may be a member of a class. -/
def Flags.allowsMember (flags : Flags) (c : Char) : Bool :=
  if flags.unicode then !flags.ignoreCase else c.toNat < 0x80

/-- The atom at the beginning of a class, where only the backslash has a meaning. -/
def readMember? (flags : Flags) : List Char → Option (Atom × List Char)
  | [] => none
  | '\\' :: cs => readEscape? flags cs
  | c :: cs => some (.literal c false, cs)

/-- What follows a member or a range of members. A minus before a bracket or before another
minus makes no range. -/
def readRange? (flags : Flags) (cs : List Char) : Option (List Char) := do
  let (first, cs) ← readMember? flags cs
  let single :=
    match first with
    | .literal c _ => if flags.allowsMember c then some (flags.skip cs) else none
    | .named => some (flags.skip cs)
    | _ => none
  match flags.skip cs with
  | '-' :: after =>
    if flags.peek? after == some ']' || flags.peek? after == some '-' then single
    else
      match first, ← readMember? flags (flags.skip after) with
      | .literal a _, (.literal b _, cs) =>
        if a ≤ b && flags.allowsMember a && flags.allowsMember b then some cs else none
      | _, _ => none
  | _ => single

/-- The names of the classes of the first 128 characters. -/
def classNames : List String :=
  ["alnum", "alpha", "ascii", "blank", "cntrl", "digit", "graph", "lower", "print", "punct",
    "space", "upper", "word", "xdigit"]

/-- A class with a name between colons, after its bracket: whether it is the complement of the
named one, and what follows it. -/
def readNamed? (cs : List Char) : Option (Bool × List Char) :=
  match cs with
  | ':' :: cs =>
    let (negated, cs) :=
      match cs with
      | '^' :: cs => (true, cs)
      | cs => (false, cs)
    match cs.dropWhile (· != ':') with
    | ':' :: ']' :: rest =>
      if classNames.contains (String.ofList (cs.takeWhile (· != ':'))) then some (negated, rest)
      else none
    | _ => none
  | _ => none

/-- A class with a name may stand in a class. -/
def Flags.allowsNamed (flags : Flags) (negated : Bool) : Bool :=
  if flags.unicode then !flags.ignoreCase else !negated

/-- The members of a class after its bracket and its circumflex, if it has one. Single bytes have
no complement that is made of characters. -/
def readOpening? (flags : Flags) (cs : List Char) : Option (List Char) :=
  match flags.skip cs with
  | '^' :: cs => if flags.unicode then some cs else none
  | cs => some cs

/-- What follows an operator between sets of members: `&&`, `--` or `~~`. -/
def readOperator? : List Char → Option (List Char)
  | '&' :: '&' :: cs => some cs
  | '-' :: '-' :: cs => some cs
  | '~' :: '~' :: cs => some cs
  | _ => none

/-- How deeply the members after an operator nest together with those before it. -/
def operandDepth (left : Option Nat) (members : List Nat) : Nat :=
  match left with
  | none => joinedDepth members
  | some depth => joinedDepth [depth, joinedDepth members]

/-- The members up to the bracket that closes them: how deeply they nest, and what follows. At the
beginning of a class, minus signs and then a closing bracket are members. -/
def readMembers? (flags : Flags) :
    Nat → Bool → Option Nat → List Nat → List Char → Option (Nat × List Char)
  | 0, _, _, _, _ => none
  | fuel + 1, isBeginning, left, members, cs =>
    match flags.skip cs with
    | [] => none
    | c :: cs =>
      if isBeginning && (c == '-' || (c == ']' && members.isEmpty)) then
        if flags.allowsMember c then
          readMembers? flags fuel (c == '-') left (0 :: members) cs
        else none
      else if c == ']' then some (operandDepth left members, cs)
      else if c == '[' then
        match readNamed? cs with
        | some (negated, cs) =>
          if flags.allowsNamed negated then
            readMembers? flags fuel false left (0 :: members) cs
          else none
        | none => do
          let (depth, cs) ← readMembers? flags fuel true none [] (← readOpening? flags cs)
          readMembers? flags fuel false left ((depth + 1) :: members) cs
      else
        match readOperator? (c :: cs) with
        | some cs => readMembers? flags fuel false (some (operandDepth left members)) [] cs
        | none => do
          readMembers? flags fuel false left (0 :: members) (← readRange? flags (c :: cs))

/-- A class after its bracket: how deeply it nests, and what follows it. -/
def readClass? (flags : Flags) (cs : List Char) : Option (Nat × List Char) := do
  let (depth, rest) ← readMembers? flags (cs.length + 1) true none [] (← readOpening? flags cs)
  return (depth + 1, rest)

-- ---------------------------------------------------------------------------
-- Groups and repetitions
-- ---------------------------------------------------------------------------

/-- A group that is being read: the flags around it, how deeply its finished alternatives nest,
and the items of the one being read, the last one first. Flags are an item without depth. -/
structure Level where
  around : Flags := {}
  alternatives : List Nat := []
  items : List (Option Nat) := []

/-- How deeply the items of the alternative nest. -/
def Level.itemsDepth (level : Level) : Nat :=
  joinedDepth (level.items.map (·.getD 0))

/-- How deeply the contents of the group nest. -/
def Level.depth (level : Level) : Nat :=
  joinedDepth (level.itemsDepth :: level.alternatives)

/-- A pattern that is being read: the flags, the names of its groups, and the group being read
within the ones around it, the innermost first. The whole pattern counts as a group. -/
structure Reading where
  flags : Flags := {}
  names : List (List Char) := []
  level : Level := {}
  outer : List Level := []

namespace Reading

/-- One more item. -/
def add (r : Reading) (item : Option Nat) : Reading :=
  { r with level := { r.level with items := item :: r.level.items } }

/-- The last item is repeated. There must be one, and it must not be flags. -/
def repeat? (r : Reading) : Option Reading :=
  match r.level.items with
  | some depth :: items =>
    some { r with level := { r.level with items := some (depth + 1) :: items } }
  | _ => none

/-- The next alternative begins. -/
def next (r : Reading) : Reading :=
  let alternatives := r.level.itemsDepth :: r.level.alternatives
  { r with level := { r.level with alternatives := alternatives, items := [] } }

/-- A group begins. -/
def enter (r : Reading) (flags : Flags) : Reading :=
  { r with flags := flags, level := { around := r.flags }, outer := r.level :: r.outer }

/-- A group ends, and its flags with it. -/
def leave? (r : Reading) : Option Reading :=
  match r.outer with
  | [] => none
  | level :: outer =>
    some (add { r with flags := r.level.around, level := level, outer := outer }
      (some (r.level.depth + 1)))

/-- A group with a name begins. No other group may have it. -/
def enterNamed? (r : Reading) (cs : List Char) : Option (Reading × List Char) :=
  let name := cs.takeWhile (· != '>')
  let isName :=
    match name with
    | [] => false
    | c :: rest =>
      (c == '_' || Text.isAlphabetic c)
        && rest.all fun c => "_.[]".toList.contains c || Text.isAlphanumeric c
  match cs.dropWhile (· != '>') with
  | [] => none
  | _ :: rest =>
    if isName && !r.names.contains name then
      some ({ r.enter r.flags with names := name :: r.names }, rest)
    else none

/-- Flags, for the rest of the group around them or for a group of their own. -/
def readFlags? (r : Reading) (cs : List Char) : Option (Reading × List Char) :=
  let letters := cs.takeWhile fun c => c != ':' && c != ')'
  let flags := r.flags.set letters
  if Flags.areKnown letters then
    match cs.drop letters.length with
    | ':' :: rest => some (r.enter flags, rest)
    | ')' :: rest =>
      if letters.isEmpty then none else some ({ r.add none with flags := flags }, rest)
    | _ => none
  else none

/-- What follows the bracket that opens a group. -/
def open? (r : Reading) : List Char → Option (Reading × List Char)
  | '?' :: 'P' :: '<' :: cs => r.enterNamed? cs
  | '?' :: '<' :: cs => r.enterNamed? cs
  | '?' :: cs => r.readFlags? cs
  | cs => some (r.enter r.flags, cs)

/-- What follows the mark of a repetition: a question mark asks for the shortest match. -/
def skipShortest : List Char → List Char
  | '?' :: cs => cs
  | cs => cs

/-- What follows the number of a repetition and the brace that closes it. -/
def readNumber? (cs : List Char) : Option (List Char) :=
  let digits := Text.trimEnd (Text.trimStart (cs.takeWhile (· != '\x7d')))
  match Text.readNat? digits, cs.dropWhile (· != '\x7d') with
  | some n, _ :: rest => if n < Nat.pow 2 32 then some rest else none
  | _, _ => none

/-- Reads the next item. -/
def step? (r : Reading) : List Char → Option (Reading × List Char)
  | [] => none
  | '(' :: cs => r.open? (r.flags.skip cs)
  | ')' :: cs => do return (← r.leave?, cs)
  | '|' :: cs => some (r.next, cs)
  | '[' :: cs => do
    let (depth, cs) ← readClass? r.flags cs
    return (r.add (some depth), cs)
  | '\x7b' :: cs => do
    return (← r.repeat?, skipShortest (r.flags.skip (← readNumber? cs)))
  | c :: cs =>
    if c == '*' || c == '+' || c == '?' then do return (← r.repeat?, skipShortest cs)
    else do
      let (atom, cs) ← readAtom? r.flags (c :: cs)
      if r.flags.allows atom then return (r.add (some 0), cs) else none

/-- Reads to the end. Every item takes at least one character. -/
def readAll? : Nat → Reading → List Char → Option Reading
  | 0, _, _ => none
  | fuel + 1, r, cs =>
    match r.flags.skip cs with
    | [] => some r
    | cs => do
      let (r, cs) ← r.step? cs
      readAll? fuel r cs

end Reading

/-- The deepest nesting. -/
def maxDepth : Nat := 250

/-- The text is a pattern. -/
def isReadable (cs : List Char) : Bool :=
  match Reading.readAll? (cs.length + 1) {} cs with
  | some r => r.outer.isEmpty && r.level.depth ≤ maxDepth
  | none => false

end MediaLibrary.LogPattern
