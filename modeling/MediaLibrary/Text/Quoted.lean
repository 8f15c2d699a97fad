import MediaLibrary.Text.Unprintable

/-!
# Text — a quoted character

Messages name an offending character between single quotes: `'*'`. The quote,
the backslash and four controls have an escape of two characters, a character
that is not shown as it is has its code point in hexadecimal, and every other
character stands for itself.
-/

namespace MediaLibrary.Text

/-- The code point in lower-case hexadecimal, without leading zeros. -/
def hexadecimal (n : Nat) : String :=
  String.ofList (Nat.toDigits 16 n)

/-- What stands for a character between the quotes. -/
def escapeQuoted (c : Char) : String :=
  if c == '\x00' then "\\0"
  else if c == '\t' then "\\t"
  else if c == '\r' then "\\r"
  else if c == '\n' then "\\n"
  else if c == '\'' then "\\'"
  else if c == '\\' then "\\\\"
  else if isUnprintable c then "\\u\x7b" ++ hexadecimal c.toNat ++ "\x7d"
  else c.toString

/-- The character between single quotes. -/
def quoted (c : Char) : String :=
  "'" ++ escapeQuoted c ++ "'"

end MediaLibrary.Text
