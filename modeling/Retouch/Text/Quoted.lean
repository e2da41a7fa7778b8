import Retouch.Text.Basic
import Retouch.Text.Printable

/-!
# Quoted texts

A text shown inside a message stands between quotes, with everything that could be misread written
by an escape. The quotes are single unless the text holds a single quote and no double quote. The
delimiter and the backslash are escaped by a backslash, line feeds, returns and tabs by letters,
other characters that cannot be printed by their code in two, four or eight hexadecimal digits.
-/

namespace Retouch.Text

/-- A hexadecimal digit, in lower case. -/
def hexDigit (n : Nat) : Char :=
  if n < 10 then Char.ofNat (n + 0x30) else Char.ofNat (n - 10 + 0x61)

/-- The last `width` hexadecimal digits of a number. -/
def hexText : Nat → Nat → List Char
  | 0, _ => []
  | width + 1, n => hexText width (n / 16) ++ [hexDigit (n % 16)]

/-- The delimiter that a quoted text stands between. -/
def quoteFor (t : Text) : Char := if t.contains '\'' && !t.contains '"' then '"' else '\''

/-- A character that cannot be printed, by its code. -/
def escapeByCode (n : Nat) : Text :=
  if n < 0x100 then '\\' :: 'x' :: hexText 2 n
  else if n < 0x10000 then '\\' :: 'u' :: hexText 4 n
  else '\\' :: 'U' :: hexText 8 n

/-- A character as a text quoted by `quote` shows it. -/
def quoteChar (quote c : Char) : Text :=
  if c == quote || c == '\\' then ['\\', c]
  else if c == '\n' then ['\\', 'n']
  else if c == '\r' then ['\\', 'r']
  else if c == '\t' then ['\\', 't']
  else if isPrintable c then [c]
  else escapeByCode c.toNat

/-- The text between quotes, escaped. -/
def quoted (t : Text) : Text :=
  let quote := quoteFor t
  quote :: t.flatMap (quoteChar quote) ++ [quote]

/-- A string between quotes, escaped. -/
def quote (s : String) : String := String.ofList (quoted s.toList)

end Retouch.Text
