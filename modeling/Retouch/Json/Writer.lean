import Retouch.Json.Value

/-!
# Writing JSON

A string is written between double quotes, with the quote, the backslash and the control characters
escaped. A second form escapes every character beyond ASCII as well, by its 16-bit units.
-/

namespace Retouch.Json

open Retouch.Text

/-- A character below the blank, by its letter or its code. -/
def escapeControl (c : Char) : List Char :=
  if c == '\n' then ['\\', 'n']
  else if c == '\r' then ['\\', 'r']
  else if c == '\t' then ['\\', 't']
  else if c.toNat == 8 then ['\\', 'b']
  else if c.toNat == 12 then ['\\', 'f']
  else '\\' :: 'u' :: hexText 4 c.toNat

/-- A character as a JSON string holds it. -/
def escapeChar (c : Char) : List Char :=
  if c == '"' || c == '\\' then ['\\', c]
  else if c.toNat < 0x20 then escapeControl c
  else [c]

/-- A character as a JSON string in ASCII holds it. -/
def escapeCharAscii (c : Char) : List Char :=
  let n := c.toNat
  if n < 0x7F then escapeChar c
  else if n < 0x10000 then '\\' :: 'u' :: hexText 4 n
  else
    '\\' :: 'u' :: hexText 4 (0xD800 + (n - 0x10000) / 0x400) ++
      '\\' :: 'u' :: hexText 4 (0xDC00 + (n - 0x10000) % 0x400)

/-- A text as a JSON string. -/
def stringText (t : List Char) : List Char := '"' :: t.flatMap escapeChar ++ ['"']

/-- A text as a JSON string in ASCII. -/
def asciiStringText (t : List Char) : List Char := '"' :: t.flatMap escapeCharAscii ++ ['"']

/-- A floating-point number as JSON text. -/
def numberText (x : Float) : String :=
  if x.isNaN then "NaN"
  else if x.isInf then (if x < 0 then "-Infinity" else "Infinity")
  else String.ofList (Decimal.floatText x)

/-- A string as JSON text. -/
def written (s : String) : String := String.ofList (stringText s.toList)

mutual
/-- A value as JSON text without blanks between its parts. -/
def write : Json → String
  | .null => "null"
  | .bool true => "true"
  | .bool false => "false"
  | .int n => intText n
  | .float x => numberText x
  | .str s => written s
  | .arr items => "[" ++ writeItems items ++ "]"
  | .obj members => "\x7b" ++ writeMembers members ++ "\x7d"
/-- List items as JSON text. -/
def writeItems : List Json → String
  | [] => ""
  | [v] => write v
  | v :: rest => write v ++ "," ++ writeItems rest
/-- Members as JSON text. -/
def writeMembers : List (String × Json) → String
  | [] => ""
  | [(k, v)] => written k ++ ":" ++ write v
  | (k, v) :: rest => written k ++ ":" ++ write v ++ "," ++ writeMembers rest
end

mutual
/-- The value holds no number that JSON has no words for: every number is finite. -/
def isFinite : Json → Bool
  | .float x => x.isFinite
  | .arr items => areFinite items
  | .obj members => areFiniteMembers members
  | _ => true
/-- No list item holds such a number. -/
def areFinite : List Json → Bool
  | [] => true
  | v :: rest => isFinite v && areFinite rest
/-- No member holds such a number. -/
def areFiniteMembers : List (String × Json) → Bool
  | [] => true
  | (_, v) :: rest => isFinite v && areFiniteMembers rest
end

end Retouch.Json
