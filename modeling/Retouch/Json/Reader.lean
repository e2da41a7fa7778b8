import Retouch.Json.Value

/-!
# Reading JSON

A reader of JSON texts. Beside what the format asks for it takes the words `NaN`, `Infinity` and
`-Infinity` for numbers. Of two members with one key the later value counts, in the earlier place.
A whole number of more than `Decimal.maxDigits` digits is refused.

`isTooDeep` tells texts whose brackets nest deeper than `maxDepth`, which a service does not read.
-/

namespace Retouch.Json

/-- The blanks that JSON allows between tokens. -/
def isSpace (c : Char) : Bool := c == ' ' || c == '\t' || c == '\n' || c == '\r'

/-- The text after the blanks at its start. -/
def skipSpace (t : List Char) : List Char := t.dropWhile isSpace

/-- The value of a hexadecimal digit. -/
def hexValue? (c : Char) : Option Nat :=
  let n := c.toNat
  if 0x30 ≤ n && n ≤ 0x39 then some (n - 0x30)
  else if 0x61 ≤ n && n ≤ 0x66 then some (n - 0x61 + 10)
  else if 0x41 ≤ n && n ≤ 0x46 then some (n - 0x41 + 10)
  else none

/-- The value of four hexadecimal digits. -/
def hexValue4? (a b c d : Char) : Option Nat := do
  some ((((← hexValue? a) * 16 + (← hexValue? b)) * 16 + (← hexValue? c)) * 16 + (← hexValue? d))

/-- The character of an escape by a letter. -/
def unescape? (c : Char) : Option Char :=
  if c == '"' || c == '\\' || c == '/' then some c
  else if c == 'n' then some '\n'
  else if c == 'r' then some '\r'
  else if c == 't' then some '\t'
  else if c == 'b' then some (Char.ofNat 8)
  else if c == 'f' then some (Char.ofNat 12)
  else none

/-- The characters of 16-bit units: a high and a low surrogate make one character, a surrogate
alone the replacement character. -/
def ofUnits : List Nat → List Char
  | [] => []
  | [u] => [if 0xD800 ≤ u && u < 0xE000 then Char.ofNat 0xFFFD else Char.ofNat u]
  | u :: v :: rest =>
    if 0xD800 ≤ u && u < 0xDC00 && 0xDC00 ≤ v && v < 0xE000 then
      Char.ofNat (0x10000 + (u - 0xD800) * 0x400 + (v - 0xDC00)) :: ofUnits rest
    else
      (if 0xD800 ≤ u && u < 0xE000 then Char.ofNat 0xFFFD else Char.ofNat u) :: ofUnits (v :: rest)

/-- The rest of a string after its opening quote: its characters and what follows the closing
quote. The first argument holds escaped units that are not turned into characters yet. -/
def readString : List Nat → List Char → Option (List Char × List Char)
  | units, '"' :: rest => some (ofUnits units.reverse, rest)
  | units, '\\' :: 'u' :: a :: b :: c :: d :: rest =>
    match hexValue4? a b c d with
    | some u => readString (u :: units) rest
    | none => none
  | units, '\\' :: c :: rest =>
    match unescape? c with
    | some e => (readString [] rest).map fun (cs, r) => (ofUnits units.reverse ++ e :: cs, r)
    | none => none
  | units, c :: rest =>
    if c.toNat < 0x20 then none
    else (readString [] rest).map fun (cs, r) => (ofUnits units.reverse ++ c :: cs, r)
  | _, [] => none

/-- An ASCII digit. -/
def isAsciiDigit (c : Char) : Bool := '0' ≤ c && c ≤ '9'

/-- The value of a run of ASCII digits. -/
def digitsValue (ds : List Char) : Nat := ds.foldl (fun n c => 10 * n + (c.toNat - 0x30)) 0

/-- A point and the digits after it, if the text starts with them. -/
def readFraction : List Char → List Char × List Char
  | '.' :: rest =>
    match rest.takeWhile isAsciiDigit with
    | [] => ([], '.' :: rest)
    | ds => (ds, rest.dropWhile isAsciiDigit)
  | t => ([], t)

/-- An exponent, if the text starts with one. -/
def readExponent : List Char → Option Int × List Char
  | c :: rest =>
    if c == 'e' || c == 'E' then
      let (negative, body) := Decimal.signFrom rest
      match body.takeWhile isAsciiDigit with
      | [] => (none, c :: rest)
      | ds =>
        let size : Int := digitsValue ds
        (some (if negative then -size else size), body.dropWhile isAsciiDigit)
    else (none, c :: rest)
  | [] => (none, [])

/-- The digits before a point: a zero alone, or digits that start with another one. -/
def readWhole : List Char → Option (List Char × List Char)
  | '0' :: rest => some (['0'], rest)
  | t =>
    match t.takeWhile isAsciiDigit with
    | [] => none
    | ds => some (ds, t.dropWhile isAsciiDigit)

/-- A number without its sign. -/
def readUnsigned (negative : Bool) (t : List Char) : Option (Json × List Char) := do
  let (whole, rest) ← readWhole t
  let (fraction, rest) := readFraction rest
  let (exponent, rest) := readExponent rest
  if fraction.isEmpty && exponent.isNone then
    if whole.length > Decimal.maxDigits then none
    else
      let size : Int := digitsValue whole
      some (.int (if negative then -size else size), rest)
  else
    let scale : Int := exponent.getD 0 - fraction.length
    some (.float (Decimal.Numeral.toFloat ⟨negative, digitsValue (whole ++ fraction), scale⟩), rest)

/-- The words that stand for a value, and the value. -/
def words : List (List Char × Json) := [
  ("null".toList, .null), ("true".toList, .bool true), ("false".toList, .bool false),
  ("NaN".toList, .float (0.0 / 0.0)), ("Infinity".toList, .float (1.0 / 0.0)),
  ("-Infinity".toList, .float (-1.0 / 0.0))]

/-- A word or a number. -/
def readScalar (t : List Char) : Option (Json × List Char) :=
  match words.findSome? fun (w, v) => (Text.dropHead? w t).map (v, ·) with
  | some r => some r
  | none =>
    match t with
    | '-' :: rest => readUnsigned true rest
    | _ => readUnsigned false t

mutual
/-- A value, and what follows it. -/
def readValue : Nat → List Char → Option (Json × List Char)
  | 0, _ => none
  | _ + 1, '"' :: rest => (readString [] rest).map fun (cs, r) => (.str (String.ofList cs), r)
  | fuel + 1, '[' :: rest =>
    match skipSpace rest with
    | ']' :: r => some (.arr [], r)
    | r => (readItems fuel r).map fun (items, r) => (.arr items, r)
  | fuel + 1, '{' :: rest =>
    match skipSpace rest with
    | '}' :: r => some (.obj [], r)
    | r => (readMembers fuel [] r).map fun (members, r) => (.obj members, r)
  | _ + 1, t => readScalar t
/-- The items of a list that is not empty. -/
def readItems : Nat → List Char → Option (List Json × List Char)
  | 0, _ => none
  | fuel + 1, t => do
    let (v, rest) ← readValue fuel t
    match skipSpace rest with
    | ',' :: r => (readItems fuel (skipSpace r)).map fun (vs, r) => (v :: vs, r)
    | ']' :: r => some ([v], r)
    | _ => none
/-- The members of an object that is not empty, after those read before. -/
def readMembers : Nat → Members → List Char → Option (Members × List Char)
  | 0, _, _ => none
  | fuel + 1, before, '"' :: t => do
    let (key, rest) ← readString [] t
    match skipSpace rest with
    | ':' :: rest =>
      let (v, rest) ← readValue fuel (skipSpace rest)
      let members : Members := Table.set before (String.ofList key) v
      match skipSpace rest with
      | ',' :: r => readMembers fuel members (skipSpace r)
      | '}' :: r => some (members, r)
      | _ => none
    | _ => none
  | _ + 1, _, _ => none
end

/-! ### Depth -/

/-- How deep the brackets of a text nest at most, those in strings aside: the most so far, how many
are open, and whether the text starts in a string. -/
def deepestFrom (most opened : Nat) (inString : Bool) : List Char → Nat
  | [] => most
  | '\\' :: _ :: rest => deepestFrom most opened inString rest
  | c :: rest =>
    if c == '"' then deepestFrom most opened (!inString) rest
    else if inString then deepestFrom most opened inString rest
    else if c == '[' || c == '\x7b' then
      deepestFrom (max most (opened + 1)) (opened + 1) inString rest
    else if c == ']' || c == '\x7d' then deepestFrom most (opened - 1) inString rest
    else deepestFrom most opened inString rest

/-- How deep brackets may nest. -/
def maxDepth : Nat := 10000

/-- The brackets of a text nest too deep. -/
def isTooDeep (t : List Char) : Bool := deepestFrom 0 0 false t > maxDepth

/-! ### Texts -/

/-- The value that a JSON text holds. -/
def read? (t : List Char) : Option Json :=
  match readValue (2 * t.length + 2) (skipSpace t) with
  | some (v, rest) => if (skipSpace rest).isEmpty then some v else none
  | none => none

end Retouch.Json
