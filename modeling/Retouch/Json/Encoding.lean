import Retouch.Json.Reader
import Retouch.Text.Utf8

/-!
# JSON texts in bytes

The bytes of a JSON text are units of one, two or four bytes, and units of several bytes start with the
most or with the least significant one. A JSON text begins with two characters of ASCII, so that the
places of the zeros among the first four bytes tell how it is written. A mark may stand before a text
in units of one byte.
-/

namespace Retouch.Json

/-- How the characters of a text are written in bytes. -/
inductive Encoding where
  /-- In units of one byte. -/
  | utf8
  /-- In units of two bytes; the flag says that the most significant one comes first. -/
  | utf16 (bigEndian : Bool)
  /-- In units of four bytes; the flag says that the most significant one comes first. -/
  | utf32 (bigEndian : Bool)
  deriving DecidableEq, Repr

namespace Encoding

/-- How a JSON text is written. -/
def ofBytes : List UInt8 → Encoding
  | a :: b :: c :: d :: _ =>
    if a == 0 then (if b == 0 then .utf32 true else .utf16 true)
    else if b == 0 then (if c == 0 && d == 0 then .utf32 false else .utf16 false)
    else .utf8
  | [a, b] => if a == 0 then .utf16 true else if b == 0 then .utf16 false else .utf8
  | _ => .utf8

/-- The number that a unit spells. -/
def unit (bigEndian : Bool) (bytes : List UInt8) : Nat :=
  (if bigEndian then bytes else bytes.reverse).foldl (fun n b => 256 * n + b.toNat) 0

/-- The units of two bytes; none if a byte is left over. -/
def pairs? (bigEndian : Bool) : List UInt8 → Option (List Nat)
  | [] => some []
  | [_] => none
  | a :: b :: rest => (pairs? bigEndian rest).map (unit bigEndian [a, b] :: ·)

/-- The units of four bytes; none if bytes are left over. -/
def quadruples? (bigEndian : Bool) : List UInt8 → Option (List Nat)
  | [] => some []
  | a :: b :: c :: d :: rest => (quadruples? bigEndian rest).map (unit bigEndian [a, b, c, d] :: ·)
  | _ => none

/-- The character of a code, a surrogate being the replacement character; none beyond the last one. -/
def charOfCode? (n : Nat) : Option Char :=
  if 0x10FFFF < n then none
  else if 0xD800 ≤ n && n < 0xE000 then some (Char.ofNat 0xFFFD)
  else some (Char.ofNat n)

/-- The text that bytes stand for. -/
def decode? (encoding : Encoding) (bytes : List UInt8) : Option (List Char) :=
  match encoding with
  | .utf8 => Utf8.decode? bytes
  | .utf16 bigEndian => (pairs? bigEndian bytes).map ofUnits
  | .utf32 bigEndian => (quadruples? bigEndian bytes).bind fun units => units.mapM charOfCode?

end Encoding

/-- The mark that may stand before a text. -/
def byteOrderMark : Char := Char.ofNat 0xFEFF

/-- The text of JSON in bytes. -/
def textOfBytes? (bytes : List UInt8) : Option (List Char) :=
  let encoding := Encoding.ofBytes bytes
  (encoding.decode? bytes).map fun t =>
    if encoding = .utf8 then (Text.dropHead? [byteOrderMark] t).getD t else t

/-- The value that a JSON text in bytes holds. -/
def readBytes? (bytes : List UInt8) : Option Json := (textOfBytes? bytes).bind read?

end Retouch.Json
