/-!
# Base 64

Bytes as text: three bytes become four characters out of sixty-four, a shorter rest is filled up with
equals signs. Reading is strict: no foreign character, no equals sign before the data or between them,
a rest filled up exactly. Bits of the last character beyond the last byte are not looked at, and equals
signs after a text that needs none are passed over.
-/

namespace Retouch.Base64

/-- The character for a number below sixty-four. -/
def symbol (n : Nat) : Char :=
  if n < 26 then Char.ofNat (n + 0x41)
  else if n < 52 then Char.ofNat (n - 26 + 0x61)
  else if n < 62 then Char.ofNat (n - 52 + 0x30)
  else if n == 62 then '+'
  else '/'

/-- The number of a character. -/
def value? (c : Char) : Option Nat :=
  let n := c.toNat
  if 0x41 ≤ n && n ≤ 0x5A then some (n - 0x41)
  else if 0x61 ≤ n && n ≤ 0x7A then some (n - 0x61 + 26)
  else if 0x30 ≤ n && n ≤ 0x39 then some (n - 0x30 + 52)
  else if c == '+' then some 62
  else if c == '/' then some 63
  else none

/-- Bytes as text. -/
def encode : List UInt8 → List Char
  | [] => []
  | [a] =>
    let n := a.toNat * 16
    [symbol (n / 64), symbol (n % 64), '=', '=']
  | [a, b] =>
    let n := (a.toNat * 256 + b.toNat) * 4
    [symbol (n / 4096), symbol (n / 64 % 64), symbol (n % 64), '=']
  | a :: b :: c :: rest =>
    let n := (a.toNat * 256 + b.toNat) * 256 + c.toNat
    symbol (n / 262144) :: symbol (n / 4096 % 64) :: symbol (n / 64 % 64) :: symbol (n % 64) ::
      encode rest

/-- The bytes of numbers below sixty-four, four at a time; a rest of two or three gives one or two
bytes, a rest of one none. -/
def bytesOf : List Nat → List UInt8
  | a :: b :: c :: d :: rest =>
    let n := ((a * 64 + b) * 64 + c) * 64 + d
    UInt8.ofNat (n / 65536) :: UInt8.ofNat (n / 256 % 256) :: UInt8.ofNat (n % 256) :: bytesOf rest
  | [a, b, c] =>
    let n := (a * 64 + b) * 64 + c
    [UInt8.ofNat (n / 1024), UInt8.ofNat (n / 4 % 256)]
  | [a, b] => [UInt8.ofNat ((a * 64 + b) / 16)]
  | _ => []

/-- The number of equals signs after `count` characters is allowed. -/
def fits (count pads : Nat) : Bool :=
  match count % 4 with
  | 0 => count != 0 || pads == 0
  | 1 => false
  | 2 => pads == 2
  | _ => pads == 1

/-- The bytes that a text stands for. -/
def decode? (t : List Char) : Option (List UInt8) :=
  let data := t.takeWhile (· != '=')
  let pads := t.drop data.length
  match data.mapM value? with
  | none => none
  | some numbers =>
    if pads.all (· == '=') && fits data.length pads.length then some (bytesOf numbers) else none

end Retouch.Base64
