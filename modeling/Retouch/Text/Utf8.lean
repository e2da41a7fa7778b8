import Retouch.Text.Basic

/-!
# Texts as bytes

UTF-8 writes a character as one to four bytes, of which all but the first lie between 0x80 and 0xBF.
So bytes can be cut into pieces before reading them: a piece starts at every byte of another kind. A
piece stands for a character if it is just how that character is written, which leaves out longer
spellings, surrogates and codes beyond the last one.
-/

namespace Retouch.Utf8

/-- The byte that follows others in a character and holds the last six bits of a number. -/
def tail (n : Nat) : UInt8 := UInt8.ofNat (0x80 + n % 64)

/-- A character as bytes. -/
def encodeChar (c : Char) : List UInt8 :=
  let n := c.toNat
  if n < 0x80 then [UInt8.ofNat n]
  else if n < 0x800 then [UInt8.ofNat (0xC0 + n / 64), tail n]
  else if n < 0x10000 then [UInt8.ofNat (0xE0 + n / 4096), tail (n / 64), tail n]
  else [UInt8.ofNat (0xF0 + n / 262144), tail (n / 4096), tail (n / 64), tail n]

/-- A text as bytes. -/
def encode (t : Text) : List UInt8 := t.flatMap encodeChar

/-- A byte that does not start a character. -/
def isTail (b : UInt8) : Bool := 0x80 ≤ b && b < 0xC0

/-- Bytes cut before every byte that starts a character. -/
def pieces : List UInt8 → List (List UInt8)
  | [] => []
  | a :: rest =>
    match pieces rest with
    | (b :: piece) :: more => if isTail b then (a :: b :: piece) :: more else [a] :: (b :: piece) :: more
    | _ => [[a]]

/-- The code that the bits of a piece spell. -/
def code : List UInt8 → Nat
  | [a] => a.toNat
  | [a, b] => a.toNat % 32 * 64 + b.toNat % 64
  | [a, b, c] => (a.toNat % 16 * 64 + b.toNat % 64) * 64 + c.toNat % 64
  | [a, b, c, d] => ((a.toNat % 8 * 64 + b.toNat % 64) * 64 + c.toNat % 64) * 64 + d.toNat % 64
  | _ => 0

/-- The character that is written as a piece. -/
def charOf? (piece : List UInt8) : Option Char :=
  let c := Char.ofNat (code piece)
  if encodeChar c = piece then some c else none

/-- The text that bytes stand for. -/
def decode? (bytes : List UInt8) : Option Text := (pieces bytes).mapM charOf?

theorem encodeChar_of_charOf? {piece : List UInt8} {c : Char} (h : charOf? piece = some c) :
    encodeChar c = piece := by
  simp only [charOf?, Option.ite_none_right_eq_some, Option.some.injEq] at h
  exact h.2 ▸ h.1

end Retouch.Utf8
