import Retouch.Text.Basic
import Retouch.Text.CaseMap
import Retouch.Text.Digit
import Retouch.Decimal.Notation

/-!
# Reading numerals

A numeral is an optional sign, decimal digits of any script with single underscores between them,
and for fractions a point and an exponent. The words for infinity and for no number are read too,
in any case. Blanks around a numeral are passed over, but not the separators of files, groups, records
and units. A whole number of more than `maxDigits` digits is refused.
-/

namespace Retouch.Decimal

open Retouch.Text

/-- The number `± digits · 10 ^ scale`. -/
structure Numeral where
  /-- The number is negative. -/
  negative : Bool
  /-- The digits. -/
  digits : Nat
  /-- The power of ten. -/
  scale : Int
  deriving DecidableEq, Repr

/-- The floating-point number nearest to a numeral; beyond the largest it is infinite. Numerals far
outside the range are decided without computing the power of ten. -/
def Numeral.toFloat (n : Numeral) : Float :=
  let size : Int := digitCount n.digits + n.scale
  let x : Float :=
    if n.digits == 0 || size < -400 then 0
    else if size > 400 then 1.0 / 0.0
    else if n.scale < 0 then Float.ofScientific n.digits true (-n.scale).toNat
    else Float.ofScientific (n.digits * Nat.pow 10 n.scale.toNat) false 0
  if n.negative then -x else x

/-- The floating-point number nearest to an integer; none beyond the largest. -/
def floatOfInt? (i : Int) : Option Float :=
  let x := Numeral.toFloat ⟨i < 0, i.natAbs, 0⟩
  if x.isInf then none else some x

/-- A number rounded to `places` places after the point, a half to the even neighbour. -/
def roundPlaces (places : Nat) (x : Float) : Float :=
  match Parts.of x with
  | .finite negative m q =>
    Numeral.toFloat ⟨negative, ((Ratio.scaled m 2 q).unscale (-(places : Int))).round, -(places : Int)⟩
  | _ => x

/-! ### Runs of digits -/

/-- The digits at the start of a text with single underscores between them: the value, how many, and
the rest. `some` value in hand says that a digit came just before. -/
def digitsFrom : Nat → Nat → Text → Nat × Nat × Text
  | value, count, '_' :: c :: rest =>
    match decimalValue? c with
    | some d => if count == 0 then (value, count, '_' :: c :: rest)
        else digitsFrom (10 * value + d) (count + 1) rest
    | none => (value, count, '_' :: c :: rest)
  | value, count, c :: rest =>
    match decimalValue? c with
    | some d => digitsFrom (10 * value + d) (count + 1) rest
    | none => (value, count, c :: rest)
  | value, count, [] => (value, count, [])

/-- An optional sign and the rest. -/
def signFrom : Text → Bool × Text
  | '-' :: rest => (true, rest)
  | '+' :: rest => (false, rest)
  | t => (false, t)

/-- A blank that may stand beside a numeral. -/
def isPadding (c : Char) : Bool := isBlank c && !(0x1C ≤ c.toNat && c.toNat ≤ 0x1F)

/-- A text without the blanks around it. -/
def trim (t : Text) : Text := ((t.dropWhile isPadding).reverse.dropWhile isPadding).reverse

/-- The most digits that a whole number may have. -/
def maxDigits : Nat := 4300

/-- Why a text gives no integer. -/
inductive IntegerFault where
  /-- It spells none. -/
  | malformed
  /-- It has too many digits, leading zeros included. -/
  | tooLong (digits : Nat)
  deriving DecidableEq, Repr

/-- The integer that a text spells. The digits are counted before it is known whether something else
follows them, unless that is an underscore. -/
def integerOf (t : Text) : Except IntegerFault Int :=
  let (negative, body) := signFrom (trim t)
  let (value, count, rest) := digitsFrom 0 0 body
  if count == 0 || rest.head? == some '_' then .error .malformed
  else if count > maxDigits then .error (.tooLong count)
  else if rest.isEmpty then .ok (if negative then -value else value)
  else .error .malformed

/-- The exponent part at the start of a text: its value and the rest; no exponent is zero, a
malformed one is none. -/
def exponentFrom : Text → Option (Int × Text)
  | c :: rest =>
    if c == 'e' || c == 'E' then
      let (negative, body) := signFrom rest
      match digitsFrom 0 0 body with
      | (value, count, rest') =>
        if count == 0 then none else some (if negative then -value else value, rest')
    else some (0, c :: rest)
  | [] => some (0, [])

/-- The numeral with optional point and exponent that fills a text without sign. -/
def numeralOf? (negative : Bool) (t : Text) : Option Numeral :=
  let (whole, wholeCount, rest) := digitsFrom 0 0 t
  let (digits, count, places, rest) :=
    match rest with
    | '.' :: after =>
      let (fraction, fractionCount, rest') := digitsFrom 0 0 after
      (whole * Nat.pow 10 fractionCount + fraction, wholeCount + fractionCount, fractionCount, rest')
    | _ => (whole, wholeCount, 0, rest)
  if count == 0 then none
  else match exponentFrom rest with
    | some (e, []) => some ⟨negative, digits, e - places⟩
    | _ => none

/-- The floating-point number a text spells. -/
def floatOf? (t : Text) : Option Float :=
  let (negative, body) := signFrom (trim t)
  let word := String.ofList (lower body)
  if word == "inf" || word == "infinity" then some (if negative then -(1.0 / 0.0) else 1.0 / 0.0)
  else if word == "nan" then some (0.0 / 0.0)
  else (numeralOf? negative body).map Numeral.toFloat

end Retouch.Decimal
