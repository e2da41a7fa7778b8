/-!
# Decimal digits and their layout

A finite binary floating-point number is `m · 2 ^ q` with a natural `m` below `2 ^ 53`. Sign, `m` and `q`
are read off the bits (`Parts`), so that all decimal output is exact arithmetic on naturals.

A positive number is shown by decimal digits and the place of the point. `Digits.shortest` finds the
fewest digits that read back to a given floating-point number, `Digits.rounded` a set number of
significant digits. A `Notation` says how digits are laid out: when by places and when with an
exponent, and whether a whole number keeps `.0`.
-/

namespace Retouch.Decimal

/-! ### Binary numbers taken apart -/

/-- What the bits of a floating-point number say. -/
inductive Parts where
  /-- No number. -/
  | nan
  /-- An infinity. -/
  | infinite (negative : Bool)
  /-- The number `mantissa · 2 ^ exponent`, or its negative. -/
  | finite (negative : Bool) (mantissa : Nat) (exponent : Int)
  deriving DecidableEq

/-- The parts of a 64-bit pattern. -/
def Parts.ofBits (bits : Nat) : Parts :=
  let negative := bits / Nat.pow 2 63 == 1
  let biased : Nat := bits / Nat.pow 2 52 % Nat.pow 2 11
  let fraction := bits % Nat.pow 2 52
  if biased == 2047 then (if fraction == 0 then .infinite negative else .nan)
  else if biased == 0 then .finite negative fraction (-1074)
  else .finite negative (fraction + Nat.pow 2 52) ((biased : Int) - 1075)

/-- The parts of a floating-point number. -/
def Parts.of (x : Float) : Parts := Parts.ofBits x.toBits.toNat

/-- A non-negative rational number as a quotient of naturals. -/
structure Ratio where
  /-- The numerator. -/
  num : Nat
  /-- The denominator. -/
  den : Nat

/-- The quotient `m · b ^ e`. -/
def Ratio.scaled (m b : Nat) (e : Int) : Ratio :=
  if e < 0 then ⟨m, Nat.pow b (-e).toNat⟩ else ⟨m * Nat.pow b e.toNat, 1⟩

/-- The quotient divided by `10 ^ e`. -/
def Ratio.unscale (r : Ratio) (e : Int) : Ratio :=
  if e < 0 then ⟨r.num * Nat.pow 10 (-e).toNat, r.den⟩ else ⟨r.num, r.den * Nat.pow 10 e.toNat⟩

/-- The quotient rounded to the nearest natural, a half to the even neighbour. -/
def Ratio.round (r : Ratio) : Nat :=
  let low := r.num / r.den
  let twice := 2 * (r.num % r.den)
  if twice < r.den then low
  else if twice > r.den then low + 1
  else if low % 2 == 0 then low else low + 1

/-- How many decimal digits a natural has; none for zero. -/
def digitCount (n : Nat) : Nat := if n == 0 then 0 else (Nat.toDigits 10 n).length

/-- The `k` with `10 ^ (k - 1) ≤ r < 10 ^ k`, for a quotient that is not zero. -/
def Ratio.magnitude (r : Ratio) : Int :=
  let whole := r.num / r.den
  if whole != 0 then digitCount whole
  else
    let guess : Int := (digitCount r.num : Int) - digitCount r.den
    if (r.unscale guess).num < (r.unscale guess).den then guess else guess + 1

/-- The integer nearest to a floating-point number on the side of zero; none for an infinity or no
number. -/
def Parts.truncate? : Parts → Option Int
  | .finite negative m q =>
    let size : Int := ((Ratio.scaled m 2 q).num / (Ratio.scaled m 2 q).den : Nat)
    some (if negative then -size else size)
  | _ => none

/-! ### Decimal digits -/

/-- The decimal number `0.d₁d₂… · 10 ^ point`, its digits given as a natural. -/
structure Digits where
  /-- The digits, as the natural they spell. -/
  digits : Nat
  /-- Where the point stands, counted in places after the first digit's left side. -/
  point : Int
  deriving DecidableEq, Repr

/-- The digits without the zeros at the end. -/
def trimZeros : Nat → Nat → Nat
  | 0, n => n
  | fuel + 1, n => if n != 0 && n % 10 == 0 then trimZeros fuel (n / 10) else n

/-! ### The fewest digits that read back -/

/-- The numbers that round to `m · 2 ^ q`, as an interval in units of `2 ^ (q - 2)`: its ends, and
whether they belong to it. -/
structure Interval where
  /-- The lower end. -/
  low : Nat
  /-- The upper end. -/
  high : Nat
  /-- The ends themselves round to the number. -/
  closed : Bool

/-- The rounding interval of `m · 2 ^ q`. Below a power of two the neighbour is nearer. -/
def Interval.of (m : Nat) (q : Int) : Interval where
  low := if m == Nat.pow 2 52 && q != -1074 then 4 * m - 1 else 4 * m - 2
  high := 4 * m + 2
  closed := m % 2 == 0

/-- `n · 10 ^ e` lies in the interval in units of `2 ^ u`. -/
def Interval.holds (i : Interval) (u : Int) (n : Nat) (e : Int) : Bool :=
  let value := (Ratio.scaled n 10 e)
  let unit := (Ratio.scaled 1 2 u)
  let scaled := value.num * unit.den
  let one := value.den * unit.num
  if i.closed then i.low * one ≤ scaled && scaled ≤ i.high * one
  else i.low * one < scaled && scaled < i.high * one

/-- The nearer of the two neighbours of `m · 2 ^ q` on the grid of multiples of `10 ^ e` that lies
in the rounding interval, if one does. -/
def onGrid? (m : Nat) (q : Int) (e : Int) : Option Nat :=
  let i := Interval.of m q
  let r := (Ratio.scaled m 2 q).unscale e
  let near := r.round
  let low := r.num / r.den
  let far := if near == low then low + 1 else low
  if near != 0 && i.holds (q - 2) near e then some near
  else if far != 0 && i.holds (q - 2) far e then some far
  else none

/-- The first grid that holds a number reading back, going to finer ones at most `fuel` times. -/
def shortestFrom (m : Nat) (q e : Int) : Nat → Nat × Int
  | 0 => (((Ratio.scaled m 2 q).unscale e).round, e)
  | fuel + 1 =>
    match onGrid? m q e with
    | some n => (n, e)
    | none => shortestFrom m q (e - 1) fuel

/-- The fewest digits that read back to `m · 2 ^ q`, `m` not zero; of those the nearest. -/
def Digits.shortest (m : Nat) (q : Int) : Digits :=
  let (n, e) := shortestFrom m q ((Ratio.scaled m 2 q).magnitude - 1) 17
  ⟨trimZeros (digitCount n) n, digitCount n + e⟩

/-- The number `m · 2 ^ q`, `m` not zero, rounded to `places` significant digits. -/
def Digits.rounded (places : Nat) (m : Nat) (q : Int) : Digits :=
  let r := Ratio.scaled m 2 q
  let e := r.magnitude - places
  let n := (r.unscale e).round
  ⟨trimZeros (digitCount n) n, digitCount n + e⟩

/-! ### Layout -/

/-- How digits are laid out. -/
structure Notation where
  /-- With an exponent below this power of ten. -/
  smallest : Int
  /-- With an exponent from this power of ten on. -/
  largest : Int
  /-- A whole number written by places keeps `.0`. -/
  keepsPoint : Bool

/-- A text of `n` zeros. -/
def zeros (n : Nat) : List Char := List.replicate n '0'

/-- The digits of a natural number. -/
def natText (n : Nat) : List Char := Nat.toDigits 10 n

/-- The exponent part: its sign and at least two digits. -/
def exponentText (e : Int) : List Char :=
  let size := natText e.natAbs
  'e' :: (if e < 0 then '-' else '+') :: (zeros (2 - size.length) ++ size)

/-- The digits as the notation lays them out. -/
def Notation.layout (f : Notation) (d : Digits) : List Char :=
  let ds := natText d.digits
  let power := d.point - 1
  if power < f.smallest || f.largest ≤ power then
    (match ds with
      | [] => []
      | [only] => [only]
      | first :: more => first :: '.' :: more) ++ exponentText power
  else if d.point ≤ 0 then '0' :: '.' :: (zeros (-d.point).toNat ++ ds)
  else
    let places := d.point.toNat
    if ds.length ≤ places then
      ds ++ zeros (places - ds.length) ++ (if f.keepsPoint then ['.', '0'] else [])
    else ds.take places ++ '.' :: ds.drop places

/-- The text of zero. -/
def Notation.zeroText (f : Notation) : List Char := if f.keepsPoint then ['0', '.', '0'] else ['0']

/-- The text of a number by a choice of digits and a notation. -/
def Notation.text (f : Notation) (choose : Nat → Int → Digits) : Parts → List Char
  | .nan => ['n', 'a', 'n']
  | .infinite negative => (if negative then ['-'] else []) ++ ['i', 'n', 'f']
  | .finite negative m q =>
    (if negative then ['-'] else []) ++ (if m == 0 then f.zeroText else f.layout (choose m q))

/-- Numbers that keep their identity: by places from `10 ^ -4` below `10 ^ 16`, always with a point
or an exponent. -/
def plainNotation : Notation := ⟨-4, 16, true⟩

/-- Numbers to six significant digits: by places from `10 ^ -4` below `10 ^ 6`, whole ones without a
point. -/
def sixDigitNotation : Notation := ⟨-4, 6, false⟩

/-- The shortest text that reads back to the number. -/
def floatText (x : Float) : List Char := plainNotation.text Digits.shortest (Parts.of x)

/-- The text of the number to six significant digits. -/
def sixDigitText (x : Float) : List Char := sixDigitNotation.text (Digits.rounded 6) (Parts.of x)

end Retouch.Decimal
