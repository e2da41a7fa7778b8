import Retouch.Text.Basic
import Retouch.Text.CaseMap
import Retouch.Text.Digit

/-!
# Style values

The forms of a style value that decide how it is written: its normal spelling, colours in
hexadecimal, lengths and images.
-/

namespace Retouch.Style

open Retouch.Text

/-- A value in lower case, stripped, with single blanks. -/
def normalize (value : Text) : Text := squeezeBlanks ' ' (lower (strip value))

/-! ### Colours -/

/-- A hexadecimal digit in lower case. -/
def isHexChar (c : Char) : Bool := ('0' ≤ c && c ≤ '9') || ('a' ≤ c && c ≤ 'f')

/-- One to three decimal digits at the start of a text: their value and the rest, which starts with
no further digit. -/
def channelFrom? (t : Text) : Option (Nat × Text) :=
  let ds := t.takeWhile isDecimal
  if ds.isEmpty || 3 < ds.length then none
  else some (ds.foldl (fun n c => 10 * n + (decimalValue? c).getD 0) 0, t.drop ds.length)

/-- What follows the comma or blanks between two channels. -/
def channelGap? (t : Text) : Option Text :=
  match stripStart t with
  | ',' :: rest => some (stripStart rest)
  | rest => if rest.length < t.length then some rest else none

/-- The end of a colour function: an opacity after a comma or slash, and the closing bracket. The
opacity is `none` if there is none. -/
def opacityEnd? (t : Text) : Option (Option Text) :=
  match stripStart t with
  | [')'] => some none
  | c :: rest =>
    if c == ',' || c == '/' then
      let body := stripStart rest
      let number := body.takeWhile fun d => isDecimal d || d == '.'
      let after := body.drop number.length
      let (unit, after) := match after with
        | '%' :: r => (['%'], r)
        | _ => ([], after)
      if !number.isEmpty && stripStart after == [')'] then some (some (number ++ unit)) else none
    else none
  | [] => none

/-- A colour function of three channels: the channels and the opacity. -/
def rgbParts? (t : Text) : Option (List Nat × Option Text) := do
  let rest ← match dropHead? "rgb".toList t with
    | some ('a' :: '(' :: r) => some r
    | some ('(' :: r) => some r
    | _ => none
  let (red, rest) ← channelFrom? (stripStart rest)
  let (green, rest) ← channelFrom? (← channelGap? rest)
  let (blue, rest) ← channelFrom? (← channelGap? rest)
  let opacity ← opacityEnd? rest
  some ([red, green, blue], opacity)

/-- The spellings of full opacity. -/
def fullOpacities : List Text := ["1".toList, "1.0".toList, "100%".toList]

/-- A hexadecimal digit, in lower case. -/
def hexFigure (n : Nat) : Char := (Nat.toDigits 16 n).getLastD '0'

/-- A colour in its normal spelling: a short hexadecimal form is doubled, an opaque colour function
becomes hexadecimal, anything else stays. -/
def normalizeColor (value : Text) : Text :=
  let v := normalize value
  match v with
  | ['#', r, g, b] => if [r, g, b].all isHexChar then ['#', r, r, g, g, b, b] else v
  | _ =>
    match rgbParts? v with
    | some (channels, opacity) =>
      if opacity.all fullOpacities.contains && channels.all (· ≤ 255) then
        '#' :: channels.flatMap fun n => [hexFigure (n / 16), hexFigure (n % 16)]
      else v
    | none => v

/-! ### Lengths and images -/

/-- A character of a unit. -/
def isUnitChar (c : Char) : Bool := ('a' ≤ c && c ≤ 'z') || c == '%'

/-- A number with an optional unit: digits with an optional point among or after them, or a point
and digits. -/
def isMeasure (t : Text) : Bool :=
  let body := match t with
    | '-' :: rest => rest
    | _ => t
  let whole := body.takeWhile isDecimal
  let rest := body.drop whole.length
  match rest with
  | '.' :: after =>
    let fraction := after.takeWhile isDecimal
    !(whole.isEmpty && fraction.isEmpty) && (after.drop fraction.length).all isUnitChar
  | _ => !whole.isEmpty && rest.all isUnitChar

/-- The functions that compute a length. -/
def lengthFunctions : List Text := ["calc(".toList, "clamp(".toList, "min(".toList, "max(".toList]

/-- The value is a length: it says so itself, or it is a number, or a function computes it. -/
def isLength (value : Text) : Bool :=
  let v := lower (strip value)
  if startsWith v "length:".toList then true
  else if startsWith v "color:".toList then false
  else isMeasure v || lengthFunctions.any (startsWith v)

/-- The value is an image or a gradient. -/
def looksLikeImage (value : Text) : Bool :=
  let v := lower (strip value)
  startsWith v "url(".toList || has v "gradient(".toList

end Retouch.Style
