import Retouch.Decimal.Numeral
import Retouch.Style.Change
import Retouch.Style.ClassList
import Retouch.Style.Membership

/-!
# Utility classes for style values

A property and a value become one utility class: a named step of the property's scale where there is
one, otherwise the value itself in square brackets, with underscores for blanks. A change to a
property replaces the editable classes that set it.
-/

namespace Retouch.Style

open Retouch.Text

/-- A utility class and the rule of its property. -/
structure Utility where
  /-- The class. -/
  token : Text
  /-- The rule of the property. -/
  rule : Rule
  deriving DecidableEq, Repr

/-- Characters that no arbitrary value may hold. -/
def unsafeChars : List Char :=
  ['"', '\'', Markup.backQuote, '{', '}', '<', '>', '[', ']', '\\', '\n', '\r']

/-- The text without the blanks around its commas. -/
def tightenCommas (t : Text) : Text := join [','] (tighten (splitOn ',' t))
where
  /-- Pieces between commas without the blanks next to a comma. -/
  tighten : List Text → List Text
    | [] => []
    | [only] => [only]
    | first :: rest => stripEnd first :: tightenRest rest
  /-- Pieces after a comma. -/
  tightenRest : List Text → List Text
    | [] => []
    | [last] => [stripStart last]
    | piece :: rest => strip piece :: tightenRest rest

/-- A value in square brackets after a stem, with a hint before it. -/
def arbitrary (stem : Text) (value : Text) (property : String) (hint : Text) :
    Except ConversionError Text :=
  let raw := strip value
  if raw.isEmpty then .error (.blankValue property (String.ofList value))
  else if raw.any unsafeChars.contains then .error (.unsafeValue property (String.ofList value))
  else
    let body := squeezeBlanks '_' (tightenCommas raw)
    let token := '[' :: hint ++ body ++ [']']
    .ok (if stem.isEmpty then token else stem ++ '-' :: token)

/-- The stem, a hyphen and a named step. -/
def named (stem : String) (step : String) : Text := stem.toList ++ '-' :: step.toList

/-- The step that a table has for a value in its normal spelling. -/
def step? (table : List (String × String)) (value : Text) : Option String :=
  table.lookup (String.ofList (normalize value))

/-- The class for a colour. A colour that reads like a length says that it is none. -/
def colorToken (stem : String) (value : Text) (property : String) : Except ConversionError Text :=
  let normal := normalizeColor value
  match colorKeywords.lookup (String.ofList normal) with
  | some word => .ok (named stem word)
  | none =>
    match colorName? (String.ofList normal) with
    | some name => .ok (named stem name)
    | none =>
      let literal := if startsWith normal ['#'] then normal else strip value
      arbitrary stem.toList literal property (if isLength literal then "color:".toList else [])

/-- The arbitrary class for a length. A value that does not read like one says that it is. -/
def lengthToken (stem : String) (value : Text) (property : String) : Except ConversionError Text :=
  let raw := strip value
  arbitrary stem.toList raw property (if isLength raw then [] else "length:".toList)

/-- The class that a table gives for a word. -/
def wordToken (table : List (String × String)) (value : Text) (property : String) :
    Except ConversionError Text :=
  match step? table value with
  | some token => .ok token.toList
  | none => .error (.unnamedValue property (String.ofList value))

/-- The named step of a table, or the arbitrary value. -/
def steppedToken (table : List (String × String)) (stem : String) (value : Text)
    (property : String) : Except ConversionError Text :=
  match step? table value with
  | some step => .ok (named stem step)
  | none => arbitrary stem.toList value property []

/-- The class for an opacity: whole steps of five percent have a name. -/
def opacityToken (value : Text) (property : String) : Except ConversionError Text :=
  let v := normalize value
  let amount? :=
    if v.getLast? == some '%' then (Decimal.floatOf? v.dropLast).map (· / 100)
    else Decimal.floatOf? v
  match amount? with
  | none => .error (.notANumber property (String.ofList value))
  | some amount =>
    if !(0 ≤ amount && amount ≤ 1) then .error (.outOfRange property (String.ofList value))
    else
      let percent := Decimal.roundPlaces 4 (amount * 100)
      match (Decimal.Parts.of percent).truncate? with
      | some n =>
        if percent == Float.ofInt n && n % 5 == 0 then .ok (named "opacity" (toString n))
        else arbitrary "opacity".toList (Decimal.sixDigitText amount) property []
      | none => arbitrary "opacity".toList (Decimal.sixDigitText amount) property []

/-- The address inside `url(…)`, with the quotes around it left out; `inside` is what follows the
opening bracket. -/
def addressIn? (inside : Text) : Option Text :=
  if inside.getLast? != some ')' then none
  else
    let start := stripStart inside.dropLast
    let body := stripEnd start
    let quoted? : Option Text :=
      match body with
      | q :: rest =>
        if (q == '"' || q == '\'') && rest.getLast? == some q && !rest.dropLast.contains '\n' then
          some rest.dropLast
        else none
      | [] => none
    match quoted? with
    | some address => some address
    | none => if body.contains '\n' then none else some body

/-- The class for a background image. -/
def imageToken (value : Text) (property : String) : Except ConversionError Text :=
  let v := strip value
  let low := lower v
  let address? := if (lower (v.take 4)) == "url(".toList then addressIn? (v.drop 4) else none
  if low == "none".toList then .ok "bg-none".toList
  else match address? with
    | some address => arbitrary "bg".toList ("url(".toList ++ address ++ [')']) property []
    | none =>
      if has low "gradient(".toList then arbitrary "bg".toList v property []
      else .error (.unsupportedImage property (String.ofList value))

/-- The class for a value by the shape of its property. -/
def tokenFor (rule : Rule) (value : Text) (property : String) : Except ConversionError Text :=
  match rule.shape with
  | .color => colorToken rule.stem value property
  | .fontSize =>
    match step? fontSizes value with
    | some size => .ok (named "text" size)
    | none => lengthToken "text" value property
  | .fontWeight =>
    match step? fontWeights value with
    | some weight => .ok (named "font" weight)
    | none =>
      let v := normalize value
      if allDigits v then .ok ("font-[".toList ++ v ++ [']'])
      else .error (.unnamedValue property (String.ofList value))
  | .textAlign => wordToken textAlignments value property
  | .spacing =>
    if startsWith rule.stem.toList ['m'] && normalize value == "auto".toList then
      .ok (named rule.stem "auto")
    else steppedToken spacings rule.stem value property
  | .borderWidth =>
    match step? borderWidths value with
    | some width => .ok (rule.stem ++ width).toList
    | none => lengthToken rule.stem value property
  | .radius =>
    match step? radii value with
    | some radius => .ok (rule.stem ++ radius).toList
    | none => arbitrary rule.stem.toList value property []
  | .borderStyle => wordToken borderStyles value property
  | .display => wordToken displays value property
  | .textTransform => wordToken textTransforms value property
  | .textDecoration => wordToken textDecorations value property
  | .lineHeight => steppedToken lineHeights "leading" value property
  | .letterSpacing => steppedToken letterSpacings "tracking" value property
  | .opacity => opacityToken value property
  | .size => steppedToken (sizeKeywords ++ spacings) rule.stem value property
  | .backgroundImage => imageToken value property

/-- The utility class for a property and a value. -/
def utilityFor (property value : String) : Except ConversionError Utility :=
  match ruleFor? property with
  | none => .error (.unmapped property value)
  | some rule => (tokenFor rule value.toList property).map fun token => ⟨token, rule⟩

/-! ### Changes to a class text -/

/-- A change folded into a class text: the new text, and the class that stands for the change, empty
if the property was taken away. -/
def applyToClasses (classes : Text) (change : StyleChange) : Except ConversionError (Text × Text) :=
  if change.removes then
    match ruleFor? change.property with
    | none => .error (.unmapped change.property "")
    | some rule => .ok (replaceTokens classes (belongs rule) [], [])
  else
    (utilityFor change.property change.newValue).map fun u =>
      (replaceTokens classes (belongs u.rule) u.token, u.token)

/-- The class text without the editable classes that set a property. -/
def removeProperty (classes : Text) (property : String) : Text :=
  match ruleFor? property with
  | none => classes
  | some rule => replaceTokens classes (belongs rule) []

/-- The first editable class that sets a property. -/
def tokenOf? (classes : Text) (property : String) : Option Text :=
  (ruleFor? property).bind fun rule => findToken? classes (belongs rule)

end Retouch.Style
