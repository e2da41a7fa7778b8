import Retouch.Style.Rule
import Retouch.Style.Scale
import Retouch.Style.Value

/-!
# Membership of utility classes

Whether a utility class sets the property that a rule describes. A class is the stem, a hyphen and a
value: a named step, or an arbitrary value in square brackets. Where properties share a stem, the
arbitrary value decides: a length is a size, anything else a colour. A final line feed does not
count.
-/

namespace Retouch.Style

open Retouch.Text

/-- The part of a token after its stem and a hyphen. -/
def afterStem? (stem : String) (token : Text) : Option Text :=
  dropHead? (stem.toList ++ ['-']) token

/-- What stands between square brackets that span the text: at least one character, no line feed. -/
def bracketBody? : Text → Option Text
  | '[' :: rest =>
    if rest.getLast? == some ']' && !rest.dropLast.isEmpty && !rest.dropLast.contains '\n' then
      some rest.dropLast
    else none
  | _ => none

/-- A value in square brackets. -/
def isBracketed (t : Text) : Bool := (bracketBody? t).isSome

/-- The arbitrary value of a token with a stem. -/
def arbitraryBody? (stem : String) (token : Text) : Option Text :=
  if stem.isEmpty then none else (afterStem? stem (dropFinalBreak token)).bind bracketBody?

/-- A non-empty run of decimal digits. -/
def isNumber (t : Text) : Bool := !t.isEmpty && t.all isDecimal

/-- Digits with an optional fraction. -/
def isStep (t : Text) : Bool :=
  match splitOn '.' t with
  | [whole] => isNumber whole
  | [whole, fraction] => isNumber whole && isNumber fraction
  | _ => false

/-- Two numbers with a slash between. -/
def isFraction (t : Text) : Bool :=
  match splitOn '/' t with
  | [upper, lower] => isNumber upper && isNumber lower
  | _ => false

/-- One of some words. -/
def isOneOf (ws : List String) (t : Text) : Bool := ws.contains (String.ofList t)

/-- A whole token that a table gives. -/
def isEntry (table : List (String × String)) (token : Text) : Bool :=
  (table.map (·.2)).contains (String.ofList token)

/-- A text and the number after its last slash, if it ends with one. -/
def fadeParts? (t : Text) : Option (Text × Text) :=
  let tail := (t.reverse.takeWhile (· != '/')).reverse
  let rest := t.take (t.length - tail.length)
  if rest.getLast? == some '/' && isNumber tail then some (rest.dropLast, tail) else none

/-- The text without an opacity after its last slash. -/
def withoutFade (t : Text) : Text :=
  match fadeParts? t with
  | some (body, _) => body
  | none => t

/-- The named colours that every stem has. -/
def basicColors : List String := ["inherit", "current", "transparent", "black", "white"]

/-- A colour by name: a basic one, or a family and two or three digits. -/
def isColorName (t : Text) : Bool :=
  isOneOf basicColors t ||
    families.any fun family =>
      match dropHead? (family.toList ++ ['-']) t with
      | some shade => isNumber shade && (shade.length == 2 || shade.length == 3)
      | none => false

/-- An arbitrary value that is a colour for the stem. -/
def isColorBody (stem : String) (body : Text) : Bool :=
  !(stem == "bg" && looksLikeImage body) && !isLength body

/-- An arbitrary colour followed by its opacity: the token without the opacity. -/
def fadedArbitrary? (token : Text) : Option Text :=
  match fadeParts? (dropFinalBreak token) with
  | some (body, _) =>
    if body.getLast? == some ']' && 1 < body.length && !body.contains '\n' then some body else none
  | none => none

/-- A token that sets a colour. -/
def isColorToken (stem : String) (token : Text) : Bool :=
  (afterStem? stem (dropFinalBreak token)).any (fun rest => isColorName (withoutFade rest)) ||
    match arbitraryBody? stem token with
    | some body => isColorBody stem body
    | none =>
      match (fadedArbitrary? token).bind (arbitraryBody? stem) with
      | some body => isColorBody stem body
      | none => false

/-- The named font sizes. -/
def fontSizeNames : List String :=
  ["xs", "sm", "base", "lg", "xl", "2xl", "3xl", "4xl", "5xl", "6xl", "7xl", "8xl", "9xl"]

/-- A named font size with an optional line height after a slash. -/
def isFontSizeName (t : Text) : Bool :=
  match splitOn '/' t with
  | [size] => isOneOf fontSizeNames size
  | [size, height] =>
    isOneOf fontSizeNames size && !height.isEmpty && height.all fun c => isWord c || c == '.'
  | _ => false

/-- A direction of a gradient: one or two sides. -/
def isDirection (t : Text) : Bool :=
  (t.length == 1 || t.length == 2) && t.all ['t', 'r', 'b', 'l'].contains

/-- The part of a token after its stem satisfies `p`. -/
def stemThen (stem : String) (p : Text → Bool) (token : Text) : Bool :=
  (afterStem? stem (dropFinalBreak token)).any p

/-- The arbitrary value of a token satisfies `p`. -/
def bodyThen (stem : String) (p : Text → Bool) (token : Text) : Bool :=
  (arbitraryBody? stem token).any p

/-- The token is the stem alone. -/
def isStem (stem : String) (token : Text) : Bool := dropFinalBreak token == stem.toList

/-- The token without a minus sign before it. -/
def withoutMinus : Text → Text
  | '-' :: rest => rest
  | t => t

/-- The token sets what the rule describes. -/
def belongs (rule : Rule) (token : Text) : Bool :=
  match rule.shape with
  | .color => isColorToken rule.stem token
  | .fontSize => stemThen "text" isFontSizeName token || bodyThen rule.stem isLength token
  | .fontWeight =>
    stemThen "font" (isOneOf ["thin", "extralight", "light", "normal", "medium", "semibold", "bold",
      "extrabold", "black"]) token || bodyThen rule.stem allDigits token
  | .textAlign => isEntry textAlignments token
  | .spacing =>
    let steps := fun t => isStep t || isOneOf ["px", "auto"] t || isBracketed t
    stemThen rule.stem steps token || stemThen rule.stem steps (withoutMinus token)
  | .borderWidth =>
    isStem rule.stem token || stemThen rule.stem (isOneOf ["0", "2", "4", "8"]) token ||
      bodyThen rule.stem isLength token
  | .radius =>
    isStem rule.stem token ||
      stemThen rule.stem (fun t =>
        isOneOf ["none", "sm", "md", "lg", "xl", "2xl", "3xl", "full"] t || isBracketed t) token
  | .borderStyle => isEntry borderStyles token
  | .display => isEntry displays token || token == "inline-table".toList
  | .textTransform => isEntry textTransforms token
  | .textDecoration => isEntry textDecorations token
  | .lineHeight =>
    stemThen "leading" (fun t =>
      isOneOf ["none", "tight", "snug", "normal", "relaxed", "loose"] t || isNumber t ||
        isBracketed t) token
  | .letterSpacing =>
    stemThen "tracking" (fun t =>
      isOneOf ["tighter", "tight", "normal", "wide", "wider", "widest"] t || isBracketed t) token
  | .opacity => stemThen "opacity" (fun t => isNumber t || isBracketed t) token
  | .size =>
    stemThen rule.stem (fun t =>
      isStep t || isOneOf ["px", "auto", "full", "screen", "min", "max", "fit"] t || isFraction t ||
        isBracketed t) token
  | .backgroundImage =>
    token == "bg-none".toList || stemThen "bg-gradient-to" isDirection token ||
      bodyThen rule.stem looksLikeImage token

end Retouch.Style
