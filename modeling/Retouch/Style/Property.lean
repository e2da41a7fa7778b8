import Retouch.Text.Basic
import Retouch.Text.CaseMap

/-!
# Property names

A style property has a name in camel case (`backgroundColor`) and one in kebab case
(`background-color`).
-/

namespace Retouch.Style

open Retouch.Text

/-- An ASCII capital. -/
def isCapital (c : Char) : Bool := 'A' ≤ c && c ≤ 'Z'

/-- An ASCII small letter. -/
def isSmall (c : Char) : Bool := 'a' ≤ c && c ≤ 'z'

/-- An ASCII digit. -/
def isFigure (c : Char) : Bool := '0' ≤ c && c ≤ '9'

/-- A piece of a name with its first letter capital. -/
def capitalize : Text → Text
  | [] => []
  | c :: rest => upperChar c ++ rest

/-- The name in camel case: every piece after a hyphen starts with a capital. -/
def camelCase (name : Text) : Text :=
  match splitOn '-' (strip name) with
  | [] => []
  | head :: pieces => head ++ (pieces.map capitalize).flatten

/-- Kebab case after the character `before`: a capital after a small letter or a figure gets a
hyphen and becomes small. -/
def kebabAfter : Option Char → Text → Text
  | _, [] => []
  | before, c :: rest =>
    (if isCapital c && before.any (fun b => isSmall b || isFigure b) then '-' :: lowerChar c else [c])
      ++ kebabAfter (some c) rest

/-- The name in kebab case. -/
def kebabCase (name : Text) : Text := kebabAfter none (strip name)

end Retouch.Style
