import Retouch.Project.Path
import Retouch.Wire.Position

/-!
# Where a component was written

A framework may leave notes on the elements it renders: the place of a component in the source, the
component around it and the component that owns it. The nearest place along these links is the
position of the element.
-/

namespace Retouch

/-- The notes of a framework on a component. -/
inductive Fiber where
  /-- A component, its source as the framework noted it, the component around it and the component
  that owns it. -/
  | component (source : Json) (parent? owner? : Option Fiber)

/-- Why a noted source is of no use. -/
inductive PositionFault where
  /-- A line or a column is no number. -/
  | number (f : Json.NumberFault)
  /-- The source is no object. -/
  | notAnObject
  deriving DecidableEq

/-- What a look for a position comes to. -/
abbrev PositionSearch := Except PositionFault (Option SourcePosition)

namespace Fiber

/-- The sources from a component outward: by the component around it if there is one, or else by its
owner. -/
def sources : Fiber → List Json
  | .component source (some parent) _ => source :: parent.sources
  | .component source none (some owner) => source :: owner.sources
  | .component source none none => [source]

/-- How many components are looked at. -/
def reach : Nat := 50

/-- The position that a noted source tells; none without a file name. -/
def positionOf (source : Json) : PositionSearch :=
  if !source.truthy then .ok none
  else match source with
    | .obj ms =>
      let file := Members.get ms "fileName"
      if !file.truthy then .ok none
      else do
        let path := Path.normalizeString file.text
        let line := Members.get ms "lineNumber"
        let line ← if line.truthy then line.toInteger.mapError .number else .ok 0
        let column? ← match Members.get ms "columnNumber" with
          | .null => .ok none
          | v => (v.toInteger.mapError PositionFault.number).map some
        .ok (some ⟨path, line, column?⟩)
    | _ => .error .notAnObject

/-- The first position that a list of sources tells. -/
def firstPosition : List Json → PositionSearch
  | [] => .ok none
  | source :: rest =>
    match positionOf source with
    | .ok none => firstPosition rest
    | found => found

/-- The position of a component. -/
def position (f : Fiber) : PositionSearch := firstPosition (f.sources.take reach)

end Fiber

end Retouch
