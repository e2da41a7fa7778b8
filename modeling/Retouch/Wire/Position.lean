import Retouch.Locate.Hints
import Retouch.Wire.ReadFault

/-!
# Source positions

Where in the project the markup of an element stands, as the tools that built the page report it.
-/

namespace Retouch

open Retouch.Wire

/-- A position in a source file. -/
structure SourcePosition where
  /-- The path of the file. -/
  path : String
  /-- The line, counted from one; zero if it is unknown. -/
  line : Int
  /-- The column. -/
  column? : Option Int := none
  deriving DecidableEq, Repr, Inhabited

namespace SourcePosition

/-- A position as an object. -/
def toJson (p : SourcePosition) : Json :=
  .obj ([("filePath", .str p.path), ("lineNumber", .int p.line)] ++
    match p.column? with
    | some n => [("columnNumber", .int n)]
    | none => [])

/-- A number in a position: what is no number makes the position bad. -/
def readPlace (v : Json) : Read Int :=
  match v.toInteger with
  | .ok n => .ok n
  | .error f => if f.isRange then .error (.number f) else refuse .badPosition

/-- The position that a value holds; nothing is no position. -/
def read? (v : Json) : Read (Option SourcePosition) :=
  match v with
  | .null => .ok none
  | .obj ms =>
    match Members.get ms "filePath" with
    | .str path => do
      let line := Members.get ms "lineNumber"
      let line ← if line.truthy then readPlace line else .ok 0
      let column ← match Members.get ms "columnNumber" with
        | .null => .ok none
        | v => (readPlace v).map some
      .ok (some ⟨path, line, column⟩)
    | _ => refuse (.notAString "sourceLocation.filePath")
  | _ => refuse (.notAnObject "sourceLocation")

end SourcePosition

/-- Hints from a position, a text and classes. A line of zero is unknown. -/
def Hints.ofPosition (selector : String) (position? : Option SourcePosition)
    (text? classes? : Option String) : Hints where
  selector
  line? := (position?.map (·.line)).filter (0 < ·)
  column? := position?.bind (·.column?)
  text?
  classes?

end Retouch
