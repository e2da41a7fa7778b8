import Retouch.Json.Value

/-!
# Calls

A host or an overlay can be driven from outside by calls: the name of what is to be done, the arguments
in order, and options by name.
-/

namespace Retouch

/-- A call. -/
structure Call where
  /-- The name of what is to be done. -/
  name : String
  /-- The arguments. -/
  arguments : List Json := []
  /-- The options. -/
  options : Members := []

namespace Call

/-- An argument. -/
def argument (c : Call) (i : Nat) : Json := c.arguments.getD i .null

/-- An argument that is a text. -/
def word (c : Call) (i : Nat) : String := (c.argument i).string?.getD ""

/-- An option that is a condition. -/
def flag (c : Call) (key : String) : Bool := (Members.get c.options key).truthy

end Call

end Retouch
