import Retouch.Locate.Strategy
import Retouch.Page.Document

/-!
# Selectors

A selector names an id, the values of attributes, or both: `#id`, `[name="value"]`.
-/

namespace Retouch.Page

open Retouch.Text

/-- A selector in parts. -/
structure Query where
  /-- The id. -/
  id? : Option Text
  /-- The attributes and their values. -/
  attributes : List (Text × Text)
  deriving DecidableEq, Repr

namespace Query

/-- The attribute and its value at the start of a text, and how many characters they take. -/
def attributeAt? (t : Text) : Option ((Text × Text) × Nat) := do
  let rest ← dropHead? ['['] t
  let name := rest.takeWhile Locate.isWordOrHyphen
  let rest ← dropHead? ['=', '"'] (rest.drop name.length)
  let value := rest.takeWhile (· != '"')
  let _ ← dropHead? ['"', ']'] (rest.drop value.length)
  if name.isEmpty then none else some ((name, value), name.length + value.length + 5)

/-- The attributes and their values in a text; `skip` counts the characters still to be passed
over. -/
def attributesFrom : Nat → Text → List (Text × Text)
  | _, [] => []
  | skip + 1, _ :: rest => attributesFrom skip rest
  | 0, c :: rest =>
    match attributeAt? (c :: rest) with
    | some (found, n) => found :: attributesFrom (n - 1) rest
    | none => attributesFrom 0 rest

/-- The id that a selector starts with. -/
def idAt? (t : Text) : Option Text :=
  (dropHead? ['#'] t).bind fun rest =>
    let id := rest.takeWhile Locate.isWordOrHyphen
    if id.isEmpty then none else some id

/-- A selector taken apart. -/
def ofText (t : Text) : Query := ⟨idAt? t, attributesFrom 0 t⟩

/-- The selector names nothing. -/
def isEmpty (q : Query) : Bool := q.id?.isNone && q.attributes.isEmpty

/-- The element is one that the selector names. -/
def hits (q : Query) (e : Element) : Bool :=
  q.id?.all (fun id => e.id == String.ofList id) &&
    q.attributes.all fun (name, value) =>
      e.attribute? (String.ofList name) == some (String.ofList value)

end Query

variable {κ : Type}

/-- The first element that a selector names. -/
def query? (p : Page κ) (selector : String) : Option ElementId :=
  let q := Query.ofText selector.toList
  if q.isEmpty then none else p.connected.find? fun id => q.hits (p.element id)

end Retouch.Page
