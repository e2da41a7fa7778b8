import Retouch.Page.Query

/-!
# The registry of elements

Every element that the editor has to do with gets a tracking attribute and a selector. The selector
stays the same as long as the element is there, even if its id changes.

Elements and classes that the editor adds to a page have names of their own, so that they are never
taken for parts of the page.
-/

namespace Retouch.Page

/-- What the ids of the editor's own elements start with. -/
def reservedStart : String := "__liveedit"

/-- A name that belongs to the editor. -/
def isReserved (name : String) : Bool := name.startsWith reservedStart || name.startsWith "liveedit-"

/-- The attribute by which an element is tracked. -/
def trackingAttribute : String := "data-liveedit-id"

/-- The elements that are known. -/
structure Registry where
  /-- How many tracking values were given out. -/
  given : Nat := 0
  /-- What tracking values end in. -/
  salt : String := "abcdef"
  /-- The elements by their tracking values. -/
  elements : Table String ElementId := []
  /-- The selectors by tracking values. -/
  selectors : Table String String := []
  deriving Inhabited

namespace Registry

variable {κ : Type}

/-- The selector of an element by its tracking value and its id. -/
def selectorText (tracking id : String) : String :=
  let base := "[" ++ trackingAttribute ++ "=\"" ++ tracking ++ "\"]"
  if id.isEmpty || isReserved id then base else "#" ++ id ++ base

/-- The tracking value of an element; one that has none gets a new one. -/
def track (r : Registry) (p : Page κ) (id : ElementId) : Registry × Page κ × String :=
  let known := ((p.element id).attribute? trackingAttribute).getD ""
  if known.isEmpty then
    let fresh := "el-" ++ toString (r.given + 1) ++ "-" ++ r.salt
    ({ r with given := r.given + 1 }, p.modify id fun e => e.setAttribute trackingAttribute fresh,
      fresh)
  else (r, p, known)

/-- The selector of an element. -/
def selectorFor (r : Registry) (p : Page κ) (id : ElementId) : Registry × Page κ × String :=
  let (r, p, tracking) := r.track p id
  let r := { r with elements := Table.set r.elements tracking id }
  match Table.get? r.selectors tracking with
  | some selector => (r, p, selector)
  | none =>
    let selector := selectorText tracking (p.element id).id
    ({ r with selectors := Table.set r.selectors tracking selector }, p, selector)

/-- The element of a selector that was given out, or else the first one that the selector names. -/
def resolve? (r : Registry) (p : Page κ) (selector : String) : Option ElementId :=
  let known := r.selectors.findSome? fun (tracking, given) =>
    if given == selector then (Table.get? r.elements tracking).filter p.isConnected else none
  match known with
  | some id => some id
  | none => p.query? selector

/-- The registry without the elements that are no longer on the page, and how many those were. -/
def forgetDetached (r : Registry) (p : Page κ) : Registry × Nat :=
  let stale := (r.elements.filter fun e => !p.isConnected e.2).map (·.1)
  ({ r with
      elements := r.elements.filter fun e => !stale.contains e.1
      selectors := r.selectors.filter fun e => !stale.contains e.1 }, stale.length)

end Registry

end Retouch.Page
