import Retouch.Locate.Strategy

/-!
# Where an attribute is edited

The place of an element's class or style attribute: the span of its value, or the place after the
element's name where a new attribute goes. If there is no markup to edit, the cause is given with the
selector of the element and the strategies that were tried.
-/

namespace Retouch

/-! ### Why an element cannot be located -/

/-- Why an element cannot be located. -/
inductive LocateError where
  /-- No strategy finds a tag. -/
  | notFound (hints : Hints)
  /-- The attribute is computed when the page runs. -/
  | computedAttribute (tag name : String) (selector : String) (strategy : Strategy)
  /-- The attribute has no delimiters. -/
  | unquotedAttribute (tag name : String) (selector : String) (strategy : Strategy)
  /-- The attribute that should get a literal value is computed. -/
  | computedLiteral (tag name : String)
  /-- After a first edit no tag can be read in its place. -/
  | tagVanished (selector : String)
  /-- No file of the project holds the element. -/
  | fileUnknown (selector : String)
  deriving DecidableEq, Repr

namespace LocateError

/-- The selector of the element. -/
def selector : LocateError → String
  | .notFound hints => hints.selector
  | .computedAttribute _ _ selector _ | .unquotedAttribute _ _ selector _
  | .tagVanished selector | .fileUnknown selector => selector
  | .computedLiteral _ _ => ""

/-- What was tried. -/
def attempted : LocateError → List String
  | .notFound _ => Strategy.all.map Strategy.label
  | .computedAttribute _ _ _ s | .unquotedAttribute _ _ _ s => [s.label]
  | .tagVanished _ | .computedLiteral _ _ => []
  | .fileUnknown _ =>
    ["file_path", "source_location", "text_content", "selector_id", "class_attribute"]

/-- The wording of an error. -/
def message : LocateError → String
  | .notFound hints => "Could not locate element (" ++ hints.describe ++ ")"
  | .computedAttribute tag name _ _ =>
    "<" ++ tag ++ "> has a computed " ++ name ++ "; only string literals can be edited"
  | .unquotedAttribute tag name _ _ => "<" ++ tag ++ "> has an unquoted " ++ name
  | .computedLiteral tag name => "<" ++ tag ++ "> has a computed " ++ name
  | .tagVanished _ => "Element tag vanished while patching"
  | .fileUnknown _ => "Could not determine file path for element"

end LocateError

/-! ### Places of attributes -/

open Retouch.Text Retouch.Markup

/-- Which attribute is edited. -/
inductive AttributeTarget where
  /-- The class list. -/
  | classes
  /-- The inline style. -/
  | style
  deriving DecidableEq, Repr

/-- Whether an attribute is there already. -/
inductive LocationKind where
  /-- The span is the value of an attribute. -/
  | value
  /-- The span is empty: a new attribute goes there. -/
  | insertion
  deriving DecidableEq, Repr

/-- The name of a kind. -/
def LocationKind.label : LocationKind → String
  | .value => "attribute"
  | .insertion => "insert"

/-- The place of an attribute in a source text. -/
structure Location where
  /-- The offset at which the span starts. -/
  start : Nat
  /-- The offset after the span. -/
  stop : Nat
  /-- The text of the span. -/
  current : Text
  /-- Whether the attribute is there already. -/
  kind : LocationKind
  /-- The strategy that found the tag. -/
  strategy? : Option Strategy
  /-- The tag of the element. -/
  tag : Tag
  /-- The name of the attribute. -/
  attributeName : Text := "className".toList
  /-- The delimiter before the value. -/
  quote : Char := '"'
  deriving DecidableEq, Repr

namespace Locate

/-- The names that an attribute may have. -/
def AttributeTarget.names : AttributeTarget → List Text
  | .classes => classNames
  | .style => ["style".toList]

/-- The name of a new attribute. -/
def AttributeTarget.newName (html : Bool) : AttributeTarget → Text
  | .classes => if html then "class".toList else "className".toList
  | .style => "style".toList

/-- The place of an attribute in a tag. A class list must be a literal, and no value may be without
delimiters. -/
def locationIn (source : Text) (tag : Tag) (strategy : Strategy) (target : AttributeTarget)
    (html : Bool) (selector : String) : Except LocateError Location :=
  match findAttribute? source tag (AttributeTarget.names target) with
  | none =>
    .ok {
      start := tag.nameStop, stop := tag.nameStop, current := [], kind := .insertion,
      strategy? := some strategy, tag, attributeName := AttributeTarget.newName html target }
  | some a =>
    let tagName := String.ofList tag.name
    let name := String.ofList a.name
    let found := fun (quote : Char) => Except.ok {
      start := a.valueStart, stop := a.valueStop, current := a.value source, kind := .value,
      strategy? := some strategy, tag, attributeName := a.name, quote }
    match a.form, target with
    | .literal quote _, _ => found quote
    | .expression, .style => found '{'
    | .expression, .classes | .bare, .classes =>
      .error (.computedAttribute tagName name selector strategy)
    | .bare, .style | .unquoted, _ => .error (.unquotedAttribute tagName name selector strategy)

/-- The tag of an element and the strategy that finds it. -/
def findTag (source : Text) (hints : Hints) (limits : SearchLimits) :
    Except LocateError (Tag × Strategy) :=
  match findTag? source hints limits with
  | some found => .ok found
  | none => .error (.notFound hints)

/-- The place of an element's attribute. -/
def locate (source : Text) (hints : Hints) (target : AttributeTarget) (limits : SearchLimits)
    (html : Bool) : Except LocateError Location := do
  let (tag, strategy) ← findTag source hints limits
  locationIn source tag strategy target html hints.selector

/-- The place of a new attribute whose span runs from `start` to `stop`; none if it would end before
it starts. -/
def spanLocation? (start stop : Int) (tag : Tag) : Option Location :=
  if stop < start then none
  else some {
    start := start.toNat, stop := stop.toNat, current := [], kind := .insertion,
    strategy? := none, tag }

end Locate

end Retouch
