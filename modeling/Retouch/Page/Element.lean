import Retouch.Page.Fiber
import Retouch.Style.Property
import Retouch.Text.CaseMap
import Retouch.Wire.Element

/-!
# Elements

An element of a page has a tag, attributes, an inline style, and children: texts and other elements.
Elements refer to each other by number.

An inline style names its properties in kebab case, a script in camel case. Both directions work on
plain ASCII letters and leave everything else alone.
-/

/-! ### Names of inline styles -/

namespace Retouch.Page

open Retouch.Style

/-- An ASCII letter one case over: `'a'` and `'A'` change places. -/
def swapCase (c : Char) : Char :=
  if isCapital c then Char.ofNat (c.toNat + 32)
  else if isSmall c then Char.ofNat (c.toNat - 32)
  else c

/-- The name of a property in an inline style: every capital becomes a hyphen and a small letter. -/
def cssName (name : Text) : Text :=
  name.flatMap fun c => if isCapital c then ['-', swapCase c] else [c]

/-- The name of a property in a script: every hyphen before a small letter goes, and the letter
becomes a capital. -/
def scriptName : Text → Text
  | [] => []
  | [c] => [c]
  | '-' :: c :: rest =>
    if isSmall c then swapCase c :: scriptName rest else '-' :: scriptName (c :: rest)
  | c :: d :: rest => c :: scriptName (d :: rest)

end Retouch.Page

/-! ### Elements and their children -/

namespace Retouch

/-- The number of an element on its page. -/
abbrev ElementId := Nat

/-- A child of an element. -/
inductive Node where
  /-- A text. -/
  | text (t : String)
  /-- An element. -/
  | element (id : ElementId)
  deriving DecidableEq, Repr

namespace Node

/-- The text, if the child is one. -/
def text? : Node → Option String
  | .text t => some t
  | .element _ => none

/-- The element, if the child is one. -/
def element? : Node → Option ElementId
  | .text _ => none
  | .element id => some id

end Node

/-- An element of a page. -/
structure Element where
  /-- The name of its tag, in small letters. -/
  tag : String
  /-- Its attributes. -/
  attributes : Table String String := []
  /-- Its inline style. -/
  style : Table String String := []
  /-- The properties of its inline style that are marked important. -/
  important : List String := []
  /-- What other style sheets make of it. -/
  computed : Table String String := []
  /-- Where it stands. -/
  rect : Rect := {}
  /-- The notes of the framework that rendered it. -/
  fiber? : Option Fiber := none
  /-- Its text can be typed over. -/
  isEditable : Bool := false
  /-- What it holds. -/
  children : List Node := []
  deriving Inhabited

namespace Element

/-- An element with a tag and attributes. -/
def ofTag (tag : String) (attributes : Table String String) : Element where
  tag := String.ofList (Text.lower tag.toList)
  attributes

/-! ### Attributes -/

/-- The value of an attribute. -/
def attribute? (e : Element) (name : String) : Option String := Table.get? e.attributes name

/-- The element with an attribute set. -/
def setAttribute (e : Element) (name value : String) : Element :=
  { e with attributes := Table.set e.attributes name value }

/-- The element without an attribute. -/
def removeAttribute (e : Element) (name : String) : Element :=
  { e with attributes := Table.erase e.attributes name }

/-- The id of an element, empty if it has none. -/
def id (e : Element) : String := (e.attribute? "id").getD ""

/-- The class list of an element, empty if it has none. -/
def classes (e : Element) : String := (e.attribute? "class").getD ""

/-! ### Styles -/

/-- The element with a property of its inline style set. -/
def setStyle (e : Element) (name value : String) (isImportant : Bool) : Element :=
  let others := e.important.filter (· != name)
  { e with
    style := Table.set e.style name value
    important := if isImportant then others ++ [name] else others }

/-- The element without a property of its inline style. -/
def removeStyle (e : Element) (name : String) : Element :=
  { e with
    style := Table.erase e.style name
    important := e.important.filter (· != name) }

/-- The inline style with its properties named as in a script. -/
def inlineStyles (e : Element) : Table String String :=
  e.style.foldl (fun t s => Table.set t (String.ofList (Page.scriptName s.1.toList)) s.2) []

/-- The computed style: the inline style wins over other style sheets. -/
def computedStyle (e : Element) : Table String String := Table.merge e.computed e.inlineStyles

/-! ### Children -/

/-- The elements among the children. -/
def elements (e : Element) : List ElementId := e.children.filterMap Node.element?

/-- The texts among the children. -/
def texts (e : Element) : List String := e.children.filterMap Node.text?

/-- The text that stands in the element itself, without the blanks around it. -/
def directText (e : Element) : String := Text.stripString (String.join e.texts)

/-- The children with the first text among them that is not blank replaced; none if there is no such
text. -/
def replaceFirstText? (new : String) : List Node → Option (List Node)
  | [] => none
  | .text t :: rest =>
    if Text.isBlankText t.toList then (replaceFirstText? new rest).map (.text t :: ·)
    else some (.text new :: rest)
  | .element id :: rest => (replaceFirstText? new rest).map (.element id :: ·)

/-- The element with its first text that is not blank replaced; without one, the text comes last. -/
def replaceDirectText (e : Element) (new : String) : Element :=
  { e with children := (replaceFirstText? new e.children).getD (e.children ++ [.text new]) }

end Element

end Retouch
