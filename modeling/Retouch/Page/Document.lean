import Retouch.Page.Element

/-!
# The page

A page numbers its elements in order of creation; the first three are the root, the head and the
body. An element is connected if it can be reached from the root. Its parent is the element that it is
a child of, so no element has two.

The page knows which element has the focus, and which listeners are registered on which elements.
`κ` names the listeners of a tool that works on the page; listeners of the page's own are told apart by
their names, and the page keeps a record of what they hear.
-/

namespace Retouch

/-- What a listener of the page itself does with an event. -/
inductive OwnEffect where
  /-- Nothing. -/
  | nothing
  /-- It stops the event. -/
  | stop
  /-- It prevents what the event would do by default. -/
  | prevent
  /-- It takes the focus away from the target. -/
  | blur
  deriving DecidableEq, Repr

/-- A listener of the page itself. -/
structure OwnListener where
  /-- Its name. -/
  name : String
  /-- What it does with an event. -/
  effect : OwnEffect
  deriving DecidableEq, Repr

/-- A listener on a page. -/
inductive Listener (κ : Type) where
  /-- The page's own. -/
  | own (l : OwnListener)
  /-- A tool's. -/
  | tool (k : κ)
  deriving DecidableEq, Repr

/-- A listener registered on an element, or on the whole page. -/
structure Registration (κ : Type) where
  /-- The element; none for the whole page. -/
  place? : Option ElementId
  /-- The type of events. -/
  type : String
  /-- The listener is called on the way down to the target, not on the way up. -/
  isCapturing : Bool
  /-- The listener. -/
  listener : Listener κ
  deriving DecidableEq, Repr

/-- A page. -/
structure Page (κ : Type) where
  /-- The elements by their numbers. -/
  elements : List Element
  /-- The element that has the focus. -/
  active? : Option ElementId := none
  /-- The listeners, in order of registration. -/
  registrations : List (Registration κ) := []
  /-- What the page's own listeners have heard: their names and the targets. -/
  heard : List (String × Option ElementId) := []

namespace Page

variable {κ : Type}

/-- The root. -/
def root : ElementId := 0

/-- The head. -/
def head : ElementId := 1

/-- The body. -/
def body : ElementId := 2

/-- An empty page. -/
def empty : Page κ where
  elements := [
    { tag := "html", children := [.element head, .element body] }, { tag := "head" },
    { tag := "body" }]

instance : Inhabited (Page κ) := ⟨empty⟩

/-! ### Elements -/

/-- The element of a number; one without a tag if there is none. -/
def element (p : Page κ) (id : ElementId) : Element := (p.elements[id]?).getD { tag := "" }

/-- The page with an element changed. -/
def modify (p : Page κ) (id : ElementId) (f : Element → Element) : Page κ :=
  { p with elements := p.elements.modify id f }

/-- The page with a new element, and the number of that element. -/
def create (p : Page κ) (e : Element) : Page κ × ElementId :=
  ({ p with elements := p.elements ++ [e] }, p.elements.length)

/-! ### The tree -/

/-- The element that another one is a child of. -/
def parent? (p : Page κ) (id : ElementId) : Option ElementId :=
  p.elements.findIdx? fun e => e.children.contains (.element id)

/-- At most `n` ancestors of an element, the parent first. -/
def ancestorsWithin (p : Page κ) : Nat → ElementId → List ElementId
  | 0, _ => []
  | n + 1, id =>
    match p.parent? id with
    | some parent => parent :: ancestorsWithin p n parent
    | none => []

/-- The ancestors of an element, the parent first. -/
def ancestors (p : Page κ) (id : ElementId) : List ElementId :=
  p.ancestorsWithin p.elements.length id

/-- The element can be reached from the root. -/
def isConnected (p : Page κ) (id : ElementId) : Bool := (p.ancestors id).getLastD id == root

/-- An element and what it holds, `n` levels deep, in the order of the document. -/
def subtreeWithin (p : Page κ) : Nat → ElementId → List ElementId
  | 0, id => [id]
  | n + 1, id => id :: (p.element id).elements.flatMap (subtreeWithin p n)

/-- The elements that can be reached from the root, in the order of the document. -/
def connected (p : Page κ) : List ElementId := p.subtreeWithin p.elements.length root

/-- The text of an element, `n` levels deep. -/
def textWithin (p : Page κ) : Nat → ElementId → String
  | 0, _ => ""
  | n + 1, id => String.join ((p.element id).children.map fun c =>
    match c with
    | .text t => t
    | .element child => textWithin p n child)

/-- All the text of an element. -/
def text (p : Page κ) (id : ElementId) : String := p.textWithin (p.elements.length + 1) id

/-! ### Changing the tree -/

/-- The page after an element has left the tree: the focus is lost if it was inside. -/
def dropFocus (p : Page κ) (id : ElementId) : Page κ :=
  match p.active? with
  | some active =>
    if active == id || (p.ancestors active).contains id then { p with active? := none } else p
  | none => p

/-- The page with a child taken away from an element. -/
def removeChild (p : Page κ) (parent child : ElementId) : Page κ :=
  if (p.element parent).children.contains (.element child) then
    (p.modify parent fun e => { e with children := e.children.erase (.element child) }).dropFocus
      child
  else p

/-- The page with an element taken away from its parent. -/
def remove (p : Page κ) (id : ElementId) : Page κ :=
  match p.parent? id with
  | some parent => p.removeChild parent id
  | none => p

/-- The page with a text at the end of an element. -/
def appendText (p : Page κ) (id : ElementId) (t : String) : Page κ :=
  p.modify id fun e => { e with children := e.children ++ [.text t] }

/-- The page with an element moved to the end of another one. -/
def append (p : Page κ) (parent child : ElementId) : Page κ :=
  (p.remove child).modify parent fun e => { e with children := e.children ++ [.element child] }

/-- The page with a text in place of everything that an element holds. -/
def setText (p : Page κ) (id : ElementId) (t : String) : Page κ :=
  let p := (p.element id).elements.foldl (fun p child => p.removeChild id child) p
  p.modify id fun e => { e with children := [.text t] }

/-! ### Finding elements -/

/-- The first element with an id. -/
def byId? (p : Page κ) (id : String) : Option ElementId :=
  p.connected.find? fun e => (p.element e).id == id

/-! ### Listeners -/

/-- The page with a listener registered, unless it is already. -/
def listen [DecidableEq κ] (p : Page κ) (r : Registration κ) : Page κ :=
  if p.registrations.contains r then p else { p with registrations := p.registrations ++ [r] }

/-- The page without a listener. -/
def unlisten [DecidableEq κ] (p : Page κ) (r : Registration κ) : Page κ :=
  { p with registrations := p.registrations.erase r }

/-- The listeners in one place for one type of events, in one direction. -/
def listeners (p : Page κ) (place? : Option ElementId) (type : String) (isCapturing : Bool) :
    List (Listener κ) :=
  (p.registrations.filter fun r =>
    r.place? == place? && r.type == type && r.isCapturing == isCapturing).map (·.listener)

/-- How many listeners there are in one place, for one type of events or for all. -/
def listenerCount (p : Page κ) (place? : Option ElementId) (type? : Option String) : Nat :=
  (p.registrations.filter fun r => r.place? == place? && type?.all (· == r.type)).length

end Page

end Retouch
