import Retouch.Wire.Position

/-!
# Element snapshots

What the page tells the host about an element: a snapshot taken when the element is pointed at or
selected, never changed afterwards.
-/

namespace Retouch

open Retouch.Wire

/-- What an element is to the user. -/
inductive ElementKind where
  /-- A heading or paragraph. -/
  | text
  /-- A button or link. -/
  | button
  /-- A form control. -/
  | input
  /-- An image. -/
  | image
  /-- An element that holds others. -/
  | container
  /-- A list or an item of one. -/
  | list
  /-- Anything else. -/
  | generic
  deriving DecidableEq, Repr, Inhabited

namespace ElementKind

/-- The name of a kind. -/
def label : ElementKind → String
  | .text => "text"
  | .button => "button"
  | .input => "input"
  | .image => "image"
  | .container => "container"
  | .list => "list"
  | .generic => "generic"

/-- All kinds. -/
def all : List ElementKind := [.text, .button, .input, .image, .container, .list, .generic]

/-- The kind that a value names; any other value is a generic one. -/
def read (v : Json) : ElementKind :=
  match v with
  | .str s => (all.find? fun k => k.label == s).getD .generic
  | _ => .generic

end ElementKind

/-- A rectangle on the page. -/
structure Rect where
  /-- The upper edge. -/
  top : Float := 0
  /-- The left edge. -/
  left : Float := 0
  /-- The width. -/
  width : Float := 0
  /-- The height. -/
  height : Float := 0
  deriving Inhabited

namespace Rect

/-- The lower edge. -/
def bottom (r : Rect) : Float := r.top + r.height

/-- The right edge. -/
def right (r : Rect) : Float := r.left + r.width

/-- A rectangle as an object, all its edges given. -/
def toJson (r : Rect) : Json :=
  .obj [("top", .float r.top), ("left", .float r.left), ("width", .float r.width),
    ("height", .float r.height), ("bottom", .float r.bottom), ("right", .float r.right)]

/-- One number of a rectangle; a missing one is zero. -/
def readEdge (ms : Members) (key : String) : Read Float := readNumber ((Table.get? ms key).getD (.int 0))

/-- The rectangle that a value holds; anything but an object is an empty one. -/
def read (v : Json) : Read Rect :=
  match v with
  | .obj ms => do
    .ok ⟨← readEdge ms "top", ← readEdge ms "left", ← readEdge ms "width", ← readEdge ms "height"⟩
  | _ => .ok {}

end Rect

/-- A snapshot of an element. -/
structure Snapshot where
  /-- The selector by which it is found again. -/
  selector : String
  /-- The name of its tag. -/
  tagName : String
  /-- Its classes. -/
  classes : String := ""
  /-- The computed values of its style properties. -/
  computedStyles : Table String String := []
  /-- The values of its inline style. -/
  inlineStyles : Table String String := []
  /-- Where it stands on the page. -/
  rect : Rect := {}
  /-- Its text. -/
  text? : Option String := none
  /-- Its text can be edited in place. -/
  isTextEditable : Bool := false
  /-- Where its markup stands. -/
  position? : Option SourcePosition := none
  /-- The selector of its parent, as it was given; `null` without a parent. -/
  parentSelector : Json := .null
  /-- How many elements it holds. -/
  childCount : Int := 0
  /-- What it is to the user. -/
  kind : ElementKind := .generic
  deriving Inhabited

namespace Snapshot

/-- The snapshot with another position. -/
def withPosition (s : Snapshot) (position? : Option SourcePosition) : Snapshot :=
  { s with position? }

/-- The snapshot with some computed values replaced. -/
def withComputedStyles (s : Snapshot) (updates : Table String String) : Snapshot :=
  { s with computedStyles := Table.merge s.computedStyles updates }

/-- A snapshot as an object. -/
def toJson (s : Snapshot) : Json :=
  .obj ([("selector", .str s.selector), ("tagName", .str s.tagName), ("className", .str s.classes),
      ("computedStyles", textsJson s.computedStyles), ("inlineStyles", textsJson s.inlineStyles),
      ("boundingRect", s.rect.toJson), ("isTextEditable", .bool s.isTextEditable),
      ("childCount", .int s.childCount), ("elementType", .str s.kind.label)] ++
    member? "textContent" s.text? ++
    (match s.position? with
      | some p => [("sourceLocation", p.toJson)]
      | none => []) ++
    (match s.parentSelector with
      | .null => []
      | v => [("parentSelector", v)]))

/-- The snapshot that a value holds. -/
def read (v : Json) : Read Snapshot :=
  match v with
  | .obj ms =>
    match Members.get ms "selector", Members.get ms "tagName" with
    | .str selector, tagName =>
      if selector.isEmpty then refuse (.required "element.selector")
      else match tagName with
        | .str tagName => do
          let rect ← Rect.read (Members.get ms "boundingRect")
          let position? ← SourcePosition.read? (Members.get ms "sourceLocation")
          let count := Members.get ms "childCount"
          let childCount ← if count.truthy then readInteger count else .ok 0
          .ok {
            selector, tagName
            classes := readText ms "className"
            computedStyles := readTexts (Members.get ms "computedStyles")
            inlineStyles := readTexts (Members.get ms "inlineStyles")
            rect
            text? := match Members.get ms "textContent" with
              | .null => none
              | v => some v.text
            isTextEditable := readBool ms "isTextEditable" false
            position?
            parentSelector := Members.get ms "parentSelector"
            childCount
            kind := ElementKind.read (Members.get ms "elementType") }
        | _ => refuse (.required "element.tagName")
    | _, _ => refuse (.required "element.selector")
  | _ => refuse (.notAnObject "element")

end Snapshot

end Retouch
