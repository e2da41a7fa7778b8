import Retouch.Page.Descriptor
import Retouch.Page.Event
import Retouch.Wire.FrameMessage

/-!
# The overlay

While design mode is on, an overlay lies over the page. It shows which element the pointer is over and
which one is selected, lets the user edit texts in place, and shows styles that are not yet in the
source. This module has its state and the parts that everything else is made of: the frames drawn
around elements, and the snapshots that are sent.
-/

namespace Retouch

/-- What the overlay listens for. -/
inductive Trigger where
  /-- The pointer moves. -/
  | mouseMove
  /-- The pointer leaves the page. -/
  | mouseLeave
  /-- A click. -/
  | click
  /-- A double click. -/
  | doubleClick
  /-- A key is pressed. -/
  | keyDown
  /-- A key is pressed in a form control. -/
  | formKeyDown
  /-- A form control gets the focus. -/
  | formFocus
  /-- The page scrolls. -/
  | scroll
  /-- A key is pressed while a text is edited. -/
  | editorKeyDown
  /-- The edited text loses the focus. -/
  | editorBlur
  deriving DecidableEq, Repr

/-- A listener of the overlay. Every time that design mode is switched on, a session begins; a
listener belongs to the session that it was registered in. -/
structure Hook where
  /-- The number of the session. -/
  session : Nat
  /-- What it listens for. -/
  trigger : Trigger
  deriving DecidableEq, Repr

/-- A text that is edited in place. -/
structure TextEdit where
  /-- The element. -/
  element : ElementId
  /-- The frame around the text. -/
  frame : ElementId
  /-- The text itself, in an element of its own. -/
  input : ElementId
  /-- The text before. -/
  oldText : String
  deriving DecidableEq, Repr

/-- What an element looked like before styles were shown on it. -/
structure SavedLook where
  /-- Its class list, if it had one. -/
  classes? : Option String
  /-- Its inline styles of the properties shown, where it had them. -/
  styles : Table String (Option String) := []
  deriving DecidableEq, Repr

/-- What the overlay remembers while design mode is on. -/
structure OverlaySession where
  /-- The element that the pointer is over. -/
  hovered? : Option ElementId := none
  /-- The element that is selected. -/
  selected? : Option ElementId := none
  /-- The text that is edited. -/
  textEdit? : Option TextEdit := none
  /-- What the elements looked like that styles are shown on. -/
  saved : Table ElementId SavedLook := []
  /-- The frame around the element that the pointer is over. -/
  highlight? : Option ElementId := none
  /-- The frame around the selected element. -/
  selection? : Option ElementId := none
  /-- The style sheet. -/
  sheet? : Option ElementId := none
  /-- The overlay lies over the page. -/
  isInstalled : Bool := false
  deriving DecidableEq, Repr, Inhabited

/-- What the user is doing. -/
inductive OverlayMode where
  /-- Nothing. -/
  | idle
  /-- The pointer is over an element. -/
  | hovering
  /-- An element is selected. -/
  | selected
  /-- A text is edited. -/
  | editingText
  deriving DecidableEq, Repr

namespace OverlayMode

/-- The name of a mode. -/
def label : OverlayMode → String
  | .idle => "idle"
  | .hovering => "hovering"
  | .selected => "selected"
  | .editingText => "editing_text"

end OverlayMode

/-- What the user is doing. -/
def OverlaySession.mode (s : OverlaySession) : OverlayMode :=
  if s.textEdit?.isSome then .editingText
  else if s.selected?.isSome then .selected
  else if s.hovered?.isSome then .hovering
  else .idle

/-- An overlay and the page under it. -/
structure Overlay where
  /-- The page. -/
  page : Page Hook
  /-- The elements that are known. -/
  registry : Page.Registry := {}
  /-- What a precise tool knows of the sources of elements. -/
  sources : Table ElementId Json := []
  /-- What the overlay remembers. -/
  session : OverlaySession := {}
  /-- What it remembered in earlier sessions, the first one first. A session that was taken down and
  then began to edit a text leaves its editor on the page. -/
  retired : List OverlaySession := []
  /-- What it has told the host, in order. -/
  sent : List FrameMessage := []

namespace Overlay

/-- The number of the session. -/
def sessionNumber (o : Overlay) : Nat := o.retired.length

/-- A new session begun. -/
def renew (o : Overlay) : Overlay :=
  { o with session := {}, retired := o.retired ++ [o.session] }

/-- The overlay after it has told the host something. -/
def tell (o : Overlay) (m : FrameMessage) : Overlay := { o with sent := o.sent ++ [m] }

/-- The overlay with an element of the page changed. -/
def modify (o : Overlay) (id : ElementId) (f : Element → Element) : Overlay :=
  { o with page := o.page.modify id f }

/-! ### Frames -/

/-- A length in pixels. -/
def pixels (x : Float) : String := String.ofList (Decimal.floatText x ++ ['p', 'x'])

/-- A frame drawn around a rectangle. -/
def drawAround (r : Rect) (frame : Element) : Element :=
  ((((frame.setStyle "top" (pixels r.top) false).setStyle "left" (pixels r.left) false).setStyle
    "width" (pixels r.width) false).setStyle "height" (pixels r.height) false).setStyle
    "display" "block" false

/-- A frame drawn around an element, or hidden without one. -/
def draw (o : Overlay) (frame? element? : Option ElementId) : Overlay :=
  match frame?, element? with
  | none, _ => o
  | some frame, none => o.modify frame (·.setStyle "display" "none" false)
  | some frame, some id => o.modify frame (drawAround (o.page.element id).rect)

/-- The frame around the element that the pointer is over, drawn anew. -/
def drawHighlight (o : Overlay) (element? : Option ElementId) : Overlay :=
  o.draw o.session.highlight? element?

/-- The frame around the selected element, drawn anew. -/
def drawSelection (o : Overlay) (element? : Option ElementId) : Overlay :=
  o.draw o.session.selection? element?

/-! ### Snapshots -/

/-- A snapshot of an element with the position that the framework noted. -/
def snapshot (o : Overlay) (id : ElementId) : Except PositionFault (Overlay × Snapshot) := do
  let position? ← Page.notedPosition o.page id
  let (registry, page, s) := Page.snapshot o.registry o.page id position?
  .ok ({ o with registry, page }, s)

/-- The position that a precise tool knows; a source that is of no use counts as none. -/
def precisePosition? (o : Overlay) (id : ElementId) : Option SourcePosition :=
  (Table.get? o.sources id).bind fun source =>
    match Fiber.positionOf source with
    | .ok found => found
    | .error _ => none

/-- A snapshot of an element with the best position that is known. -/
def preciseSnapshot (o : Overlay) (id : ElementId) : Except PositionFault (Overlay × Snapshot) := do
  let (o, s) ← o.snapshot id
  .ok (o, match o.precisePosition? id with
    | some position => s.withPosition (some position)
    | none => s)

/-- A snapshot of an element, with the best position that is known if it is to be precise. -/
def describe (o : Overlay) (id : ElementId) (precise : Bool) :
    Except PositionFault (Overlay × Snapshot) :=
  if precise then o.preciseSnapshot id else o.snapshot id

/-- The element, if the overlay has to do with it. -/
def visible? (o : Overlay) (target? : Option ElementId) : Option ElementId :=
  target?.filter fun id => !Page.isIgnored o.page id

end Overlay

end Retouch
