import Retouch.Host.History
import Retouch.Wire.FrameMessage
import Retouch.Wire.Response

/-!
# The host

The host is the user's side of the editor: it knows what is selected, keeps the layers of styles and
the history of edits, tells the preview frame what to show, and sends requests to the backend over a
link. A link may deliver the answers at once, later, or not at all; it may refuse a request.

There are two layers of styles by selector: those that the backend was asked to write, and those that are
only shown. What an element shows is the first layer with the second one on top.
-/

namespace Retouch

/-! ### Layers of styles -/

/-- Values of style properties. -/
abbrev Styles := Table String String

/-- A layer: styles by selector. -/
abbrev Layer := Table String Styles

namespace Layer

/-- The styles of an element. -/
def styles (l : Layer) (selector : String) : Styles := (Table.get? l selector).getD []

/-- The layer with the styles of an element set; an element without styles is left out. -/
def put (l : Layer) (selector : String) (s : Styles) : Layer :=
  if s.isEmpty then Table.erase l selector else Table.set l selector s

/-- Putting the styles of one element leaves those of all others. -/
theorem styles_put (l : Layer) (selector other : String) (s : Styles) :
    (l.put selector s).styles other = if other == selector then s else l.styles other := by
  cases s with
  | nil =>
    simp only [put, List.isEmpty_nil, if_pos, styles, Table.get?_erase]
    cases other == selector <;> rfl
  | cons e s =>
    simp only [put, List.isEmpty_cons, Bool.false_eq_true, if_false, styles, Table.get?_set]
    cases other == selector <;> rfl

end Layer

namespace Styles

/-- The styles after a change: an empty value takes the property away. -/
def apply (s : Styles) (c : StyleChange) : Styles :=
  if c.newValue.isEmpty then Table.erase s c.property else Table.set s c.property c.newValue

/-- The styles without the properties of some changes. -/
def without (s : Styles) (changes : List StyleChange) : Styles :=
  changes.foldl (fun s c => Table.erase s c.property) s

end Styles

/-! ### Links, events and state -/

/-- A link to the backend. Sending a request delivers messages at once, or is refused for a reason. -/
class Link (κ : Type) where
  /-- Sends a request. -/
  send : κ → Json → κ × Except String (List Json)

/-- What the host makes known. -/
inductive HostEvent where
  /-- Another element is selected, or none. -/
  | selectionChanged (selector? : Option String)
  /-- The pointer is over another element, or over none. -/
  | hoverChanged (selector? : Option String)
  /-- The state of the link has changed. -/
  | syncChanged (isSyncing : Bool) (error? : Option String) (hasPendingChanges : Bool)
  /-- The history has changed. -/
  | historyChanged (index : Int) (length : Nat)
  /-- An upload is complete. -/
  | uploadCompleted (upload path : String)
  /-- A place in the code is to be opened. -/
  | codeOpened (path : String) (line : Int)
  deriving DecidableEq, Repr

/-- What was asked of the backend for an edit. -/
inductive EditStep where
  /-- To write it. -/
  | apply
  /-- To take it back or to make it again. -/
  | move (d : Direction)
  deriving DecidableEq, Repr

/-- An edit that the backend has not answered yet. -/
structure PendingEdit where
  /-- What was asked. -/
  step : EditStep
  /-- The committed styles of the element before. -/
  before : Styles
  deriving DecidableEq, Repr

/-- The host. -/
structure Host (κ : Type) where
  /-- The link to the backend. -/
  link? : Option κ
  /-- The tag of this application's messages. -/
  tag : String := Wire.defaultTag
  /-- Places in the code can be opened. -/
  opensCode : Bool := true
  /-- Design mode is on. -/
  isEnabled : Bool := false
  /-- The element that is selected. -/
  selected? : Option Snapshot := none
  /-- The element that the pointer is over. -/
  hovered? : Option Snapshot := none
  /-- What went wrong last. -/
  syncError? : Option String := none
  /-- Something was written that the preview was not deployed with. -/
  hasPendingChanges : Bool := false
  /-- The uploads under way: how many pieces have arrived, and how many there are. -/
  uploads : Table String (Int × Int) := []
  /-- The styles that the backend was asked to write. -/
  committed : Layer := []
  /-- The styles that are only shown. -/
  preview : Layer := []
  /-- How many requests are not answered yet. -/
  inFlight : Nat := 0
  /-- The edits that are not answered yet, by their ids. -/
  awaiting : Table String PendingEdit := []
  /-- The history of edits. -/
  history : History := {}
  /-- How many ids were given out. -/
  idsGiven : Nat := 0
  /-- What the host has made known, in order. -/
  events : List HostEvent := []
  /-- What the host has told the frame, in order. -/
  told : List HostMessage := []
  /-- The requests that the link was given, in order. -/
  requests : List Json := []

namespace Host

variable {κ : Type}

/-- A request is not answered yet. -/
def isSyncing (h : Host κ) : Bool := 0 < h.inFlight

/-- What an element shows. -/
def effective (h : Host κ) (selector : String) : Styles :=
  Table.merge (h.committed.styles selector) (h.preview.styles selector)

/-! ### Telling -/

/-- The host after it has made something known. -/
def announce (h : Host κ) (e : HostEvent) : Host κ := { h with events := h.events ++ [e] }

/-- The host after it has told the frame something. -/
def tell (h : Host κ) (m : HostMessage) : Host κ := { h with told := h.told ++ [m] }

/-- The frame shows exactly what the element shows. -/
def display (h : Host κ) (selector : String) : Host κ :=
  let styles := h.effective selector
  h.tell (if styles.isEmpty then .clearPreview (some selector) else .previewStyle selector styles)

/-- The state of the link made known. -/
def announceSync (h : Host κ) : Host κ :=
  h.announce (.syncChanged h.isSyncing h.syncError? h.hasPendingChanges)

/-- The host after something went wrong. -/
def fail (h : Host κ) (reason : String) : Host κ :=
  ({ h with syncError? := some reason } : Host κ).announceSync

/-- The state of the history made known. -/
def announceHistory (h : Host κ) : Host κ :=
  h.announce (.historyChanged h.history.index h.history.entries.length)

/-! ### Selection -/

/-- Another element selected, or none. -/
def setSelected (h : Host κ) (element? : Option Snapshot) : Host κ :=
  ({ h with selected? := element? } : Host κ).announce
    (.selectionChanged (element?.map (·.selector)))

/-- The pointer over another element, or over none. -/
def setHovered (h : Host κ) (element? : Option Snapshot) : Host κ :=
  ({ h with hovered? := element? } : Host κ).announce (.hoverChanged (element?.map (·.selector)))

/-- A text, unless it is empty. -/
def filled? (s : String) : Option String := if s.isEmpty then none else some s

/-! ### Ids -/

/-- The id of the given number. -/
def idText (n : Nat) : String :=
  let figures := Nat.toDigits 16 n
  String.ofList (List.replicate (8 - figures.length) '0' ++ figures) ++ "-0000-4000-8000-000000000000"

/-- The next id. -/
def nextId (h : Host κ) : Host κ × String :=
  ({ h with idsGiven := h.idsGiven + 1 }, idText (h.idsGiven + 1))

end Host

end Retouch
