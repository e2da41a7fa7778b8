import Retouch.Host.Command
import Retouch.Overlay.Frame
import Retouch.Wire.Call
import Retouch.Wire.Channel

/-!
# The workbench

A host and a preview frame joined by a channel. What one of them says waits on the other side until
the channel is pumped. A record is kept of what was delivered.
-/

namespace Retouch

/-- Who listens on a side of the channel. -/
inductive Attendant where
  /-- The record. -/
  | record
  /-- The host or the frame. -/
  | member
  deriving DecidableEq, Repr

/-- A host and a frame, either of which may be missing, and the channel between them. -/
structure Workbench (κ : Type) where
  /-- The channel. -/
  channel : Channel Attendant := (({} : Channel Attendant).listen .host .record).listen .frame .record
  /-- The frame. -/
  frame? : Option Frame := none
  /-- The host. -/
  host? : Option (Host κ) := none
  /-- What was delivered on which side, in order. -/
  delivered : List (Side × Json) := []
  /-- Why the latest delivery has failed. -/
  fault? : Option Frame.Fault := none

namespace Workbench

variable {κ : Type}

/-- A workbench with a host and a frame. The host listens from the start. -/
def assemble (frame? : Option Frame) (host? : Option (Host κ)) : Workbench κ :=
  let w : Workbench κ := { frame?, host? }
  if host?.isSome then { w with channel := w.channel.listen .host .member } else w

/-! ### What is said goes to the channel -/

/-- The frame changed; what it says is posted. -/
def setFrame (w : Workbench κ) (f : Frame) : Workbench κ :=
  { w with
    channel := f.overlay.sent.foldl (fun c m => c.post .frame (m.encode f.tag)) w.channel
    frame? := some { f with overlay := { f.overlay with sent := [] } } }

/-- The overlay changed; what it says is posted. -/
def setOverlay (w : Workbench κ) (o : Overlay) : Workbench κ :=
  match w.frame? with
  | some f => w.setFrame { f with overlay := o }
  | none => w

/-- The host changed; what it tells the frame is posted. -/
def setHost (w : Workbench κ) (h : Host κ) : Workbench κ :=
  { w with
    channel := h.told.foldl (fun c m => c.post .host (m.encode h.tag)) w.channel
    host? := some { h with told := [] } }

/-! ### The frame -/

/-- The frame starts to listen. -/
def start (w : Workbench κ) (f : Frame) : Workbench κ :=
  let w := if f.isListening then w else { w with channel := w.channel.listen .frame .member }
  w.setFrame f.start

/-- The frame stops listening. -/
def stop (w : Workbench κ) (f : Frame) : Workbench κ :=
  let w := w.setFrame f.stop
  if f.isListening then { w with channel := w.channel.unlisten .frame .member } else w

/-- A call to the frame, and why it could not go on; none if there is no such call. -/
def callFrame? (w : Workbench κ) (f : Frame) (c : Call) :
    Option (Workbench κ × Option Frame.Fault) :=
  match c.name with
  | "start" => some (w.start f, none)
  | "stop" => some (w.stop f, none)
  | "enable" => some (w.setFrame f.enable, none)
  | "disable" => some (w.setFrame f.disable, none)
  | "handle_message" =>
    let (f, fault?) := f.receive (c.argument 0)
    some (w.setFrame f, fault?)
  | _ => none

/-- The frame, or one with an empty page. -/
def frame (w : Workbench κ) : Frame := w.frame?.getD { overlay := { page := Page.empty } }

/-- How a workbench reacts to events on its page. -/
def reactor : Reactor Hook (Workbench κ) where
  page w := w.frame.overlay.page
  setPage page w := w.setOverlay { w.frame.overlay with page }
  react h e w :=
    let (o, e, reaction) := w.frame.overlay.react h e
    (w.setOverlay o, e, reaction)

/-! ### Deliveries -/

/-- What was delivered on a side, in order. -/
def deliveredTo (w : Workbench κ) (side : Side) : List Json :=
  (w.delivered.filter fun d => d.1 == side).map (·.2)

variable [Link κ]

/-- A message taken in by the frame or the host. -/
def attend (w : Workbench κ) (side : Side) (v : Json) : Workbench κ :=
  match side with
  | .frame =>
    match w.frame? with
    | none => w
    | some f =>
      let (f, fault?) := f.receive v
      { w.setFrame f with fault? }
  | .host =>
    match w.host? with
    | none => w
    | some h =>
      let (h, fault?) := h.receive v
      { w.setHost h with fault? := fault?.map .number }

/-- How a workbench delivers messages. -/
def delivery : Delivery Attendant (Workbench κ) where
  channel := Workbench.channel
  setChannel c w := { w with channel := c }
  call side attendant v w :=
    match attendant with
    | .record => ({ w with delivered := w.delivered ++ [(side, v)] }, v)
    | .member => (w.attend side v, v)
  isBroken w := w.fault?.isSome

/-- How often the sides are pumped in turn at most. -/
def maxRounds : Nat := 100

/-- Everything that waits delivered, and how many messages that were, or why the delivery ended
before. -/
def pump (w : Workbench κ) : Workbench κ × Except Frame.Fault Nat :=
  let (w, n) := delivery.settle maxRounds { w with fault? := none }
  (w, match w.fault? with
    | some f => .error f
    | none => .ok n)

end Workbench

end Retouch
