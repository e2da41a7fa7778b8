import Retouch.Json.Value

/-!
# The message channel

Two ports, one on the side of the host and one on the side of the frame. A message posted on one side
waits on the other until that side is pumped; then it goes to every listener in turn. Messages keep
their order on each side. A closed port neither sends nor receives.
-/

namespace Retouch

/-- A side of the channel. -/
inductive Side where
  /-- The host. -/
  | host
  /-- The preview frame. -/
  | frame
  deriving DecidableEq, Repr

/-- The other side. -/
def Side.other : Side → Side
  | .host => .frame
  | .frame => .host

/-- A port; `κ` names listeners. -/
structure Port (κ : Type) where
  /-- The messages that wait. -/
  inbox : List Json := []
  /-- The listeners, in order. -/
  listeners : List κ := []
  /-- The port is closed. -/
  closed : Bool := false

/-- A channel: its two ports. -/
structure Channel (κ : Type) where
  /-- The port of the host. -/
  host : Port κ := {}
  /-- The port of the frame. -/
  frame : Port κ := {}

namespace Channel

variable {κ S : Type}

/-- The port of a side. -/
def port (c : Channel κ) : Side → Port κ
  | .host => c.host
  | .frame => c.frame

/-- The channel with the port of a side changed. -/
def update (c : Channel κ) (side : Side) (f : Port κ → Port κ) : Channel κ :=
  match side with
  | .host => { c with host := f c.host }
  | .frame => { c with frame := f c.frame }

/-- A message posted by a side; it is lost if a port is closed. -/
def post (c : Channel κ) (side : Side) (data : Json) : Channel κ :=
  if (c.port side).closed || (c.port side.other).closed then c
  else c.update side.other fun p => { p with inbox := p.inbox ++ [data] }

/-- A listener added on a side. -/
def listen (c : Channel κ) (side : Side) (listener : κ) : Channel κ :=
  c.update side fun p => { p with listeners := p.listeners ++ [listener] }

/-- The first place of a listener on a side removed. -/
def unlisten [BEq κ] (c : Channel κ) (side : Side) (listener : κ) : Channel κ :=
  c.update side fun p => { p with listeners := p.listeners.erase listener }

/-- The port of a side closed; what waits there is lost. -/
def close (c : Channel κ) (side : Side) : Channel κ :=
  c.update side fun p => { p with closed := true, inbox := [] }

/-- How many messages wait on a side. -/
def pending (c : Channel κ) (side : Side) : Nat := (c.port side).inbox.length

end Channel

/-- How a state holds a channel, and what a listener does with a message: to the state, and to the
message, which the next listener gets. -/
structure Delivery (κ S : Type) where
  /-- The channel. -/
  channel : S → Channel κ
  /-- The state with another channel. -/
  setChannel : Channel κ → S → S
  /-- A listener called with a message. -/
  call : Side → κ → Json → S → S × Json
  /-- A listener has failed: the delivery ends there, and what waits goes on waiting. -/
  isBroken : S → Bool := fun _ => false

namespace Delivery

variable {κ S : Type}

/-- A message given to listeners in turn, up to one that fails. -/
def deliver (d : Delivery κ S) (side : Side) (listeners : List κ) (data : Json) (s : S) : S :=
  (listeners.foldl
    (fun (sd : S × Json) k => if d.isBroken sd.1 then sd else d.call side k sd.2 sd.1) (s, data)).1

/-- At most `n` waiting messages of a side delivered, and how many were. -/
def drain (d : Delivery κ S) (side : Side) : Nat → S → S × Nat
  | 0, s => (s, 0)
  | n + 1, s =>
    let port := (d.channel s).port side
    match port.inbox with
    | [] => (s, 0)
    | data :: rest =>
      if port.closed || d.isBroken s then (s, 0)
      else
        let s := d.setChannel ((d.channel s).update side fun p => { p with inbox := rest }) s
        let (s, count) := drain d side n (d.deliver side port.listeners data s)
        (s, count + 1)

/-- Everything that waits on a side delivered. Listeners post to the other side only, so nothing new
comes to wait meanwhile. -/
def pump (d : Delivery κ S) (side : Side) (s : S) : S × Nat :=
  d.drain side ((d.channel s).pending side) s

/-- Both sides pumped in turn, the frame first, until nothing waits, a listener fails or the rounds
are used up. -/
def settle (d : Delivery κ S) : Nat → S → S × Nat
  | 0, s => (s, 0)
  | rounds + 1, s =>
    let (s, first) := d.pump .frame s
    let (s, second) := d.pump .host s
    if first + second == 0 || d.isBroken s then (s, first + second)
    else
      let (s, more) := settle d rounds s
      (s, first + second + more)

end Delivery

end Retouch
