import Retouch.Page.Document

/-!
# Events

An event goes from the whole page down to its target, to the capturing listeners, and back up again,
to the others; some types do not go up. A listener may stop it: then it goes no further than the
place where it is. Every place is asked for its listeners when the event gets there.

A listener may move the focus, which sends further events. They are sent when it has returned. Two
levels are enough: a moved focus may be taken away again, and a focus that is taken away moves
nothing.
-/

namespace Retouch

/-- An event. -/
structure Event where
  /-- Its type. -/
  type : String
  /-- The element it is about. -/
  target? : Option ElementId := none
  /-- The key that was pressed. -/
  key : String := ""
  /-- The shift key was held. -/
  shift : Bool := false
  /-- Its default effect is prevented. -/
  isPrevented : Bool := false
  /-- It is stopped. -/
  isStopped : Bool := false
  deriving DecidableEq, Repr

namespace Event

/-- The types of events that do not go up. -/
def staying : List String := ["focus", "blur", "mouseleave", "scroll"]

/-- The event goes up from its target. -/
def bubbles (e : Event) : Bool := !staying.contains e.type

/-- The event with its default effect prevented. -/
def prevent (e : Event) : Event := { e with isPrevented := true }

/-- The event stopped. -/
def stop (e : Event) : Event := { e with isStopped := true }

/-- The places that an event gets to, in order, with the direction of the listeners that are called
there. A stopped event leaves out the groups that follow. -/
def route {κ : Type} (e : Event) (p : Page κ) : List (List (Option ElementId × Bool)) :=
  let up := match e.target? with
    | some target => p.ancestors target
    | none => []
  let atTarget := match e.target? with
    | some target => [[(some target, true), (some target, false)]]
    | none => []
  [(none, true)] :: up.reverse.map (fun id => [(some id, true)]) ++ atTarget ++
    (if e.bubbles then up.map fun id => [(some id, false)] else []) ++
    (if e.bubbles || e.target?.isNone then [[(none, false)]] else [])

end Event

/-- What a listener leaves to be done when it returns. -/
inductive Reaction where
  /-- Nothing. -/
  | settled
  /-- An element gets the focus. -/
  | focus (id : ElementId)
  /-- An element loses the focus, if it has it. -/
  | blur (id : ElementId)
  /-- The listener has failed: nothing more is done with the event. -/
  | failed (f : PositionFault)

/-- How a state holds a page, and what the listeners of a tool do. -/
structure Reactor (κ W : Type) where
  /-- The page. -/
  page : W → Page κ
  /-- The state with another page. -/
  setPage : Page κ → W → W
  /-- A listener called with an event. -/
  react : κ → Event → W → W × Event × Reaction

/-- An event on its way. -/
structure Course (W : Type) where
  /-- The state. -/
  world : W
  /-- The event. -/
  event : Event
  /-- Why a listener has failed. -/
  fault? : Option PositionFault := none

namespace Reactor

variable {κ W : Type}

/-- What follows from a listener of the page itself. -/
def reactOwn (r : Reactor κ W) (l : OwnListener) (e : Event) (w : W) : W × Event × Reaction :=
  let p := r.page w
  let w := r.setPage { p with heard := p.heard ++ [(l.name, e.target?)] } w
  match l.effect, e.target? with
  | .nothing, _ | .blur, none => (w, e, .settled)
  | .stop, _ => (w, e.stop, .settled)
  | .prevent, _ => (w, e.prevent, .settled)
  | .blur, some target => (w, e, .blur target)

/-- A listener called; `follow` does what it leaves to be done. -/
def call (r : Reactor κ W) (follow : Reaction → W → W × Option PositionFault) (c : Course W)
    (l : Listener κ) : Course W :=
  if c.fault?.isSome then c
  else
    let (w, e, reaction) := match l with
      | .own l => r.reactOwn l c.event c.world
      | .tool k => r.react k c.event c.world
    let (w, fault?) := follow reaction w
    ⟨w, e, fault?⟩

/-- The listeners in one place called. -/
def fire (r : Reactor κ W) (follow : Reaction → W → W × Option PositionFault)
    (place : Option ElementId × Bool) (c : Course W) : Course W :=
  ((r.page c.world).listeners place.1 c.event.type place.2).foldl (r.call follow) c

/-- An event sent on its way. -/
def dispatchWith (r : Reactor κ W) (follow : Reaction → W → W × Option PositionFault) (e : Event)
    (w : W) : Course W :=
  (e.route (r.page w)).foldl
    (fun c group =>
      if c.event.isStopped then c else group.foldl (fun c place => r.fire follow place c) c)
    ⟨w, e, none⟩

/-- The focus taken away from an element that has it. -/
def blurWith (r : Reactor κ W) (follow : Reaction → W → W × Option PositionFault)
    (id : ElementId) (w : W) : W × Option PositionFault :=
  let p := r.page w
  if p.active? == some id then
    let c := r.dispatchWith follow { type := "blur", target? := some id }
      (r.setPage { p with active? := none } w)
    (c.world, c.fault?)
  else (w, none)

/-- The focus given to an element; another one that has it loses it first. -/
def focusWith (r : Reactor κ W) (follow : Reaction → W → W × Option PositionFault)
    (id : ElementId) (w : W) : W × Option PositionFault :=
  let previous? := (r.page w).active?
  if previous? == some id then (w, none)
  else
    let blurred := match previous? with
      | some previous => r.blurWith follow previous w
      | none => (w, none)
    match blurred with
    | (w, some fault) => (w, some fault)
    | (w, none) =>
      let c := r.dispatchWith follow { type := "focus", target? := some id }
        (r.setPage { r.page w with active? := some id } w)
      (c.world, c.fault?)

/-- What a listener leaves to be done, with what follows from that `n` levels deep. -/
def follow (r : Reactor κ W) : Nat → Reaction → W → W × Option PositionFault
  | _, .settled, w => (w, none)
  | _, .failed f, w => (w, some f)
  | 0, _, w => (w, none)
  | n + 1, .focus id, w => r.focusWith (follow r n) id w
  | n + 1, .blur id, w => r.blurWith (follow r n) id w

/-- How deep events follow from events. -/
def depth : Nat := 2

/-- An event sent from outside. -/
def dispatch (r : Reactor κ W) (e : Event) (w : W) : Course W := r.dispatchWith (r.follow depth) e w

/-- The focus given to an element from outside. -/
def focus (r : Reactor κ W) (id : ElementId) (w : W) : W × Option PositionFault :=
  r.follow depth (.focus id) w

/-- The focus taken away from an element from outside. -/
def blur (r : Reactor κ W) (id : ElementId) (w : W) : W × Option PositionFault :=
  r.follow depth (.blur id) w

end Reactor

end Retouch
