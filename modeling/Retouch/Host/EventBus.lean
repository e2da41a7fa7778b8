/-!
# The event bus

Listeners subscribe to one type of event or to all. An event goes first to the listeners of all events
and then to those of its type, each time to the listeners there are when their turn begins.
A listener may be there several times; each removal takes away the first of its places.
-/

namespace Retouch

/-- The listeners on a bus, by type of event; `κ` names listeners, `τ` types. -/
structure EventBus (τ κ : Type) where
  /-- The listeners of one type, in order of subscription. -/
  typed : List (τ × κ) := []
  /-- The listeners of all events. -/
  catchAll : List κ := []

namespace EventBus

variable {τ κ S : Type} [BEq τ] [BEq κ]

/-- The bus with a listener of one type. -/
def subscribe (b : EventBus τ κ) (type : τ) (listener : κ) : EventBus τ κ :=
  { b with typed := b.typed ++ [(type, listener)] }

/-- The bus with a listener of all events. -/
def onAll (b : EventBus τ κ) (listener : κ) : EventBus τ κ :=
  { b with catchAll := b.catchAll ++ [listener] }

/-- The bus without the first place of a listener of one type. -/
def unsubscribe (b : EventBus τ κ) (type : τ) (listener : κ) : EventBus τ κ :=
  { b with typed := b.typed.erase (type, listener) }

/-- The listeners of one type, in order. -/
def listeners (b : EventBus τ κ) (type : τ) : List κ :=
  (b.typed.filter fun e => e.1 == type).map (·.2)

/-- An event of a type sent to its listeners in a state that holds the bus; `call` is what a listener
does to the state. -/
def emit (bus : S → EventBus τ κ) (call : κ → S → S) (type : τ) (s : S) : S :=
  let s := (bus s).catchAll.foldl (fun s k => call k s) s
  ((bus s).listeners type).foldl (fun s k => call k s) s

end EventBus

end Retouch
