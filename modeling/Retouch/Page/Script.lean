import Retouch.Page.Event
import Retouch.Page.Outline

/-!
# Scripts

A script drives a page step by step, as a user or a program of the page would: it sends events, moves
the focus, and changes elements. A step is an object that says what to do and, where it takes one, to
which element: a name, or an id.
-/

namespace Retouch.Page.Script

/-- What a step comes to. -/
inductive Result where
  /-- A value. -/
  | value (v : Json)
  /-- There is no such element. -/
  | noElement
  /-- A listener has failed. -/
  | position (f : PositionFault)
  /-- An outline cannot be read. -/
  | outline (f : Wire.ReadFault)

/-- Nothing to tell. -/
def Result.done : Result := .value .null

/-- What comes of moving the focus. -/
def Result.ofFault? : Option PositionFault → Result
  | some f => .position f
  | none => .done

variable {κ W : Type}

/-- The text under a key of a step. -/
def word (step : Json) (key : String) : String := (Members.get step.members key).string?.getD ""

/-- The condition under a key of a step. -/
def flag (step : Json) (key : String) : Bool := (Members.get step.members key).truthy

/-- The element that a step is about. -/
def target? (p : NamedPage κ) (step : Json) : Option ElementId :=
  (Members.get step.members "target").string?.bind (named? p)

/-- What a step makes of an element by itself; none for other steps. -/
def edit? (step : Json) : Option (Element → Element) :=
  match word step "do" with
  | "set_attr" => some (·.setAttribute (word step "name") (word step "value"))
  | "remove_attr" => some (·.removeAttribute (word step "name"))
  | "set_class" => some (·.setAttribute "class" (word step "value"))
  | "set_style" => some (·.setStyle (word step "prop") (word step "value") (flag step "important"))
  | "remove_style" => some (·.removeStyle (word step "prop"))
  | _ => none

/-- What a step makes of the tree; none for other steps. -/
def rearrange? (step : Json) (names : Names) (p : Page κ) (id : ElementId) : Option (Page κ) :=
  match word step "do" with
  | "append_text" => some (p.appendText id (word step "text"))
  | "set_text" => some (p.setText id (word step "text"))
  | "remove" => some (p.remove id)
  | "remove_child" =>
    some (match named? (p, names) (word step "child") with
      | some child => p.removeChild id child
      | none => p)
  | _ => none

/-- A node put at the end of an element: one of the page, or a new one. -/
def appendNode (step : Json) (names : Names) (p : Page κ) (id : ElementId) : NamedPage κ × Result :=
  match Members.get step.members "node" with
  | .str name =>
    match named? (p, names) name with
    | some child => ((p.append id child, names), .done)
    | none => ((p, names), .noElement)
  | node =>
    match Outline.add Outline.depth id (p, names) node with
    | .ok page => (page, .done)
    | .error f => ((p, names), .outline f)

/-- A step on one element. -/
def runOn (r : Reactor κ W) (step : Json) (names : Names) (w : W) (id : ElementId) :
    Names × W × Result :=
  let p := r.page w
  match edit? step, rearrange? step names p id, word step "do" with
  | some f, _, _ => (names, r.setPage (p.modify id f) w, .done)
  | none, some p, _ => (names, r.setPage p w, .done)
  | none, none, "append" =>
    let ((p, names), result) := appendNode step names p id
    (names, r.setPage p w, result)
  | none, none, "text" => (names, w, .value (.str (p.text id)))
  | none, none, "computed" =>
    (names, w, .value (Wire.textsJson (p.element id).computedStyle))
  | none, none, "focus" =>
    let (w, fault?) := r.focus id w
    (names, w, .ofFault? fault?)
  | none, none, "blur" =>
    let (w, fault?) := r.blur id w
    (names, w, .ofFault? fault?)
  | none, none, _ => (names, w, .noElement)

/-- The event that a step sends. -/
def event (step : Json) (target? : Option ElementId) : Event :=
  { type := word step "type", target?, key := word step "key", shift := flag step "shift" }

/-- What has become of an event. -/
def courseResult (c : Course W) : Result :=
  match c.fault? with
  | some f => .position f
  | none => .value (.obj [("prevented", .bool c.event.isPrevented),
      ("stopped", .bool c.event.isStopped), ("bubbles", .bool c.event.bubbles)])

/-- The steps on one element. -/
def known : List String :=
  ["append_text", "remove", "remove_child", "set_text", "text", "set_attr", "remove_attr", "set_class",
    "set_style", "remove_style", "computed", "focus", "blur", "append"]

/-- A step of a script; none if it is none. -/
def run? (r : Reactor κ W) (step : Json) (names : Names) (w : W) : Option (Names × W × Result) :=
  let p := r.page w
  let target? := target? (p, names) step
  match word step "do" with
  | "event" =>
    let c := r.dispatch (event step target?) w
    some (names, c.world, courseResult c)
  | "snapshot" =>
    some (names, w, .value (p.outline (target?.getD root)))
  | name =>
    if !known.contains name then none
    else match target? with
      | some id => some (runOn r step names w id)
      | none => some (names, w, .noElement)

end Retouch.Page.Script
