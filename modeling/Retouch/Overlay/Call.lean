import Retouch.Overlay.Frame
import Retouch.Page.Outline
import Retouch.Wire.Call

/-!
# Calls to the overlay

While design mode is on the overlay, too, can be driven from outside by calls. An element is given by
its name in an object.
-/

namespace Retouch.Overlay

/-- What a call gives back. -/
inductive Answer where
  /-- A value. -/
  | value (v : Json)
  /-- A snapshot of an element. -/
  | snapshot (s : Snapshot)

/-- What a listener leaves to be done, done. -/
def settle (o : Overlay) (r : Reaction) (v : Json) : Overlay × Except PositionFault Answer :=
  match reactor.follow Reactor.depth r o with
  | (o, some f) => (o, .error f)
  | (o, none) => (o, .ok (.value v))

/-- The element that the first argument of a call names; the root if there is none. -/
def elementOf (o : Overlay) (names : Page.Names) (c : Call) : ElementId :=
  (((Members.get (c.argument 0).members "element").string?).bind
    (Page.named? (o.page, names))).getD Page.root

/-- A call done; none if there is no such call. -/
def call? (o : Overlay) (names : Page.Names) (c : Call) :
    Option (Overlay × Except PositionFault Answer) :=
  match c.name with
  | "install" => some (o.install, .ok (.value .null))
  | "teardown" => some (o.teardown, .ok (.value .null))
  | "describe" =>
    some (match o.describe (o.elementOf names c) (c.flag "precise") with
      | .ok (o, s) => (o, .ok (.snapshot s))
      | .error f => (o, .error f))
  | "select" =>
    let (o, reaction) := o.select (o.elementOf names c)
      ((Table.get? c.options "notify").all Json.truthy)
    some (o.settle reaction .null)
  | "deselect" => some (o.deselect, .ok (.value .null))
  | "start_text_edit" =>
    let (o, started, reaction) := o.startTextEdit (o.elementOf names c)
    some (o.settle reaction (.bool started))
  | "commit_text_edit" =>
    let (o, reaction) := o.commitTextEdit
    some (o.settle reaction .null)
  | "cancel_text_edit" => some (o.closeTextEdit.1, .ok (.value .null))
  | "apply_preview" =>
    let (o, done) := o.applyPreview (c.word 0) (Wire.readTexts (c.argument 1))
    some (o, .ok (.value (.bool done)))
  | "clear_preview" => some (o.clearPreview (c.argument 0).string?, .ok (.value .null))
  | "update_text" =>
    let (o, texts?) := o.updateText (c.word 0) (c.word 1)
    some (o, .ok (.value (match texts? with
      | some (oldText, newText) => .strings [oldText, newText]
      | none => .null)))
  | _ => none

end Retouch.Overlay
