import Retouch.Overlay.TextEditing

/-!
# Pointing and selecting

The overlay follows the pointer, and a click selects an element or takes the selection back. Clicks
never get to the page, and form controls neither keep the focus nor hear keys.
-/

namespace Retouch.Overlay

/-! ### Pointing -/

/-- The pointer is over no element any more. -/
def unhover (o : Overlay) : Overlay :=
  if o.session.hovered?.isNone then o
  else
    (({ o with session := { o.session with hovered? := none } } : Overlay).drawHighlight none).tell
      (.hovered none)

/-- The pointer is over an element. -/
def hover (o : Overlay) (id : ElementId) : Overlay × Reaction :=
  let o := ({ o with session := { o.session with hovered? := some id } } : Overlay).drawHighlight
    (some id)
  match o.snapshot id with
  | .error f => (o, .failed f)
  | .ok (o, s) => (o.tell (.hovered (some s)), .settled)

/-- The pointer moves. -/
def onMouseMove (o : Overlay) (target? : Option ElementId) : Overlay × Reaction :=
  match o.visible? target? with
  | none => (o.unhover, .settled)
  | some id =>
    if o.session.selected? == some id then (o.drawHighlight none, .settled)
    else if o.session.hovered? == some id then (o, .settled)
    else o.hover id

/-! ### Selecting -/

/-- An element selected; `notify` says whether the host is told. -/
def select (o : Overlay) (id : ElementId) (notify : Bool) : Overlay × Reaction :=
  let committed := if o.session.textEdit?.any fun edit => edit.element != id then o.commitTextEdit
    else (o, .settled)
  match committed with
  | (o, .failed f) => (o, .failed f)
  | (o, _) =>
    let o := { o with session := { o.session with selected? := some id, hovered? := none } }
    let o := (o.drawHighlight none).drawSelection (some id)
    if !notify then (o, .settled)
    else match o.preciseSnapshot id with
      | .error f => (o, .failed f)
      | .ok (o, s) => (o.tell (.selected s), .settled)

/-- The selection taken back. -/
def deselect (o : Overlay) : Overlay :=
  if o.session.selected?.isNone then o
  else
    let o := o.closeTextEdit.1
    (({ o with session := { o.session with selected? := none } } : Overlay).drawSelection none).tell
      .deselected

/-- A click. -/
def onClick (o : Overlay) (target? : Option ElementId) : Overlay × Reaction :=
  match o.visible? target? with
  | none => (o, .settled)
  | some id => if o.session.selected? == some id then (o.deselect, .settled) else o.select id true

/-- A double click edits the text of an element. -/
def onDoubleClick (o : Overlay) (target? : Option ElementId) : Overlay × Reaction :=
  match (o.visible? target?).filter fun id => Page.isTextEditable (o.page.element id) with
  | none => (o, .settled)
  | some id =>
    let selected := if o.session.selected? == some id then (o, .settled) else o.select id true
    match selected with
    | (o, .failed f) => (o, .failed f)
    | (o, _) =>
      let (o, _, reaction) := o.startTextEdit id
      (o, reaction)

/-! ### Keys, forms and scrolling -/

/-- The escape key gives up the edited text, or else the selection. -/
def onKeyDown (o : Overlay) (key : String) : Overlay :=
  if key != "Escape" then o
  else if o.session.textEdit?.isSome then o.closeTextEdit.1
  else o.deselect

/-- The tags of form controls. -/
def formTags : List String := ["input", "textarea", "select"]

/-- The target, if it is a form control. -/
def formControl? (o : Overlay) (target? : Option ElementId) : Option ElementId :=
  target?.filter fun id => formTags.contains (o.page.element id).tag

/-- The page scrolls: the frames follow. -/
def onScroll (o : Overlay) : Overlay :=
  (o.drawHighlight o.session.hovered?).drawSelection o.session.selected?

/-! ### All triggers -/

/-- What the overlay does in its session when it hears an event. -/
def reactTo (o : Overlay) (t : Trigger) (e : Event) : Overlay × Event × Reaction :=
  match t with
  | .mouseMove =>
    let (o, reaction) := o.onMouseMove e.target?
    (o, e, reaction)
  | .mouseLeave => (o.unhover, e, .settled)
  | .click =>
    let (o, reaction) := o.onClick e.target?
    (o, e.prevent.stop, reaction)
  | .doubleClick =>
    let (o, reaction) := o.onDoubleClick e.target?
    (o, e.prevent.stop, reaction)
  | .keyDown => (o.onKeyDown e.key, e, .settled)
  | .formKeyDown =>
    if (o.formControl? e.target?).isSome && e.key != "Escape" then (o, e.prevent.stop, .settled)
    else (o, e, .settled)
  | .formFocus =>
    match o.formControl? e.target? with
    | some id => (o, e.prevent, .blur id)
    | none => (o, e, .settled)
  | .scroll => (o.onScroll, e, .settled)
  | .editorKeyDown => o.onEditorKeyDown e
  | .editorBlur =>
    let (o, reaction) := o.commitTextEdit
    (o, e, reaction)

/-- The overlay in an earlier session. -/
def reopen (o : Overlay) (past : OverlaySession) (number : Nat) : Overlay :=
  { o with session := past, retired := o.retired.take number }

/-- The overlay back in its session after an earlier one has done something. -/
def resume (o after : Overlay) (number : Nat) : Overlay :=
  { after with session := o.session, retired := o.retired.set number after.session }

/-- What the overlay does when it hears an event, in the session that the listener belongs to. -/
def react (h : Hook) (e : Event) (o : Overlay) : Overlay × Event × Reaction :=
  match o.retired[h.session]? with
  | none => o.reactTo h.trigger e
  | some past =>
    let (after, e, reaction) := (o.reopen past h.session).reactTo h.trigger e
    (o.resume after h.session, e, reaction)

/-- How the overlay listens to the page. -/
def reactor : Reactor Hook Overlay where
  page := Overlay.page
  setPage page o := { o with page }
  react := react

end Retouch.Overlay
