import Retouch.Overlay.Chrome

/-!
# Editing a text in place

A text is edited in an element of the overlay's own, drawn over the element that the text belongs to.
When the editor loses the focus, or on the enter key, the text goes to its element and is told to the
host; the escape key gives it up.
-/

namespace Retouch.Overlay

/-- A listener of the editor in a session. -/
def editorListener (session : Nat) (input : ElementId) (type : String) (trigger : Trigger) :
    Registration Hook where
  place? := some input
  type
  isCapturing := false
  listener := .tool ⟨session, trigger⟩

/-- The listeners of the editor in a session. -/
def editorListeners (session : Nat) (input : ElementId) : List (Registration Hook) :=
  [editorListener session input "keydown" .editorKeyDown,
    editorListener session input "blur" .editorBlur]

/-- The overlay without the editor, and what was edited in it. -/
def closeTextEdit (o : Overlay) : Overlay × Option TextEdit :=
  match o.session.textEdit? with
  | none => (o, none)
  | some edit =>
    let page := (editorListeners o.sessionNumber edit.input).foldl (fun p r => p.unlisten r) o.page
    ({ o with
        page := page.remove edit.frame
        session := { o.session with textEdit? := none } }, some edit)

/-- The edited text goes to its element and is told to the host, unless it is what it was. -/
def commitTextEdit (o : Overlay) : Overlay × Reaction :=
  match o.closeTextEdit with
  | (o, none) => (o, .settled)
  | (o, some edit) =>
    let newText := Text.stripString (o.page.text edit.input)
    if newText == edit.oldText then (o, .settled)
    else
      let o := o.modify edit.element (·.replaceDirectText newText)
      match o.preciseSnapshot edit.element with
      | .error f => (o, .failed f)
      | .ok (o, s) =>
        ((o.drawSelection o.session.selected?).tell
          (.textEdit s.selector edit.oldText newText s.position?), .settled)

/-- The editor opened on an element; another text that is edited is committed first. -/
def openTextEdit (o : Overlay) (id : ElementId) : Overlay × Reaction :=
  let oldText := (o.page.element id).directText
  let (page, frame) := o.page.create (Element.ofTag "div" [("id", textFrameId)])
  let o := ({ o with page } : Overlay).draw (some frame) (some id)
  let (o, input) := o.addElement frame
    { Element.ofTag "div" [("id", textInputId)] with
      isEditable := true, children := [.text oldText] }
  let page := (editorListeners o.sessionNumber input).foldl (fun p r => p.listen r)
    (o.page.append Page.body frame)
  ({ o with
      page
      session := { o.session with textEdit? := some ⟨id, frame, input, oldText⟩ } }, .focus input)

/-- The text of an element is edited from now on; the second part is false if it cannot be. -/
def startTextEdit (o : Overlay) (id : ElementId) : Overlay × Bool × Reaction :=
  if !Page.isTextEditable (o.page.element id) then (o, false, .settled)
  else match o.commitTextEdit with
    | (o, .failed f) => (o, false, .failed f)
    | (o, _) =>
      let (o, reaction) := o.openTextEdit id
      (o, true, reaction)

/-- A key is pressed in the editor. -/
def onEditorKeyDown (o : Overlay) (e : Event) : Overlay × Event × Reaction :=
  if e.key == "Enter" && !e.shift then
    let (o, reaction) := o.commitTextEdit
    (o, e.prevent, reaction)
  else if e.key == "Escape" then (o.closeTextEdit.1, e.prevent, .settled)
  else (o, e, .settled)

/-- The text of an element set as the host asks: what it was and what it is. -/
def updateText (o : Overlay) (selector text : String) : Overlay × Option (String × String) :=
  match (o.registry.resolve? o.page selector).filter fun id =>
      Page.isTextEditable (o.page.element id) with
  | none => (o, none)
  | some id =>
    (o.modify id (·.replaceDirectText text), some ((o.page.element id).directText, text))

end Retouch.Overlay
