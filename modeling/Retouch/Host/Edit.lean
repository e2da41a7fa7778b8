import Retouch.Host.Answer

/-!
# Edits

An edit is shown at once and sent to the backend. If it cannot be sent, or the backend could not
write it, it is taken back. Taking an edit back and making it again go the same way.
-/

namespace Retouch

/-- What has become of a request. -/
inductive Sending where
  /-- It was sent, and what was delivered at once is heard. -/
  | sent
  /-- It was not sent. -/
  | refused
  /-- A message that was delivered cannot be read. -/
  | failed (f : Json.NumberFault)

/-- Why an operation of the host ends early. -/
inductive HostFault where
  /-- A number in a message is beyond its range. -/
  | number (f : Json.NumberFault)
  /-- An image cannot be cut into pieces of no length. -/
  | noPieceLength

namespace Host

variable {κ : Type} [Link κ]

/-- Sends a request. -/
def send (h : Host κ) (r : Request) : Host κ × Sending :=
  match h.link? with
  | none => (h.fail "No backend connection; changes are visual only", .refused)
  | some link =>
    let h := ({ h with inFlight := h.inFlight + 1 } : Host κ).announceSync
    let (link, answer) := Link.send link r.toJson
    let h := { h with link? := some link, requests := h.requests ++ [r.toJson] }
    match answer with
    | .error reason => (({ h with inFlight := h.inFlight - 1 } : Host κ).fail reason, .refused)
    | .ok messages =>
      match h.hearAll messages with
      | (h, none) => (h, .sent)
      | (h, some f) => (h, .failed f)

/-- Whether a request was sent. -/
def Sending.result : Sending → Except HostFault Bool
  | .sent => .ok true
  | .refused => .ok false
  | .failed f => .error (.number f)

/-! ### Style changes -/

/-- The committed styles of an element after the changes of an edit. -/
def commit (h : Host κ) (entry : HistoryEntry) : Host κ :=
  let styles := entry.changes.foldl Styles.apply (h.committed.styles entry.selector)
  { h with committed := h.committed.put entry.selector styles }

/-- The selected element with the new values of an edit. -/
def restyle (h : Host κ) (entry : HistoryEntry) : Host κ :=
  { h with selected? := h.selected?.map fun s =>
      if s.selector == entry.selector then
        s.withComputedStyles (entry.changes.map fun c => (c.property, c.newValue))
      else s }

/-- An edit shown: its values are committed, and nothing else is shown over them. -/
def present (h : Host κ) (entry : HistoryEntry) : Host κ :=
  let h := h.commit entry
  let h := match Table.get? h.preview entry.selector with
    | some styles => { h with
        preview := Table.set h.preview entry.selector (Styles.without styles entry.changes) }
    | none => h
  ((h.display entry.selector).restyle entry).announceHistory

/-- The request for the changes of an edit. -/
def styleRequest (entry : HistoryEntry) (direction? : Option Direction) : StyleUpdate where
  selector := entry.selector
  changes := entry.changes
  path? := entry.path?
  text? := entry.text?
  classes? := entry.classes?
  position? := entry.position?
  entryId? := some entry.id
  direction?

/-- An edit shown and sent; what it takes to take it back is kept. -/
def perform (h : Host κ) (shown : HistoryEntry) (step : EditStep) (history : History) :
    Host κ × Except HostFault Bool :=
  let before := h.committed.styles shown.selector
  let h := { h with awaiting := Table.set h.awaiting shown.id ⟨step, before⟩, history }
  let direction? := match step with
    | .apply => none
    | .move d => some d
  match (h.present shown).send (.styles (styleRequest shown direction?)) with
  | (h, .refused) => (h.rollBack shown.id, .ok false)
  | (h, sending) => (h, Sending.result sending)

/-- The edit that sets values on an element. -/
def entryFor (element : Snapshot) (committed : Styles) (id : String) (values : List (String × String))
    (usesInline : Bool) : HistoryEntry where
  id
  selector := element.selector
  changes := values.map fun (property, newValue) =>
    let computed := (Table.get? element.computedStyles property).getD ""
    ⟨property, (Table.get? committed property).getD computed, newValue, usesInline⟩
  path? := element.position?.map (·.path)
  position? := element.position?
  text? := element.text?
  classes? := filled? element.classes

/-- Values set on the selected element as one edit. -/
def applyStyles (h : Host κ) (values : List (String × String)) (usesInline : Bool) :
    Host κ × Except HostFault Bool :=
  match h.selected? with
  | none => (h, .ok false)
  | some element =>
    if values.isEmpty then (h, .ok false)
    else
      let (h, id) := h.nextId
      let entry := entryFor element (h.committed.styles element.selector) id values usesInline
      ({ h with syncError? := none } : Host κ).perform entry .apply (h.history.push entry)

/-- The latest edit taken back. -/
def undo (h : Host κ) : Host κ × Except HostFault Bool :=
  match h.history.undoEntry? with
  | none => (h, .ok false)
  | some entry => h.perform entry.inverted (.move .undo) h.history.stepBack

/-- The edit taken back last made again. -/
def redo (h : Host κ) : Host κ × Except HostFault Bool :=
  match h.history.redoEntry? with
  | none => (h, .ok false)
  | some entry => h.perform entry (.move .redo) h.history.stepForward

/-! ### Texts -/

/-- A text that was edited sent to the backend. -/
def sendText (h : Host κ) (selector oldText newText : String) (position? : Option SourcePosition) :
    Host κ × Option Json.NumberFault :=
  let element? := h.selected?.filter fun s => s.selector == selector
  let position? := position? <|> element?.bind (·.position?)
  let request : TextUpdate := {
    selector, oldText, newText
    path? := position?.map (·.path)
    classes? := element?.bind fun s => filled? s.classes
    position? }
  match h.send (.text request) with
  | (h, .failed f) => (h, some f)
  | (h, .refused) => (h, none)
  | (h, .sent) =>
    match element? with
    | some element => ({ h with selected? := some { element with text? := some newText } }, none)
    | none => (h, none)

end Host

end Retouch
