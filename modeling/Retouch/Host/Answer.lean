import Retouch.Host.State

/-!
# Answers from the backend

Every answer settles one request. An edit that could not be written is taken out of the history again,
and the committed styles of its element become what they were.
-/

namespace Retouch.Host

variable {κ : Type}

/-- The step of an edit taken back in the history. -/
def unstep (history : History) (id : String) : EditStep → History
  | .apply => history.discard id
  | .move .undo => history.stepForward
  | .move .redo => history.stepBack

/-- An edit that was not written taken back. -/
def rollBack (h : Host κ) (id : String) : Host κ :=
  match Table.get? h.awaiting id with
  | none => h
  | some pending =>
    let h := { h with awaiting := Table.erase h.awaiting id }
    match h.history.find? id with
    | none => h
    | some entry =>
      let h := { h with
        history := unstep h.history id pending.step
        committed := h.committed.put entry.selector pending.before }
      (h.display entry.selector).announceHistory

/-- A reason, or what is said without one. -/
def reasonOr (reason? : Option String) (words : String) : String :=
  match reason? with
  | some reason => if reason.isEmpty then words else reason
  | none => words

/-- The host after an answer to style changes. -/
def takeStyles (h : Host κ) (r : StyleReport) : Host κ :=
  if r.success then
    { h with
      awaiting := Table.erase h.awaiting (r.entryId?.getD "")
      hasPendingChanges := true
      syncError? :=
        if r.failed.isEmpty then h.syncError?
        else some ("Some properties could not be saved: " ++
          Text.joinStrings ", " (r.failed.map (·.property))) }
  else
    let h := { h with syncError? := some (reasonOr r.error? "Style update failed") }
    match r.entryId?.bind filled? with
    | some id => h.rollBack id
    | none => h

/-- The host after an answer to a text. -/
def takeText (h : Host κ) (r : TextReport) : Host κ :=
  if r.success then { h with hasPendingChanges := true }
  else { h with syncError? := some (reasonOr r.error? "Text update failed") }

/-- The host after the last answer to an upload. -/
def takeImage (h : Host κ) (r : ImageReport) : Host κ :=
  let h := { h with uploads := Table.erase h.uploads r.upload }
  if r.success then
    match r.address?.bind filled? with
    | some address =>
      ({ h with hasPendingChanges := true } : Host κ).announce (.uploadCompleted r.upload address)
    | none => h
  else { h with syncError? := some (reasonOr r.error? "Upload failed") }

/-- The host after it has been told the place of an element. -/
def takeCode (h : Host κ) (r : CodePlace) : Host κ :=
  if r.success then
    match r.path?.bind filled? with
    | some path => if h.opensCode then h.announce (.codeOpened path (r.line?.getD 0)) else h
    | none => h
  else { h with syncError? := some (reasonOr r.error? "Element not found in source") }

/-- The host after an answer, its request settled. -/
def take (h : Host κ) (r : Response) : Host κ :=
  let h := { h with inFlight := h.inFlight - 1 }
  let h := match r with
    | .styles r => h.takeStyles r
    | .text r => h.takeText r
    | .progress upload received total =>
      { h with uploads := Table.set h.uploads upload (received, total) }
    | .image r => h.takeImage r
    | .refreshed success error? =>
      if success then { h with hasPendingChanges := false }
      else { h with syncError? := some (reasonOr error? "Preview refresh failed") }
    | .code r => h.takeCode r
    | .error message _ => { h with syncError? := some message }
  h.announceSync

/-- The host after a message from the backend. A number beyond its range is a fault. -/
def hear (h : Host κ) (v : Json) : Host κ × Option Json.NumberFault :=
  match Response.read v with
  | .ok none => (h, none)
  | .ok (some r) => (h.take r, none)
  | .error (.number f) => (h, some f)
  | .error (.protocol e) => (h.fail e.message, none)
  | .error (.notIterable _) => (h, none)

/-- The host after messages from the backend, up to the first fault. -/
def hearAll (h : Host κ) : List Json → Host κ × Option Json.NumberFault
  | [] => (h, none)
  | v :: rest =>
    match h.hear v with
    | (h, none) => hearAll h rest
    | failed => failed

end Retouch.Host
