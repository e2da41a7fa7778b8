import Retouch.Host.Upload
import Retouch.Text.CaseMap

/-!
# What a host is asked to do

The commands of the user, and the messages of the preview frame.
-/

namespace Retouch.Host

variable {κ : Type}

/-! ### Design mode -/

/-- Design mode on. -/
def enable (h : Host κ) : Host κ := ({ h with isEnabled := true } : Host κ).tell .enable

/-- Design mode off. -/
def disable (h : Host κ) : Host κ :=
  ((({ h with isEnabled := false } : Host κ).setSelected none).setHovered none).tell .disable

/-- Design mode on or off. -/
def toggle (h : Host κ) : Host κ := if h.isEnabled then h.disable else h.enable

/-- The frame is to select an element. -/
def select (h : Host κ) (selector : String) : Host κ := h.tell (.selectElement selector)

/-! ### Showing styles -/

/-- A value shown on the selected element. -/
def previewStyle (h : Host κ) (property value : String) : Host κ :=
  match h.selected? with
  | none => h
  | some s =>
    let shown := h.preview.styles s.selector
    let shown := if shown.isEmpty then h.committed.styles s.selector else shown
    let h := { h with preview := Table.set h.preview s.selector (Table.set shown property value) }
    h.tell (.previewStyle s.selector (h.effective s.selector))

/-- The selected element shows what is committed. -/
def clearPreview (h : Host κ) : Host κ :=
  match h.selected? with
  | none => h
  | some s => ({ h with preview := Table.erase h.preview s.selector } : Host κ).display s.selector

/-- Nothing selected. -/
def clearSelection (h : Host κ) : Host κ := h.clearPreview.setSelected none

/-- The frame is to set the text of the selected element. -/
def updateText (h : Host κ) (text : String) : Host κ :=
  match h.selected? with
  | none => h
  | some s => h.tell (.updateText s.selector text)

/-! ### The backend -/

variable [Link κ]

/-- The preview deployed anew. -/
def refreshPreview (h : Host κ) : Host κ × Except HostFault Bool :=
  let (h, sending) := ({ h with syncError? := none } : Host κ).send .refresh
  (h, Sending.result sending)

/-- The place of the selected element in the code opened; the backend is asked if it is unknown. -/
def goToCode (h : Host κ) : Host κ × Except HostFault Bool :=
  match h.selected? with
  | none => (h, .ok false)
  | some s =>
    match s.position?.filter fun p => 0 < p.line with
    | some p => (if h.opensCode then h.announce (.codeOpened p.path p.line) else h, .ok true)
    | none =>
      let (h, sending) := h.send (.code {
        selector := s.selector, path? := s.position?.map (·.path), text? := s.text?
        classes? := filled? s.classes, position? := s.position? })
      (h, Sending.result sending)

/-! ### The frame -/

/-- The frame is ready: it is told what it has to show. -/
def welcome (h : Host κ) : Host κ :=
  if !h.isEnabled then h
  else
    let selectors := (Table.keys h.committed ++
      (Table.keys h.preview).filter fun s => !Table.contains h.committed s).mergeSort
        fun a b => !(b < a)
    selectors.foldl (fun h s => if (h.effective s).isEmpty then h else h.display s)
      (h.tell .enable)

/-- A snapshot with the committed values. -/
def withCommitted (h : Host κ) (s : Snapshot) : Snapshot :=
  match Table.get? h.committed s.selector with
  | some styles => s.withComputedStyles styles
  | none => s

/-- The host after a message from the frame. -/
def heed (h : Host κ) : FrameMessage → Host κ × Option Json.NumberFault
  | .ready => (h.welcome, none)
  | .hovered element? => (h.setHovered element?, none)
  | .selected element =>
    (({ h with hovered? := none } : Host κ).setSelected (some (h.withCommitted element)), none)
  | .deselected => (h.setSelected none, none)
  | .textEdit selector oldText newText position? => h.sendText selector oldText newText position?
  | .textEdited selector oldText newText => h.sendText selector oldText newText none
  | .error message _ => (h.fail message, none)

/-- The host takes in a message of the channel. -/
def receive (h : Host κ) (v : Json) : Host κ × Option Json.NumberFault :=
  match FrameMessage.decode h.tag v with
  | .error (.number f) => (h, some f)
  | .error (.protocol e) => (h.fail e.message, none)
  | .error (.notIterable _) | .ok none => (h, none)
  | .ok (some m) => h.heed m

/-! ### Commands -/

/-- A key with the keys held with it. -/
structure Shortcut where
  /-- The key. -/
  key : String
  /-- The option key is held. -/
  alt : Bool := false
  /-- The control key or the command key is held. -/
  control : Bool := false
  /-- The shift key is held. -/
  shift : Bool := false
  deriving DecidableEq, Repr

/-- A keyboard shortcut; the answer says whether it is one. -/
def press (h : Host κ) (s : Shortcut) : Host κ × Except HostFault Bool :=
  let key := String.ofList (Text.lower s.key.toList)
  if s.alt && key == "d" then (h.toggle, .ok true)
  else if !h.isEnabled then (h, .ok false)
  else if s.control && key == "z" then if s.shift then h.redo else h.undo
  else if key == "escape" && h.selected?.isSome then (h.clearSelection, .ok true)
  else (h, .ok false)

/-- What a host is asked to do. -/
inductive Command where
  /-- Design mode on. -/
  | enable
  /-- Design mode off. -/
  | disable
  /-- Design mode on or off. -/
  | toggle
  /-- Select an element in the frame. -/
  | select (selector : String)
  /-- Show a value on the selected element. -/
  | previewStyle (property value : String)
  /-- Show what is committed. -/
  | clearPreview
  /-- Set values on the selected element. -/
  | applyStyles (values : List (String × String)) (usesInline : Bool)
  /-- Take the latest edit back. -/
  | undo
  /-- Make the edit taken back last again. -/
  | redo
  /-- Select nothing. -/
  | clearSelection
  /-- Set the text of the selected element. -/
  | updateText (text : String)
  /-- Upload an image for the selected element. -/
  | uploadImage (data : List UInt8) (fileName mimeType : String) (isBackground : Bool)
    (pieceSize : Int)
  /-- Deploy the preview anew. -/
  | refreshPreview
  /-- Open the place of the selected element in the code. -/
  | goToCode
  /-- Take in a message from the backend. -/
  | hear (message : Json)
  /-- Take in a message from the frame. -/
  | receive (message : Json)
  /-- A keyboard shortcut. -/
  | press (shortcut : Shortcut)

/-- What a command answers. -/
inductive Reply where
  /-- Nothing. -/
  | none
  /-- Whether it was done. -/
  | bool (b : Bool)
  /-- The id of an upload. -/
  | upload (id? : Option String)
  deriving DecidableEq, Repr

/-- The pieces that an image is cut into by default. -/
def pieceSize : Int := 65536

/-- What taking in a message answers: nothing, unless a number is beyond its range. -/
def silent (heard : Host κ × Option Json.NumberFault) : Host κ × Except HostFault Reply :=
  (heard.1, match heard.2 with
    | some f => .error (.number f)
    | none => .ok .none)

/-- A command done. -/
def run (h : Host κ) : Command → Host κ × Except HostFault Reply
  | .enable => (h.enable, .ok .none)
  | .disable => (h.disable, .ok .none)
  | .toggle => (h.toggle, .ok .none)
  | .select selector => (h.select selector, .ok .none)
  | .previewStyle property value => (h.previewStyle property value, .ok .none)
  | .clearPreview => (h.clearPreview, .ok .none)
  | .applyStyles values usesInline =>
    let (h, done) := h.applyStyles values usesInline
    (h, done.map .bool)
  | .undo =>
    let (h, done) := h.undo
    (h, done.map .bool)
  | .redo =>
    let (h, done) := h.redo
    (h, done.map .bool)
  | .clearSelection => (h.clearSelection, .ok .none)
  | .updateText text => (h.updateText text, .ok .none)
  | .uploadImage data fileName mimeType isBackground size =>
    let (h, upload) := h.uploadImage data fileName mimeType isBackground size
    (h, upload.map .upload)
  | .refreshPreview =>
    let (h, done) := h.refreshPreview
    (h, done.map .bool)
  | .goToCode =>
    let (h, done) := h.goToCode
    (h, done.map .bool)
  | .hear message => silent (h.hear message)
  | .receive message => silent (h.receive message)
  | .press shortcut =>
    let (h, done) := h.press shortcut
    (h, done.map .bool)

end Retouch.Host
