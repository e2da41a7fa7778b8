import Retouch.Overlay.Preview

/-!
# The preview frame

The page side of the editor. It does what the host says and tells the host what the user does. The
overlay is there only while design mode is on; the registry of elements outlives it.
-/

namespace Retouch

namespace Overlay

/-! ### Putting the overlay on and taking it off -/

/-- What a session listens for on the whole page: the types of events, and whether it hears them on
the way down. -/
def pageTriggers : List (String × Bool × Trigger) := [
  ("mousemove", true, .mouseMove), ("click", true, .click), ("dblclick", true, .doubleClick),
  ("keydown", true, .keyDown), ("keydown", true, .formKeyDown), ("focus", true, .formFocus),
  ("mouseleave", false, .mouseLeave), ("scroll", false, .scroll)]

/-- The listeners of a session on the whole page. -/
def pageListeners (session : Nat) : List (Registration Hook) :=
  pageTriggers.map fun (type, isCapturing, trigger) =>
    { place? := none, type, isCapturing, listener := .tool ⟨session, trigger⟩ }

/-- The overlay put on. -/
def install (o : Overlay) : Overlay :=
  if o.session.isInstalled then o
  else
    let (o, sheet) := o.addElement Page.head
      { Element.ofTag "style" [("id", sheetId)] with children := [.text sheetText] }
    let (o, highlight) := o.addElement Page.body (newFrame highlightId "2px dashed #3b82f6")
    let (o, selection) := o.addElement Page.body (newFrame selectionId "2px solid #3b82f6")
    let page := ((pageListeners o.sessionNumber).foldl (fun p r => p.listen r) o.page).modify Page.body
      (·.setStyle "cursor" "crosshair" false)
    { o with
      page
      session := { o.session with
        sheet? := some sheet, highlight? := some highlight, selection? := some selection
        isInstalled := true } }

/-- The overlay taken off: the page is left as it was found. -/
def teardown (o : Overlay) : Overlay :=
  if !o.session.isInstalled then o
  else
    let o := { o with page := (pageListeners o.sessionNumber).foldl (fun p r => p.unlisten r) o.page }
    let o := o.closeTextEdit.1.clearPreview none
    let o := ((o.dropElement o.session.highlight?).dropElement o.session.selection?).dropElement
      o.session.sheet?
    { o.modify Page.body (·.removeStyle "cursor") with
      session := { o.session with
        sheet? := none, highlight? := none, selection? := none
        hovered? := none, selected? := none, isInstalled := false } }

end Overlay

/-- The preview frame. -/
structure Frame where
  /-- The page and what lies over it. -/
  overlay : Overlay
  /-- The tag of this application's messages. -/
  tag : String := Wire.defaultTag
  /-- Design mode is on. -/
  isActive : Bool := false
  /-- The frame listens to the host. -/
  isListening : Bool := false

namespace Frame

/-- The frame after it has told the host something. -/
def tell (f : Frame) (m : FrameMessage) : Frame := { f with overlay := f.overlay.tell m }

/-- The frame starts to listen, and says that it is ready. -/
def start (f : Frame) : Frame := ({ f with isListening := true } : Frame).tell .ready

/-- Design mode on. -/
def enable (f : Frame) : Frame :=
  if f.isActive then f else { f with overlay := f.overlay.renew.install, isActive := true }

/-- Design mode off. -/
def disable (f : Frame) : Frame :=
  if f.isActive then { f with overlay := f.overlay.teardown, isActive := false } else f

/-- The frame stops listening. -/
def stop (f : Frame) : Frame := { f.disable with isListening := false }

/-- The host's wish done; without design mode there is nothing to do it on. -/
def obey (f : Frame) (m : HostMessage) : Frame × Reaction :=
  match m with
  | .enable => (f.enable, .settled)
  | .disable => (f.disable, .settled)
  | m =>
    if !f.isActive then (f, .settled)
    else match m with
      | .previewStyle selector styles =>
        ({ f with overlay := (f.overlay.applyPreview selector styles).1 }, .settled)
      | .clearPreview selector? =>
        ({ f with overlay := f.overlay.clearPreview selector? }, .settled)
      | .selectElement selector =>
        match f.overlay.registry.resolve? f.overlay.page selector with
        | none => (f, .settled)
        | some id =>
          let (overlay, reaction) := f.overlay.select id false
          ({ f with overlay }, reaction)
      | .updateText selector text =>
        match f.overlay.updateText selector text with
        | (overlay, none) => ({ f with overlay }, .settled)
        | (overlay, some (oldText, newText)) =>
          (({ f with overlay } : Frame).tell (.textEdited selector oldText newText), .settled)
      | .enable | .disable => (f, .settled)

/-- Why the frame cannot go on. -/
inductive Fault where
  /-- The position of an element is of no use. -/
  | position (f : PositionFault)
  /-- A number in a message is beyond its range. -/
  | number (f : Json.NumberFault)

/-- The frame takes in a message. -/
def receive (f : Frame) (v : Json) : Frame × Option Fault :=
  match HostMessage.decode f.tag v with
  | .error (.number n) => (f, some (.number n))
  | .error (.protocol e) =>
    (f.tell (.error e.message (some (Members.get v.members "type").text)), none)
  | .error (.notIterable _) | .ok none => (f, none)
  | .ok (some m) =>
    match f.obey m with
    | (f, .failed p) => (f, some (.position p))
    | (f, _) => (f, none)

end Frame

end Retouch
