import Retouch.Wire.Element

/-!
# Messages between the host and the page

The host and the preview frame speak over a channel that other traffic may use too, so every message
travels in an envelope: an object with the tag of this application, the type of the message, and its
payload. Foreign envelopes and unknown types are passed over; a known type with a malformed payload is
an error.
-/

namespace Retouch

open Retouch.Wire

/-- What the host says to the frame. -/
inductive HostMessage where
  /-- Start editing. -/
  | enable
  /-- Stop editing. -/
  | disable
  /-- Show styles on an element. -/
  | previewStyle (selector : String) (styles : Table String String)
  /-- Take back the styles shown on an element, or on all. -/
  | clearPreview (selector? : Option String)
  /-- Select an element. -/
  | selectElement (selector : String)
  /-- Set the text of an element. -/
  | updateText (selector text : String)

/-- What the frame says to the host. -/
inductive FrameMessage where
  /-- The frame listens. -/
  | ready
  /-- The pointer is over an element, or over none. -/
  | hovered (element? : Option Snapshot)
  /-- An element is selected. -/
  | selected (element : Snapshot)
  /-- No element is selected any more. -/
  | deselected
  /-- The user has edited a text in place. -/
  | textEdit (selector oldText newText : String) (position? : Option SourcePosition)
  /-- A text was set as the host asked. -/
  | textEdited (selector oldText newText : String)
  /-- Something went wrong. -/
  | error (message : String) (context? : Option String)

namespace Wire

/-- A string of a payload that must be there and not empty. -/
def readFilled (ms : Members) (key : String) : Read String :=
  match Members.get ms key with
  | .str s => if s.isEmpty then refuse (.notFilled key) else .ok s
  | _ => refuse (.notFilled key)

/-- A string of a payload that must be there, empty or not. -/
def readPlain (ms : Members) (key : String) : Read String :=
  match Members.get ms key with
  | .str s => .ok s
  | _ => refuse (.notFilled key)

end Wire

namespace HostMessage

/-- The type of a message. -/
def type : HostMessage → String
  | .enable => "enable"
  | .disable => "disable"
  | .previewStyle _ _ => "preview_style"
  | .clearPreview _ => "clear_preview"
  | .selectElement _ => "select_element"
  | .updateText _ _ => "update_text"

/-- The payload of a message. -/
def payload : HostMessage → Members
  | .enable | .disable => []
  | .previewStyle selector styles => [("selector", .str selector), ("styles", textsJson styles)]
  | .clearPreview selector? => member? "selector" (selector?.filter (!·.isEmpty))
  | .selectElement selector => [("selector", .str selector)]
  | .updateText selector text => [("selector", .str selector), ("text", .str text)]

/-- The message of a type with a payload; none for an unknown type. -/
def ofPayload? (type : String) (ms : Members) : Option (Read HostMessage) :=
  match type with
  | "enable" => some (.ok .enable)
  | "disable" => some (.ok .disable)
  | "preview_style" => some
    (match Members.get ms "styles" with
      | .obj styles => do
        .ok (.previewStyle (← readFilled ms "selector") (styles.map fun (k, v) => (k, v.text)))
      | _ => refuse (.notAnObject "styles"))
  | "clear_preview" => some
    (match Members.get ms "selector" with
      | .null => .ok (.clearPreview none)
      | .str s => .ok (.clearPreview (if s.isEmpty then none else some s))
      | _ => refuse (.notAString "selector"))
  | "select_element" => some do .ok (.selectElement (← readFilled ms "selector"))
  | "update_text" => some do
    .ok (.updateText (← readFilled ms "selector") (← readPlain ms "text"))
  | _ => none

end HostMessage

namespace FrameMessage

/-- The type of a message. -/
def type : FrameMessage → String
  | .ready => "ready"
  | .hovered _ => "element_hovered"
  | .selected _ => "element_selected"
  | .deselected => "element_deselected"
  | .textEdit _ _ _ _ => "text_edit"
  | .textEdited _ _ _ => "text_edited"
  | .error _ _ => "error"

/-- The payload of a message. -/
def payload : FrameMessage → Members
  | .ready | .deselected => []
  | .hovered element? =>
    [("element", match element? with
      | some e => e.toJson
      | none => .null)]
  | .selected element => [("element", element.toJson)]
  | .textEdit selector oldText newText position? =>
    [("selector", .str selector), ("oldText", .str oldText), ("newText", .str newText)] ++
      match position? with
      | some p => [("sourceLocation", p.toJson)]
      | none => []
  | .textEdited selector oldText newText =>
    [("selector", .str selector), ("oldText", .str oldText), ("newText", .str newText)]
  | .error message context? => ("message", .str message) :: member? "context" context?

/-- The message of a type with a payload; none for an unknown type. -/
def ofPayload? (type : String) (ms : Members) : Option (Read FrameMessage) :=
  match type with
  | "ready" => some (.ok .ready)
  | "element_hovered" => some
    (match Table.get? ms "element" with
      | none => refuse .elementMissing
      | some .null => .ok (.hovered none)
      | some v => do .ok (.hovered (some (← Snapshot.read v))))
  | "element_selected" => some do .ok (.selected (← Snapshot.read (Members.get ms "element")))
  | "element_deselected" => some (.ok .deselected)
  | "text_edit" => some do
    .ok (.textEdit (← readFilled ms "selector") (← readPlain ms "oldText")
      (← readPlain ms "newText") (← SourcePosition.read? (Members.get ms "sourceLocation")))
  | "text_edited" => some do
    .ok (.textEdited (← readFilled ms "selector") (← readPlain ms "oldText")
      (← readPlain ms "newText"))
  | "error" => some do
    let message ← readFilled ms "message"
    .ok (.error message (match Members.get ms "context" with
      | .null => none
      | v => some v.text))
  | _ => none

end FrameMessage

namespace Wire

/-! ### Envelopes -/

/-- The tag of this application. -/
def defaultTag : String := "liveedit_design_mode"

/-- The envelope of a message. -/
def envelope (tag type : String) (payload : Members) : Json :=
  .obj (("prefix", .str tag) :: ("type", .str type) :: payload)

/-- The message in an envelope by the catalogue `ofPayload?`; none for foreign traffic and for
unknown types. -/
def contents? {α : Type} (ofPayload? : String → Members → Option (Read α)) (tag : String) (v : Json) :
    Read (Option α) :=
  match v with
  | .obj ms =>
    match Members.get ms "prefix", Members.get ms "type" with
    | .str tag', .str type =>
      if tag' != tag then .ok none
      else match ofPayload? type (ms.filter fun m => m.1 != "prefix" && m.1 != "type") with
        | none => .ok none
        | some (.ok message) => .ok (some message)
        | some (.error f) => .error (f.within type)
    | _, _ => .ok none
  | _ => .ok none

end Wire

/-- A message to the frame in its envelope. -/
def HostMessage.encode (tag : String) (m : HostMessage) : Json := envelope tag m.type m.payload

/-- The message to the frame in an envelope. -/
def HostMessage.decode (tag : String) (v : Json) : Read (Option HostMessage) :=
  contents? HostMessage.ofPayload? tag v

/-- A message to the host in its envelope. -/
def FrameMessage.encode (tag : String) (m : FrameMessage) : Json := envelope tag m.type m.payload

/-- The message to the host in an envelope. -/
def FrameMessage.decode (tag : String) (v : Json) : Read (Option FrameMessage) :=
  contents? FrameMessage.ofPayload? tag v

end Retouch
