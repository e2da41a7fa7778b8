import Retouch.Host.Command
import Retouch.Wire.Call

/-!
# Commands by name

The calls by which a host is driven from outside. Some only ask for the styles of an element.
-/

namespace Retouch.Host

/-- The values to be set: an object, or a list of pairs. -/
def callValues : Json → List (String × String)
  | .obj ms => ms.map fun (k, v) => (k, v.text)
  | .arr pairs => pairs.filterMap fun
      | .arr [k, v] => some (k.text, v.text)
      | _ => none
  | _ => []

/-- The bytes of an argument. -/
def callBytes (v : Json) : List UInt8 :=
  (((Members.get v.members "$bytes").string?).bind fun s => Base64.decode? s.toList).getD []

/-- The length of pieces that is asked for. -/
def callPieceLength (c : Call) : Int :=
  match Members.get c.options "chunk_size" with
  | .int n => n
  | _ => pieceSize

/-- The command of a call; none if the call has no command. -/
def Command.ofCall? (c : Call) : Option Command :=
  match c.name with
  | "enable" => some .enable
  | "disable" => some .disable
  | "toggle" => some .toggle
  | "select" => some (.select (c.word 0))
  | "preview_style" => some (.previewStyle (c.word 0) (c.word 1))
  | "clear_preview" => some .clearPreview
  | "apply_style" => some (.applyStyles [(c.word 0, c.word 1)] (c.flag "use_inline_style"))
  | "apply_styles" => some (.applyStyles (callValues (c.argument 0)) (c.flag "use_inline_style"))
  | "undo" => some .undo
  | "redo" => some .redo
  | "clear_selection" => some .clearSelection
  | "update_text" => some (.updateText (c.word 0))
  | "upload_image" =>
    some (.uploadImage (callBytes (c.argument 0)) (c.word 1) (c.word 2) (c.flag "is_background")
      (callPieceLength c))
  | "refresh_preview" => some .refreshPreview
  | "go_to_code" => some .goToCode
  | "handle_backend_message" => some (.hear (c.argument 0))
  | "handle_frame_message" => some (.receive (c.argument 0))
  | "handle_shortcut" =>
    some (.press ⟨c.word 0, c.flag "alt", c.flag "ctrl" || c.flag "meta", c.flag "shift"⟩)
  | _ => none

variable {κ : Type}

/-- The styles that a call asks for. -/
def inquire (h : Host κ) (c : Call) : Json :=
  match c.name with
  | "committed_styles" => Wire.textsJson (h.committed.styles (c.word 0))
  | "preview_styles" => Wire.textsJson (h.preview.styles (c.word 0))
  | _ => Wire.textsJson (h.effective (c.word 0))

/-- What a command answers as a value. -/
def Reply.toJson : Reply → Json
  | .none => .null
  | .bool b => .bool b
  | .upload id? => .ofString? id?

/-- A call done. -/
def answer [Link κ] (h : Host κ) (c : Call) : Host κ × Except HostFault Json :=
  match Command.ofCall? c with
  | some command =>
    let (h, reply) := h.run command
    (h, reply.map Reply.toJson)
  | none => (h, .ok (h.inquire c))

end Retouch.Host
