import Retouch.Base64
import Retouch.Host.Edit

/-!
# Uploading an image

An image for the selected element goes to the backend as base 64, in pieces.
-/

namespace Retouch.Host

variable {κ : Type} [Link κ]

/-- A text cut into pieces of `size` characters; `n` is at least the number of pieces. -/
def piecesWithin (size : Nat) : Nat → Text → List Text
  | 0, _ => []
  | _ + 1, [] => []
  | n + 1, c :: rest =>
    (c :: rest).take size :: piecesWithin size n ((c :: rest).drop size)

/-- A text cut into pieces, at least one; none if the pieces would have no length. -/
def pieces? (size : Int) (t : Text) : Option (List Text) :=
  if size == 0 then none
  else
    let ps := if size < 0 then [] else piecesWithin size.toNat t.length t
    some (if ps.isEmpty then [[]] else ps)

/-- What the backend is told about the element that an image is for. -/
def imageContext (element : Snapshot) : Members :=
  [("selector", .str element.selector), ("tagName", .str element.tagName)] ++
    (match element.position? with
      | some p => [("sourceLocation", p.toJson), ("filePath", .str p.path)]
      | none => []) ++
    Wire.member? "className" (filled? element.classes) ++
    Wire.member? "textContent" (element.text?.bind filled?)

/-- The pieces of an image sent one after the other; the rest is left out when one is refused. -/
def sendPieces (h : Host κ) : List ImageChunk → Host κ × Sending
  | [] => (h, .sent)
  | chunk :: rest =>
    match h.send (.image chunk) with
    | (h, .sent) => sendPieces h rest
    | stopped => stopped

/-- An image uploaded for the selected element; the id of the upload. -/
def uploadImage (h : Host κ) (data : List UInt8) (fileName mimeType : String) (isBackground : Bool)
    (pieceSize : Int) : Host κ × Except HostFault (Option String) :=
  match h.selected? with
  | none => (h, .ok none)
  | some element =>
    match pieces? pieceSize (Base64.encode data) with
    | none => (h, .error .noPieceLength)
    | some ps =>
      let (h, upload) := h.nextId
      let h := { h with uploads := Table.set h.uploads upload (0, ps.length) }
      let chunks := ps.zipIdx.map fun (piece, index) => ({
        upload, chunk := String.ofList piece, index, total := ps.length, fileName, mimeType,
        size := data.length, isBackground, context := imageContext element } : ImageChunk)
      match h.sendPieces chunks with
      | (h, .sent) => (h, .ok (some upload))
      | (h, .refused) => ({ h with uploads := Table.erase h.uploads upload }, .ok none)
      | (h, .failed f) => (h, .error (.number f))

end Retouch.Host
