import Retouch.Project.Storage
import Retouch.Upload.Asset
import Retouch.Wire.Request

/-!
# Uploads put together

The pieces of an upload are collected by their places until none is missing. The first piece for a
place counts. An upload is dropped when it is complete or has failed, or when it has been idle for too
long. What is complete is decoded and saved.
-/

namespace Retouch.Upload

/-- The limits for uploads. -/
structure Limits where
  /-- The folder that uploads are saved in. -/
  folder : String := "public/images"
  /-- The most bytes of one upload. -/
  maxBytes : Int := 10485760
  /-- The most pieces of one upload. -/
  maxPieces : Int := 4096
  /-- How long an upload may be idle, in seconds. -/
  idleSeconds : Float := 600
  /-- The types that may be uploaded. -/
  types : List String :=
    ["image/png", "image/jpeg", "image/gif", "image/webp", "image/svg+xml", "image/avif"]
  deriving Inhabited

/-- An upload that pieces are missing of. -/
structure Pending where
  /-- The name of the file. -/
  fileName : String
  /-- The type of the file. -/
  mimeType : String
  /-- When the last piece came. -/
  lastActive : Float
  /-- How many pieces there will be. -/
  total : Nat
  /-- How many pieces are there. -/
  received : Nat := 0
  /-- The pieces by their places. -/
  slots : List (Option String) := List.replicate total none
  deriving Inhabited

namespace Pending

/-- No piece is missing. -/
def isComplete (p : Pending) : Bool := p.received == p.total

/-- The upload with a piece in a place, unless there is one already. -/
def store (p : Pending) (index : Nat) (piece : String) : Pending :=
  match p.slots[index]? with
  | some none => { p with slots := p.slots.set index (some piece), received := p.received + 1 }
  | _ => p

/-- The pieces put together. -/
def joined (p : Pending) : String := String.join (p.slots.map fun s => s.getD "")

end Pending

/-- Why an upload fails. -/
inductive UploadError where
  /-- There are no pieces. -/
  | noPieces
  /-- There are more pieces than allowed. -/
  | tooManyPieces (total limit : Int)
  /-- There are more pieces than the size needs. -/
  | tooManyForSize (total size : Int)
  /-- The place of a piece is out of range. -/
  | outside (index last : Int)
  /-- The type may not be uploaded. -/
  | unsupportedType (type : String)
  /-- The file is declared too large. -/
  | declaredTooLarge (size limit : Int)
  /-- The number of pieces is not what it was. -/
  | totalChanged (before after : Int)
  /-- The pieces are no base 64. -/
  | notBase64 (upload : String)
  /-- The bytes are too many. -/
  | tooLarge (limit : Int)
  /-- The file could not be saved. -/
  | notSaved (reason : String)
  deriving DecidableEq, Repr

/-- The wording of an error. -/
def UploadError.message : UploadError → String
  | .noPieces => "totalChunks must be at least 1"
  | .tooManyPieces total limit =>
    "totalChunks " ++ toString total ++ " exceeds the limit of " ++ toString limit
  | .tooManyForSize total size =>
    "totalChunks " ++ toString total ++ " is too many for " ++ toString size ++ " bytes"
  | .outside index last => "chunkIndex " ++ toString index ++ " outside 0.." ++ toString last
  | .unsupportedType type => "Unsupported file type " ++ type
  | .declaredTooLarge size limit =>
    "File is " ++ toString size ++ " bytes; the limit is " ++ toString limit
  | .totalChanged before after =>
    "totalChunks changed from " ++ toString before ++ " to " ++ toString after
  | .notBase64 upload => "Upload " ++ upload ++ " is not valid base64"
  | .tooLarge limit => "Decoded upload exceeds " ++ toString limit ++ " bytes"
  | .notSaved reason => reason

/-- Where an upload stands after a piece. -/
inductive Status where
  /-- Pieces are missing. -/
  | inProgress (received total : Nat)
  /-- The upload is saved. -/
  | complete (pieces : Nat) (path : String) (data : List UInt8)
  /-- The upload has failed. -/
  | failed (total : Int) (error : UploadError)

/-- The uploads that pieces are missing of, by id, in order of their first pieces. -/
abbrev Uploads := Table String Pending

/-- A piece that may be taken in: its place, and how many pieces there are. -/
def checkPiece (limits : Limits) (chunk : ImageChunk) : Except UploadError (Nat × Nat) :=
  if chunk.total < 1 then .error .noPieces
  else if limits.maxPieces < chunk.total then .error (.tooManyPieces chunk.total limits.maxPieces)
  else if 0 < chunk.size && maxPieces chunk.size < chunk.total then
    .error (.tooManyForSize chunk.total chunk.size)
  else if chunk.index < 0 || chunk.total ≤ chunk.index then
    .error (.outside chunk.index (chunk.total - 1))
  else .ok (chunk.index.toNat, chunk.total.toNat)

/-- A new upload for its first piece. -/
def start (limits : Limits) (now : Float) (chunk : ImageChunk) (total : Nat) :
    Except UploadError Pending :=
  if !limits.types.contains chunk.mimeType then .error (.unsupportedType chunk.mimeType)
  else if limits.maxBytes < chunk.size then
    .error (.declaredTooLarge chunk.size limits.maxBytes)
  else .ok { fileName := chunk.fileName, mimeType := chunk.mimeType, lastActive := now, total }

/-- The upload that a piece belongs to: the one that is waiting for as many pieces, or a new one. -/
def pendingFor (limits : Limits) (now : Float) (uploads : Uploads) (chunk : ImageChunk)
    (total : Nat) : Except UploadError Pending :=
  match Table.get? uploads chunk.upload with
  | none => start limits now chunk total
  | some p => if p.total == total then .ok p else .error (.totalChanged p.total total)

/-- The upload that a piece belongs to, with the piece taken in. -/
def collect (limits : Limits) (now : Float) (uploads : Uploads) (chunk : ImageChunk) :
    Except UploadError Pending := do
  let (index, total) ← checkPiece limits chunk
  let pending ← pendingFor limits now uploads chunk total
  .ok ({ pending with lastActive := now }.store index chunk.chunk)

/-- The uploads without those that have been idle for too long. -/
def dropIdle (limits : Limits) (now : Float) (uploads : Uploads) : Uploads :=
  uploads.filter fun e => !(now - e.2.lastActive > limits.idleSeconds)

/-- A text without the slashes around it. -/
def stripSlashes (t : Text) : Text :=
  ((t.dropWhile (· == '/')).reverse.dropWhile (· == '/')).reverse

/-- The path that an upload is saved at. -/
def savePath (limits : Limits) (upload : String) (p : Pending) : String :=
  String.ofList (stripSlashes limits.folder.toList) ++ "/" ++
    assetName upload p.fileName p.mimeType

variable {σ : Type} [Storage σ]

/-- Decodes and saves an upload that is complete. -/
def finish (limits : Limits) (store : σ) (upload : String) (p : Pending) :
    σ × Except UploadError (String × List UInt8) :=
  match decode? p.joined with
  | none => (store, .error (.notBase64 upload))
  | some data =>
    if limits.maxBytes < data.length then (store, .error (.tooLarge limits.maxBytes))
    else
      let path := savePath limits upload p
      match Storage.save store path (.bytes data) ("design mode: upload " ++ p.fileName) with
      | (store, none) => (store, .ok (path, data))
      | (store, some reason) =>
        (store, .error (.notSaved (if reason.isEmpty then "Failed to save " ++ path else reason)))

/-- Takes in a piece at a time. -/
def receive (limits : Limits) (now : Float) (store : σ) (uploads : Uploads) (chunk : ImageChunk) :
    σ × Uploads × Status :=
  let uploads := dropIdle limits now uploads
  let rest := Table.erase uploads chunk.upload
  match collect limits now uploads chunk with
  | .error e => (store, rest, .failed chunk.total e)
  | .ok pending =>
    if !pending.isComplete then
      (store, Table.set uploads chunk.upload pending, .inProgress pending.received pending.total)
    else
      match finish limits store chunk.upload pending with
      | (store, .ok (path, data)) => (store, rest, .complete pending.total path data)
      | (store, .error e) => (store, rest, .failed chunk.total e)

end Retouch.Upload
