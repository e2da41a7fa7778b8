import Retouch.Style.Change
import Retouch.Wire.Position
import Retouch.Wire.ReadFault

/-!
# Requests

What the host asks the backend to do: write style changes or a text into the source, take in a piece
of an image, deploy the preview again, or tell where an element stands in the code.
-/

namespace Retouch

open Retouch.Wire

namespace StyleChange

/-- A style change as an object. -/
def toJson (c : StyleChange) : Json :=
  .obj ([("property", .str c.property), ("oldValue", .str c.oldValue),
      ("newValue", .str c.newValue)] ++
    if c.usesInline then [("useInlineStyle", .bool true)] else [])

/-- The style change that a value holds. -/
def read (v : Json) : Read StyleChange :=
  match v with
  | .obj ms =>
    match Members.get ms "property" with
    | .str property =>
      if property.isEmpty then refuse (.required "change.property")
      else match Members.get ms "newValue" with
        | .null => refuse (.required "change.newValue")
        | new =>
          .ok {
            property
            oldValue := readText ms "oldValue"
            newValue := new.text
            usesInline := readBool ms "useInlineStyle" false }
    | _ => refuse (.required "change.property")
  | _ => refuse (.notAnObject "change")

end StyleChange

/-- A step in the history of edits. -/
inductive Direction where
  /-- An edit is taken back. -/
  | undo
  /-- An edit is made again. -/
  | redo
  deriving DecidableEq, Repr

namespace Direction

/-- The name of a direction. -/
def label : Direction → String
  | .undo => "undo"
  | .redo => "redo"

/-- The direction with a name. -/
def ofLabel? (s : String) : Option Direction :=
  if s == "undo" then some .undo else if s == "redo" then some .redo else none

/-- The direction in a message; there may be none. -/
def read? (ms : Members) : Read (Option Direction) := do
  match ← readString? ms "direction" with
  | none => .ok none
  | some s =>
    match ofLabel? s with
    | some d => .ok (some d)
    | none => refuse (.unknownDirection s)

end Direction

/-- Asks for style changes in the source. -/
structure StyleUpdate where
  /-- The element. -/
  selector : String
  /-- The changes. -/
  changes : List StyleChange
  /-- The file, if it is known. -/
  path? : Option String := none
  /-- The text of the element. -/
  text? : Option String := none
  /-- The classes of the element. -/
  classes? : Option String := none
  /-- The position of the element's markup. -/
  position? : Option SourcePosition := none
  /-- The preview is not deployed afterwards. -/
  skipsDeploy : Bool := true
  /-- The entry in the history of edits. -/
  entryId? : Option String := none
  /-- The step in the history of edits. -/
  direction? : Option Direction := none
  deriving DecidableEq, Repr, Inhabited

/-- Asks for a text in the source. -/
structure TextUpdate where
  /-- The element. -/
  selector : String
  /-- The text before. -/
  oldText : String
  /-- The text after. -/
  newText : String
  /-- The file, if it is known. -/
  path? : Option String := none
  /-- The classes of the element. -/
  classes? : Option String := none
  /-- The position of the element's markup. -/
  position? : Option SourcePosition := none
  /-- The preview is not deployed afterwards. -/
  skipsDeploy : Bool := true
  deriving DecidableEq, Repr, Inhabited

/-- Sends one piece of an image. -/
structure ImageChunk where
  /-- The upload it belongs to. -/
  upload : String
  /-- The piece, in base 64. -/
  chunk : String
  /-- Its place among the pieces, counted from zero. -/
  index : Int
  /-- How many pieces there are. -/
  total : Int
  /-- The name of the file. -/
  fileName : String
  /-- The type of the image. -/
  mimeType : String
  /-- The size of the image in bytes; zero if it is not told. -/
  size : Int := 0
  /-- The image goes behind its element. -/
  isBackground : Bool := false
  /-- What is known about the element that the image is for, as it was given. -/
  context : Members := []
  deriving Inhabited

/-- Asks where an element stands in the code. -/
structure CodeQuery where
  /-- The element. -/
  selector : String
  /-- The file, if it is known. -/
  path? : Option String := none
  /-- The text of the element. -/
  text? : Option String := none
  /-- The classes of the element. -/
  classes? : Option String := none
  /-- The position of the element's markup. -/
  position? : Option SourcePosition := none
  deriving DecidableEq, Repr, Inhabited

/-- What the host asks the backend to do. -/
inductive Request where
  /-- Write style changes. -/
  | styles (r : StyleUpdate)
  /-- Write a text. -/
  | text (r : TextUpdate)
  /-- Take in a piece of an image. -/
  | image (r : ImageChunk)
  /-- Deploy the preview again. -/
  | refresh
  /-- Tell where an element stands. -/
  | code (r : CodeQuery)

namespace Request

/-- The type of a request. -/
def type : Request → String
  | .styles _ => "style_update"
  | .text _ => "text_update"
  | .image _ => "image_upload"
  | .refresh => "refresh_preview"
  | .code _ => "go_to_code"

/-- The hints in a request, if it is about an element. -/
def hints? : Request → Option Hints
  | .styles r => some (.ofPosition r.selector r.position? r.text? r.classes?)
  | .text r => some (.ofPosition r.selector r.position? (some r.oldText) r.classes?)
  | .code r => some (.ofPosition r.selector r.position? r.text? r.classes?)
  | .image _ | .refresh => none

/-- A position as a member that may be left out. -/
def positionMember? (position? : Option SourcePosition) : Members :=
  match position? with
  | some p => [("sourceLocation", p.toJson)]
  | none => []

/-- The members of a request beside its type. -/
def payload : Request → Members
  | .styles r =>
    [("selector", .str r.selector), ("changes", .arr (r.changes.map StyleChange.toJson)),
        ("skipDeploy", .bool r.skipsDeploy)] ++
      member? "filePath" r.path? ++ member? "textContent" r.text? ++
      member? "className" r.classes? ++ positionMember? r.position? ++
      member? "entryId" r.entryId? ++ member? "direction" (r.direction?.map Direction.label)
  | .text r =>
    [("selector", .str r.selector), ("oldText", .str r.oldText), ("newText", .str r.newText),
        ("skipDeploy", .bool r.skipsDeploy)] ++
      member? "filePath" r.path? ++ member? "className" r.classes? ++ positionMember? r.position?
  | .image r =>
    [("uploadId", .str r.upload), ("chunk", .str r.chunk), ("chunkIndex", .int r.index),
      ("totalChunks", .int r.total), ("fileName", .str r.fileName), ("mimeType", .str r.mimeType),
      ("fileSize", .int r.size), ("isBackground", .bool r.isBackground),
      ("elementContext", .obj r.context)]
  | .refresh => []
  | .code r =>
    ("selector", .str r.selector) :: member? "filePath" r.path? ++ member? "textContent" r.text? ++
      member? "className" r.classes? ++ positionMember? r.position?

/-- A request as an object. -/
def toJson (r : Request) : Json := .obj (("type", .str r.type) :: r.payload)

/-! ### Reading -/

/-- Style changes that are asked for. -/
def readStyles (ms : Members) : Read Request := do
  let changes ← match ms.get "changes" with
    | .arr items => .ok items
    | _ => refuse (.notAList "changes")
  let direction? ← Direction.read? ms
  let selector ← readString ms "selector"
  let changes ← changes.mapM StyleChange.read
  let path? ← readString? ms "filePath"
  let text? ← readString? ms "textContent"
  let classes? ← readString? ms "className"
  let position? ← SourcePosition.read? (ms.get "sourceLocation")
  let skipsDeploy := readBool ms "skipDeploy" true
  let entryId? ← readString? ms "entryId"
  .ok (.styles {
    selector, changes, path?, text?, classes?, position?, skipsDeploy, entryId?, direction? })

/-- A text that is asked for. -/
def readTextUpdate (ms : Members) : Read Request := do
  let selector ← readString ms "selector"
  let oldText ← readString ms "oldText"
  let newText ← readAnyString ms "newText"
  let path? ← readString? ms "filePath"
  let classes? ← readString? ms "className"
  let position? ← SourcePosition.read? (ms.get "sourceLocation")
  let skipsDeploy := readBool ms "skipDeploy" true
  .ok (.text { selector, oldText, newText, path?, classes?, position?, skipsDeploy })

/-- A counter of an upload: what is no number makes the counters bad. -/
def readCounter (v : Json) : Read Int :=
  match v.toInteger with
  | .ok n => .ok n
  | .error f => if f.isRange then .error (.number f) else refuse .badCounters

/-- A piece of an image. -/
def readImage (ms : Members) : Read Request := do
  let index ← readCounter (ms.get "chunkIndex")
  let total ← readCounter (ms.get "totalChunks")
  let size := ms.get "fileSize"
  let size ← if size.truthy then readCounter size else .ok 0
  let context := ms.get "elementContext"
  let context ← match context with
    | .obj members => .ok members
    | v => if v.truthy then refuse (.notAnObject "elementContext") else .ok []
  let upload ← readString ms "uploadId"
  let chunk ← readAnyString ms "chunk"
  let fileName ← readString ms "fileName"
  let mimeType ← readString ms "mimeType"
  let isBackground := readBool ms "isBackground" false
  .ok (.image { upload, chunk, index, total, fileName, mimeType, size, isBackground, context })

/-- A question for the place of an element. -/
def readCode (ms : Members) : Read Request := do
  let selector ← readString ms "selector"
  let path? ← readString? ms "filePath"
  let text? ← readString? ms "textContent"
  let classes? ← readString? ms "className"
  let position? ← SourcePosition.read? (ms.get "sourceLocation")
  .ok (.code { selector, path?, text?, classes?, position? })

/-- The request of a type; none for an unknown type. -/
def ofMembers? (type : String) (ms : Members) : Option (Read Request) :=
  match type with
  | "style_update" => some (readStyles ms)
  | "text_update" => some (readTextUpdate ms)
  | "image_upload" => some (readImage ms)
  | "refresh_preview" => some (.ok .refresh)
  | "go_to_code" => some (readCode ms)
  | _ => none

end Request

namespace Wire

/-- The message in an object by its type and the catalogue `ofMembers?`; none for an unknown type. -/
def typed? {α : Type} (ofMembers? : String → Members → Option (Read α)) (v : Json) :
    Read (Option α) :=
  match v with
  | .obj ms =>
    match Members.get ms "type" with
    | .str type =>
      match ofMembers? type ms with
      | none => .ok none
      | some (.ok message) => .ok (some message)
      | some (.error f) => .error (f.within type)
    | _ => .ok none
  | _ => refuse (.notAnObject "backend message")

end Wire

/-- The request that a value holds; none for an unknown type. -/
def Request.read (v : Json) : Read (Option Request) := typed? Request.ofMembers? v

end Retouch
