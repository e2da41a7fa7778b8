import Retouch.Wire.Request

/-!
# Responses

What the backend answers to a request.
-/

namespace Retouch

open Retouch.Wire

/-- A change that could not be written, and why. -/
structure FailedChange where
  /-- The property. -/
  property : String
  /-- The reason. -/
  reason : String
  deriving DecidableEq, Repr, Inhabited

/-- The answer to style changes. -/
structure StyleReport where
  /-- The changes are in the source. -/
  success : Bool
  /-- The element. -/
  selector : String
  /-- The file that was changed. -/
  path? : Option String := none
  /-- What went wrong. -/
  error? : Option String := none
  /-- The changes that were written, in words. -/
  applied : List String := []
  /-- The changes that could not be written. -/
  failed : List FailedChange := []
  /-- The strategies that were tried. -/
  attempted : List String := []
  /-- The entry in the history of edits. -/
  entryId? : Option String := none
  deriving DecidableEq, Repr, Inhabited

/-- The answer to a text. -/
structure TextReport where
  /-- The text is in the source. -/
  success : Bool
  /-- The element. -/
  selector : String
  /-- The file that was changed. -/
  path? : Option String := none
  /-- What went wrong. -/
  error? : Option String := none
  deriving DecidableEq, Repr, Inhabited

/-- The answer to the last piece of an image, or to one that failed. -/
structure ImageReport where
  /-- The image is in the project. -/
  success : Bool
  /-- The upload. -/
  upload : String
  /-- The address under which the image is served. -/
  address? : Option String := none
  /-- The element does not show the image yet. -/
  needsManualUpdate : Bool := false
  /-- What went wrong. -/
  error? : Option String := none
  deriving DecidableEq, Repr, Inhabited

/-- Where an element stands in the code. -/
structure CodePlace where
  /-- The file is known. -/
  success : Bool
  /-- The element. -/
  selector : String
  /-- The file. -/
  path? : Option String := none
  /-- The line. -/
  line? : Option Int := none
  /-- The column. -/
  column? : Option Int := none
  /-- What went wrong. -/
  error? : Option String := none
  deriving DecidableEq, Repr, Inhabited

/-- What the backend answers. -/
inductive Response where
  /-- To style changes. -/
  | styles (r : StyleReport)
  /-- To a text. -/
  | text (r : TextReport)
  /-- To an image that is complete, or failed. -/
  | image (r : ImageReport)
  /-- To a piece of an image, while others are missing. -/
  | progress (upload : String) (received total : Int)
  /-- To a call for a fresh preview. -/
  | refreshed (success : Bool) (error? : Option String)
  /-- To a question for the place of an element. -/
  | code (r : CodePlace)
  /-- To a request that cannot be read. -/
  | error (message : String) (context? : Option String)

namespace Response

/-- The type of a response. -/
def type : Response → String
  | .styles _ => "style_updated"
  | .text _ => "text_updated"
  | .image _ => "image_uploaded"
  | .progress _ _ _ => "upload_progress"
  | .refreshed _ _ => "preview_refreshed"
  | .code _ => "code_location"
  | .error _ _ => "error"

/-- A number as a member that may be left out. -/
def numberMember? (key : String) (value : Option Int) : Members :=
  match value with
  | some n => [(key, .int n)]
  | none => []

/-- A failed change as an object. -/
def failedJson (f : FailedChange) : Json :=
  .obj [("property", .str f.property), ("error", .str f.reason)]

/-- The members of a response beside its type. -/
def payload : Response → Members
  | .styles r =>
    [("success", .bool r.success), ("selector", .str r.selector), ("applied", .strings r.applied),
        ("failed", .arr (r.failed.map failedJson))] ++
      member? "filePath" r.path? ++ member? "error" r.error? ++
      (if r.attempted.isEmpty then [] else [("attempted", .strings r.attempted)]) ++
      member? "entryId" r.entryId?
  | .text r =>
    [("success", .bool r.success), ("selector", .str r.selector)] ++
      member? "filePath" r.path? ++ member? "error" r.error?
  | .image r =>
    [("success", .bool r.success), ("uploadId", .str r.upload)] ++
      member? "imagePath" r.address? ++
      (if r.needsManualUpdate then [("requiresManualUpdate", .bool true)] else []) ++
      member? "error" r.error?
  | .progress upload received total =>
    [("uploadId", .str upload), ("received", .int received), ("total", .int total)]
  | .refreshed success error? => ("success", .bool success) :: member? "error" error?
  | .code r =>
    [("success", .bool r.success), ("selector", .str r.selector)] ++
      member? "filePath" r.path? ++ numberMember? "lineNumber" r.line? ++
      numberMember? "columnNumber" r.column? ++ member? "error" r.error?
  | .error message context? => ("message", .str message) :: member? "context" context?

/-- A response as an object. -/
def toJson (r : Response) : Json := .obj (("type", .str r.type) :: r.payload)

/-! ### Reading -/

/-- A failed change; what is missing in it is empty. -/
def readFailed (v : Json) : Read FailedChange :=
  match v with
  | .obj ms =>
    .ok ⟨((Table.get? ms "property").getD (.str "")).text,
      ((Table.get? ms "error").getD (.str "")).text⟩
  | _ => refuse .entriesNotObjects

/-- A list of texts. -/
def readStrings (v : Json) : Read (List String) := do .ok ((← readItems v).map Json.text)

/-- A number that may be missing. -/
def readInteger? (v : Json) : Read (Option Int) :=
  match v with
  | .null => .ok none
  | v => do .ok (some (← readInteger v))

/-- A number that counts as zero if it is missing. -/
def readCount (v : Json) : Read Int := if v.truthy then readInteger v else .ok 0

/-- The answer to style changes. -/
def readStyles (ms : Members) : Read Response := do
  let failed ← (← readItems (ms.get "failed")).mapM readFailed
  let path? ← readString? ms "filePath"
  let error? ← readString? ms "error"
  let applied ← readStrings (ms.get "applied")
  let attempted ← readStrings (ms.get "attempted")
  let entryId? ← readString? ms "entryId"
  .ok (.styles {
    success := readBool ms "success" false
    selector := readText ms "selector"
    path?, error?, applied, failed, attempted, entryId? })

/-- The answer to a text. -/
def readTextReport (ms : Members) : Read Response := do
  let path? ← readString? ms "filePath"
  let error? ← readString? ms "error"
  .ok (.text {
    success := readBool ms "success" false, selector := readText ms "selector", path?, error? })

/-- The answer to an image. -/
def readImage (ms : Members) : Read Response := do
  let address? ← readString? ms "imagePath"
  let error? ← readString? ms "error"
  .ok (.image {
    success := readBool ms "success" false
    upload := readText ms "uploadId"
    address?
    needsManualUpdate := readBool ms "requiresManualUpdate" false
    error? })

/-- The place of an element. -/
def readCode (ms : Members) : Read Response := do
  let path? ← readString? ms "filePath"
  let line? ← readInteger? (ms.get "lineNumber")
  let column? ← readInteger? (ms.get "columnNumber")
  let error? ← readString? ms "error"
  .ok (.code {
    success := readBool ms "success" false
    selector := readText ms "selector"
    path?, line?, column?, error? })

/-- The response of a type; none for an unknown type. -/
def ofMembers? (type : String) (ms : Members) : Option (Read Response) :=
  match type with
  | "style_updated" => some (readStyles ms)
  | "text_updated" => some (readTextReport ms)
  | "image_uploaded" => some (readImage ms)
  | "upload_progress" => some do
    .ok (.progress (readText ms "uploadId") (← readCount (ms.get "received"))
      (← readCount (ms.get "total")))
  | "preview_refreshed" => some do
    .ok (.refreshed (readBool ms "success" false) (← readString? ms "error"))
  | "code_location" => some (readCode ms)
  | "error" => some do
    let message := readText ms "message"
    .ok (.error (if message.isEmpty then "unknown error" else message)
      (← readString? ms "context"))
  | _ => none

/-- The response that a value holds; none for an unknown type. -/
def read (v : Json) : Read (Option Response) := typed? ofMembers? v

end Response

end Retouch
