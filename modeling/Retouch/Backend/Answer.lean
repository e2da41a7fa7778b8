import Retouch.Backend.Image
import Retouch.Patch.Replacement

/-!
# Answers to requests

Every request gets one answer. A request that cannot be read is answered by an error, one of an
unknown type not at all.
-/

namespace Retouch.Backend

open Retouch.Wire

variable {σ : Type} [Storage σ]

/-! ### Style changes -/

/-- A file after style changes. -/
structure Restyling where
  /-- The source. -/
  modified : Text
  /-- The changes that are written, in words. -/
  applied : List String
  /-- The changes that could not be written. -/
  failed : List FailedChange
  /-- What the journal has to keep. -/
  record? : Option EditRecord

/-- The changes of a recorded edit taken back or made again to the letter. -/
def replay? (b : Backend σ) (r : StyleUpdate) (hints : Hints) (file : SourceFile) :
    Option Restyling := do
  let id ← r.entryId?
  let direction ← r.direction?
  let modified ← b.journal.replay? id direction file.1 file.2 hints b.settings.search
  some ⟨modified, r.changes.map fun c => c.property ++ ": " ++ Patch.valueWords c.newValue, [], none⟩

/-- The report that style changes could not be written. -/
def styleFailure (r : StyleUpdate) (reason : String) (attempted : List String)
    (failed : List FailedChange) : StyleReport :=
  { success := false, selector := r.selector, error? := some reason, failed, attempted,
    entryId? := r.entryId? }

/-- The changes converted to classes and inline styles. -/
def convert (b : Backend σ) (r : StyleUpdate) (hints : Hints) (file : SourceFile) :
    Except StyleReport Restyling :=
  let (path, source) := file
  match Patch.applyStyleChanges source r.changes hints b.settings.search (Path.isMarkup path) with
  | .error e => .error (styleFailure r e.message e.attempted [])
  | .ok patch =>
    let failed := patch.failed.map fun (property, reason) => ⟨property, reason⟩
    if patch.applied.isEmpty then
      .error (styleFailure r "No style change could be applied" [patch.strategy.label] failed)
    else
      let records := r.entryId?.isSome && r.direction?.isNone && patch.changed
      .ok ⟨patch.modified, patch.applied, failed,
        if records then some ⟨path, patch.tagBefore, patch.tagAfter⟩ else none⟩

/-- The backend after an edit is entered into the journal. -/
def enter (b : Backend σ) (entryId? : Option String) (record? : Option EditRecord) : Backend σ :=
  match entryId?, record? with
  | some id, some record => { b with journal := b.journal.record id record }
  | _, _ => b

/-- The note under which style changes are saved. -/
def styleNote (r : StyleUpdate) : String :=
  (match r.direction? with
    | some d => d.label ++ " style change"
    | none => "update styles") ++ " for " ++ r.selector

/-- Saves a file after style changes if they change it. -/
def saveStyles (b : Backend σ) (r : StyleUpdate) (file : SourceFile) (modified : Text) :
    Backend σ × Option String :=
  if modified == file.2 then (b, none) else b.save file.1 modified (styleNote r)

/-- Answers style changes. -/
def answerStyles (b : Backend σ) (r : StyleUpdate) : Backend σ × StyleReport :=
  let hints := Hints.ofPosition r.selector r.position? r.text? r.classes?
  match b.resolve r.path? r.position? hints with
  | .error e => (b, styleFailure r e.message e.attempted [])
  | .ok file =>
    let restyling : Except StyleReport Restyling := match b.replay? r hints file with
      | some w => .ok w
      | none => b.convert r hints file
    match restyling with
    | .error report => (b, report)
    | .ok w =>
      match (b.enter r.entryId? w.record?).saveStyles r file w.modified with
      | (b, some reason) => (b, styleFailure r reason [] [])
      | (b, none) =>
        let b := b.tell (.stylesPatched file.1 r.selector w.applied
          (w.failed.map fun f => f.property ++ ": " ++ f.reason))
        (b.deployUnless r.skipsDeploy,
          { success := true, selector := r.selector, path? := some file.1, applied := w.applied,
            failed := w.failed, entryId? := r.entryId? })

/-! ### Texts -/

/-- The path of the file that holds a text, and its source with the text replaced. -/
def replaceText (b : Backend σ) (r : TextUpdate) : Except String SourceFile :=
  let hints := Hints.ofPosition r.selector r.position? (some r.oldText) r.classes?
  match b.resolve r.path? r.position? hints with
  | .error e => .error e.message
  | .ok (path, source) =>
    let anchor? := (Locate.findTag? source hints b.settings.search).map fun found =>
      (found.1.start : Int)
    match Patch.replaceText source r.oldText.toList r.newText.toList anchor?
        (Path.isMarkup path) with
    | .error e => .error e.message
    | .ok patch => .ok (path, patch.modified)

/-- Answers a text. -/
def answerText (b : Backend σ) (r : TextUpdate) : Backend σ × TextReport :=
  match b.replaceText r with
  | .error reason => (b, { success := false, selector := r.selector, error? := some reason })
  | .ok (path, modified) =>
    match b.save path modified ("update text for " ++ r.selector) with
    | (b, some reason) => (b, { success := false, selector := r.selector, error? := some reason })
    | (b, none) =>
      ((b.tell (.textPatched path r.selector)).deployUnless r.skipsDeploy,
        { success := true, selector := r.selector, path? := some path })

/-! ### Images -/

/-- Answers a piece of an image. -/
def answerImage (b : Backend σ) (chunk : ImageChunk) : Backend σ × Except BackendFault Response :=
  let (store, uploads, status) :=
    Upload.receive b.settings.upload b.clock b.store b.uploads chunk
  let b := { b with store, uploads }
  match status with
  | .inProgress received total => (b, .ok (.progress chunk.upload received total))
  | .failed _ e =>
    (b, .ok (.image { success := false, upload := chunk.upload, error? := some e.message }))
  | .complete _ path _ =>
    let address := Path.publicAddress path
    let (b, shown) := (b.tell (.uploadCompleted chunk.upload path)).showImage chunk.context address
      chunk.isBackground
    (b, shown.map fun isShown => .image {
      success := true, upload := chunk.upload, address? := some address,
      needsManualUpdate := !isShown })

/-! ### The preview and the code -/

/-- Answers a call for a fresh preview. -/
def answerRefresh (b : Backend σ) : Backend σ × Response :=
  (b.deploy, .refreshed b.deployer.fault?.isNone b.deployer.fault?)

/-- The line and the column of an offset, both counted from one. -/
def lineAndColumn (source : Text) (i : Nat) : Nat × Nat :=
  (Markup.lineOf source i, ((source.take i).reverse.takeWhile (· != '\n')).length + 1)

/-- Answers a question for the place of an element; a file without it is opened at its start. -/
def answerCode (b : Backend σ) (r : CodeQuery) : CodePlace :=
  let hints := Hints.ofPosition r.selector r.position? r.text? r.classes?
  match b.resolve r.path? r.position? hints with
  | .error e => { success := false, selector := r.selector, error? := some e.message }
  | .ok (path, source) =>
    match Locate.findTag? source hints b.settings.search with
    | none => { success := true, selector := r.selector, path? := some path, line? := some 1 }
    | some (tag, _) =>
      let (line, column) := lineAndColumn source tag.start
      { success := true, selector := r.selector, path? := some path, line? := some line,
        column? := some column }

/-! ### Any request -/

/-- Answers a request. -/
def answer (b : Backend σ) : Request → Backend σ × Except BackendFault Response
  | .styles r =>
    let (b, report) := b.answerStyles r
    (b, .ok (.styles report))
  | .text r =>
    let (b, report) := b.answerText r
    (b, .ok (.text report))
  | .image chunk => b.answerImage chunk
  | .refresh =>
    let (b, response) := b.answerRefresh
    (b, .ok response)
  | .code r => (b, .ok (.code (b.answerCode r)))

/-- The type of a message that cannot be read, if it has one. -/
def typeOf? (v : Json) : Option String :=
  (Members.get v.members "type").string?.filter fun type => !type.isEmpty

/-- Takes in a message and answers it. -/
def handle (b : Backend σ) (v : Json) : Backend σ × Except BackendFault (List Response) :=
  match Request.read v with
  | .ok none => (b, .ok [])
  | .ok (some request) =>
    let (b, response) := b.answer request
    (b, response.map ([·]))
  | .error (.protocol e) => (b, .ok [.error e.message (typeOf? v)])
  | .error (.number f) => (b, .error (.number f))
  | .error (.notIterable _) => (b, .ok [])

end Retouch.Backend
