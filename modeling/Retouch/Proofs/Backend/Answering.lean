import Retouch.Proofs.Backend.Styling
import Retouch.Proofs.Wire.Message

/-!
# Which messages are answered

A message is answered (`Backend.handle_answers_iff`) unless a number in it is out of range, or it brings
the last piece of an image for an element that is told of in a way that cannot be used: the position is
beyond the range, or a hint is needed that is no text. Whatever is answered to a request is one response,
of the kind that goes with the request; a malformed message is answered by one error, and a message of an
unknown type by nothing (`Backend.Answered`).
-/

namespace Retouch

open Wire

/-! ### The element of an image -/

namespace ImageTarget

variable {t : ImageTarget} {files : List SourceFile} {settings : BackendSettings}

/-- The file of the element cannot be looked for: a hint is needed that is no text. -/
def LosesFile (t : ImageTarget) (files : List SourceFile) (settings : BackendSettings) : Prop :=
  isUnusable t.path = true ∨
    Resolution.named? files [t.path.string?, t.position?.map (·.path)] = none ∧
      (isUnusable t.text = true ∨
        (Resolution.byText? (Resolution.searched files settings.endings) t.text.string?
            settings.search <|>
          Resolution.byId? (Resolution.searched files settings.endings) t.selector) = none ∧
        isUnusable t.classes = true)

/-- The file of an element is not looked for exactly if it cannot be. -/
theorem resolve_error_iff : (∃ f, t.resolve files settings = .error f) ↔ t.LosesFile files settings := by
  unfold resolve LosesFile
  dsimp only
  split
  · rename_i path
    simp [path]
  · rename_i path
    split
    · rename_i named
      simp [path, named]
    · rename_i named
      split
      · rename_i text
        simp [path, named, text]
      · rename_i text
        split
        · rename_i found
          simp [path, named, text, found]
        · rename_i found
          split
          · rename_i classes
            simp [path, named, text, found, classes]
          · rename_i classes
            simp [path, named, text, classes]

/-- The tag of the element cannot be looked for in a file: a hint is needed that is no text. -/
def LosesTag (t : ImageTarget) (source : Text) (limits : SearchLimits) : Prop :=
  t.needsUnusable ((Locate.findTag? source t.hints limits).map (·.2)) = true

theorem findTag_error_iff {source : Text} {limits : SearchLimits} :
    (∃ f, t.findTag source limits = .error f) ↔ t.LosesTag source limits := by
  unfold findTag LosesTag
  dsimp only
  split
  · rename_i unusable
    simp [unusable]
  · rename_i usable
    simp [usable]

/-- An image is stuck at its element exactly if the tag cannot be looked for; what cannot be written is
only told. -/
theorem write?_error_iff {source : Text} {address : String} {isBackground : Bool}
    {limits : SearchLimits} {html : Bool} :
    (∃ f, t.write? source address isBackground limits html = .error f) ↔ t.LosesTag source limits := by
  unfold write?
  rw [exists_bind_eq_error, findTag_error_iff]
  refine or_iff_left ?_
  rintro ⟨tag?, -, f, failed⟩
  split at failed
  · cases failed
  · split at failed
    · cases failed
    · split at failed <;> cases failed

/-- The context names an element whose position is beyond the range. -/
def IsMisplaced (context : Members) : Prop :=
  ∃ selector, context.get "selector" = .str selector ∧ selector ≠ "" ∧
    SourcePosition.IsBeyond (context.get "sourceLocation")

/-- A context is not read exactly if its element is misplaced; a bad position names no element. -/
theorem read?_error_iff {context : Members} :
    (∃ f, read? context = .error f) ↔ IsMisplaced context := by
  unfold read? IsMisplaced
  simp only [← SourcePosition.outOfRange_read?]
  split
  · rename_i selector named
    split
    · rename_i empty
      simp_all
    · rename_i filled
      cases position : SourcePosition.read? (context.get "sourceLocation") with
      | ok position? => simp
      | error fault =>
        cases fault with
        | number f =>
          have range := SourcePosition.isRange_of_read? position
          simp_all [OutOfRange]
        | protocol e => simp [OutOfRange]
        | notIterable kind => simp [OutOfRange]
  · rename_i unnamed
    refine iff_of_false (by rintro ⟨f, ⟨⟩⟩) ?_
    rintro ⟨selector, named, -⟩
    exact unnamed selector named

/-- Showing an image at the element that a context names gets stuck: its position is beyond the range, or
a hint is needed that is no text. -/
def IsStuck (context : Members) (files : List SourceFile) (settings : BackendSettings) : Prop :=
  IsMisplaced context ∨
    ∃ t, read? context = .ok (some t) ∧
      (t.LosesFile files settings ∨
        ∃ file, t.resolve files settings = .ok (some file) ∧ t.LosesTag file.2 settings.search)

end ImageTarget

namespace Backend

variable {σ : Type} [Storage σ]

/-- What is written where to show an image; nothing if it cannot be shown. -/
def imagePlan (b : Backend σ) (context : Members) (address : String) (isBackground : Bool) :
    Except BackendFault (Option (ImageTarget × String × Text)) := do
  match ← ImageTarget.read? context with
  | none => .ok none
  | some target =>
    match ← target.resolve (Storage.files b.store) b.settings with
    | none => .ok none
    | some (path, source) =>
      let written? ←
        target.write? source address isBackground b.settings.search (Path.isMarkup path)
      .ok (written?.map fun written => (target, path, written))

theorem imagePlan_error_iff (b : Backend σ) (context : Members) (address : String)
    (isBackground : Bool) :
    (∃ f, b.imagePlan context address isBackground = .error f) ↔
      ImageTarget.IsStuck context (Storage.files b.store) b.settings := by
  unfold imagePlan ImageTarget.IsStuck
  rw [exists_bind_eq_error, ImageTarget.read?_error_iff]
  refine or_congr Iff.rfl ⟨?_, ?_⟩
  · rintro ⟨t?, named, f, failed⟩
    cases t? with
    | none => cases failed
    | some t =>
      refine ⟨t, named, ?_⟩
      obtain lost | ⟨file?, found, f, failed⟩ := exists_bind_eq_error.mp ⟨f, failed⟩
      · exact Or.inl (ImageTarget.resolve_error_iff.mp lost)
      · cases file? with
        | none => cases failed
        | some file =>
          obtain lost | ⟨_, _, _, ⟨⟩⟩ := exists_bind_eq_error.mp ⟨f, failed⟩
          exact Or.inr ⟨file, found, ImageTarget.write?_error_iff.mp lost⟩
  · rintro ⟨t, named, stuck⟩
    refine ⟨some t, named, ?_⟩
    dsimp only
    rw [exists_bind_eq_error]
    obtain lost | ⟨file, found, lost⟩ := stuck
    · exact Or.inl (ImageTarget.resolve_error_iff.mpr lost)
    · refine Or.inr ⟨some file, found, ?_⟩
      dsimp only
      rw [exists_bind_eq_error]
      exact Or.inl (ImageTarget.write?_error_iff.mpr lost)

theorem showImage_error_iff {b : Backend σ} {context : Members} {address : String}
    {isBackground : Bool} :
    (∃ f, (b.showImage context address isBackground).2 = .error f) ↔
      ImageTarget.IsStuck context (Storage.files b.store) b.settings := by
  rw [← imagePlan_error_iff b context address isBackground]
  unfold showImage
  dsimp only
  split
  · rename_i f failed
    exact iff_of_true ⟨f, rfl⟩ ⟨f, failed⟩
  · rename_i planned
    refine iff_of_false (by rintro ⟨f, ⟨⟩⟩) ?_
    rintro ⟨f, failed⟩
    cases failed.symm.trans planned
  · rename_i planned
    refine iff_of_false (by rintro ⟨f, ⟨⟩⟩) ?_
    rintro ⟨f, failed⟩
    cases failed.symm.trans planned

/-- A request gets stuck: it brings the last piece of an image, and the image cannot be shown at its
element. -/
def IsStuck (b : Backend σ) : Request → Prop
  | .image chunk => ∃ store uploads n path data,
    Upload.receive b.settings.upload b.clock b.store b.uploads chunk =
        (store, uploads, .complete n path data) ∧
      ImageTarget.IsStuck chunk.context (Storage.files store) b.settings
  | _ => False

/-- A response to a request: it is of the kind that goes with the request, and names its element or its
upload. -/
inductive Replies : Request → Response → Prop
  | styles {r : StyleUpdate} {report : StyleReport} (element : report.selector = r.selector)
    (entry : report.entryId? = r.entryId?) : Replies (.styles r) (.styles report)
  | text {r : TextUpdate} {report : TextReport} (element : report.selector = r.selector) :
    Replies (.text r) (.text report)
  | progress {chunk : ImageChunk} {received total : Int} :
    Replies (.image chunk) (.progress chunk.upload received total)
  | image {chunk : ImageChunk} {report : ImageReport} (upload : report.upload = chunk.upload) :
    Replies (.image chunk) (.image report)
  | refreshed {success : Bool} {error? : Option String} : Replies .refresh (.refreshed success error?)
  | code {r : CodeQuery} {place : CodePlace} (element : place.selector = r.selector) :
    Replies (.code r) (.code place)

omit [Storage σ] in
theorem restyle_replies {b : Backend σ} {r : StyleUpdate} {file : SourceFile} {report : StyleReport}
    (failed : b.restyle r file = .error report) :
    report.selector = r.selector ∧ report.entryId? = r.entryId? := by
  unfold restyle convert at failed
  dsimp only at failed
  split at failed
  · cases failed
  · split at failed
    · cases failed
      exact ⟨rfl, rfl⟩
    · split at failed
      · cases failed
        exact ⟨rfl, rfl⟩
      · cases failed

theorem answerStyles_replies (b : Backend σ) (r : StyleUpdate) :
    Replies (.styles r) (.styles (b.answerStyles r).2) := by
  unfold answerStyles
  dsimp only
  split
  · exact .styles rfl rfl
  · rename_i file resolved
    split
    · rename_i report failed
      have failed : b.restyle r file = .error report := failed
      obtain ⟨element, entry⟩ := restyle_replies failed
      exact .styles element entry
    · split <;> exact .styles rfl rfl

theorem answerText_replies (b : Backend σ) (r : TextUpdate) :
    Replies (.text r) (.text (b.answerText r).2) := by
  unfold answerText
  split
  · exact .text rfl
  · split <;> exact .text rfl

theorem answerCode_replies (b : Backend σ) (r : CodeQuery) :
    Replies (.code r) (.code (b.answerCode r)) := by
  unfold answerCode
  dsimp only
  split
  · exact .code rfl
  · split <;> exact .code rfl

theorem answerImage_replies {b : Backend σ} {chunk : ImageChunk} {response : Response}
    (answered : (b.answerImage chunk).2 = .ok response) : Replies (.image chunk) response := by
  unfold answerImage at answered
  dsimp only at answered
  split at answered
  · cases answered
    exact .progress
  · cases answered
    exact .image rfl
  · obtain ⟨isShown, -, done⟩ := map_eq_ok.mp answered
    cases done
    exact .image rfl

/-- **A piece of an image goes unanswered** exactly if it gets stuck. -/
theorem answerImage_error_iff (b : Backend σ) (chunk : ImageChunk) :
    (∃ f, (b.answerImage chunk).2 = .error f) ↔ b.IsStuck (.image chunk) := by
  obtain ⟨⟨store, uploads, status⟩, received⟩ : ∃ outcome,
    Upload.receive b.settings.upload b.clock b.store b.uploads chunk = outcome := ⟨_, rfl⟩
  unfold answerImage IsStuck
  dsimp only
  rw [received]
  cases status with
  | inProgress n total => simp
  | failed total e => simp
  | complete n path data =>
    simp only [map_eq_error, showImage_error_iff, tell]
    constructor
    · exact fun stuck => ⟨store, uploads, n, path, data, rfl, stuck⟩
    · rintro ⟨_, _, _, _, _, ⟨⟩, stuck⟩
      exact stuck

/-- What answers a request is a response to it. -/
theorem answer_replies {b : Backend σ} {r : Request} {response : Response}
    (answered : (b.answer r).2 = .ok response) : Replies r response := by
  cases r with
  | styles r =>
    cases answered
    exact answerStyles_replies b r
  | text r =>
    cases answered
    exact answerText_replies b r
  | image chunk => exact answerImage_replies answered
  | refresh =>
    cases answered
    exact .refreshed
  | code r =>
    cases answered
    exact answerCode_replies b r

/-- **A request goes unanswered** exactly if it gets stuck. -/
theorem answer_error_iff (b : Backend σ) (r : Request) :
    (∃ f, (b.answer r).2 = .error f) ↔ b.IsStuck r := by
  cases r with
  | image chunk => exact answerImage_error_iff b chunk
  | _ => exact iff_of_false nofun id

/-- What is answered to a message: nothing to one of an unknown type, one error to a malformed one, and
one response to a request. -/
inductive Answered (v : Json) : List Response → Prop
  | unknown (passed : Request.read v = .ok none) : Answered v []
  | malformed {e : ProtocolError} (refused : Request.read v = .error (.protocol e)) :
    Answered v [.error e.message (typeOf? v)]
  | request {r : Request} {response : Response} (read : Request.read v = .ok (some r))
    (replies : Replies r response) : Answered v [response]

/-- A message gets stuck: it is a request that does. -/
def IsStuckOn (b : Backend σ) (v : Json) : Prop :=
  ∃ r, Request.read v = .ok (some r) ∧ b.IsStuck r

/-- What is answered has ended as it is to. -/
theorem Answered.ends {v : Json} {responses : List Response} (answered : Answered v responses) :
    Ends (Request.read v) := by
  cases answered with
  | unknown passed => exact passed ▸ .nothing
  | malformed refused => exact refused ▸ .refused _
  | request read replies => exact read ▸ .message _

/-- A message that ends as it is to, and does not get stuck, is answered. -/
theorem handle_answered {b : Backend σ} {v : Json} (ends : Ends (Request.read v))
    (free : ¬ b.IsStuckOn v) : ∃ responses, (b.handle v).2 = .ok responses ∧ Answered v responses := by
  unfold handle
  cases read : Request.read v with
  | error fault =>
    rw [read] at ends
    cases ends with
    | refused e => exact ⟨_, rfl, .malformed read⟩
  | ok r? =>
    cases r? with
    | none => exact ⟨_, rfl, .unknown read⟩
    | some r =>
      cases answered : (b.answer r).2 with
      | ok response =>
        refine ⟨[response], ?_, .request read (answer_replies answered)⟩
        dsimp only
        rw [answered]
        rfl
      | error f => exact absurd ⟨r, read, (answer_error_iff b r).mp ⟨f, answered⟩⟩ free

/-- **A request that is sent has one response**, unless it gets stuck. -/
theorem handle_toJson {b : Backend σ} {r : Request} (free : ¬ b.IsStuck r) :
    ∃ response, (b.handle r.toJson).2 = .ok [response] := by
  have passes : ¬ b.IsStuckOn r.toJson := by
    rintro ⟨r', read, stuck⟩
    cases r' with
    | image chunk =>
      have type : r.type = "image_upload" := (Request.type_of_read read).symm
      cases r with
      | image chunk' =>
        cases Request.of_read_image read
        exact free stuck
      | _ => exact absurd type (by simp [Request.type])
    | _ => exact stuck
  obtain ⟨responses, done, answered⟩ :=
    handle_answered ((Request.ends_read_iff r.toJson).mpr r.not_overflows) passes
  cases answered with
  | unknown passed => exact absurd passed r.read_ne_none
  | malformed refused => exact ⟨_, done⟩
  | request read replies => exact ⟨_, done⟩

end Backend

end Retouch
