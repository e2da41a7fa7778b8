import Retouch.Proofs.Wire.Outcomes

/-!
# Messages as they are sent and read

A request that is sent is of a known type, and its numbers are whole, so it is read or refused
(`Request.not_overflows`, `Request.read_ne_none`). What is read of it is a request of its type, and of a
piece of an image just that piece (`Request.of_read_image`).

Every response is read as it was written, except that empty texts among the optional members count as
missing, and an error without a message is an unknown one (`Response.read_toJson`).
-/

namespace Retouch

open Wire

/-- A position that was written is not beyond the range. -/
theorem SourcePosition.not_isBeyond_toJson (p : SourcePosition) : ¬ IsBeyond p.toJson := by
  rw [← outOfRange_read?, read?_toJson]
  exact not_outOfRange_ok _

@[simp] theorem SourcePosition.not_isBeyond_null : ¬ IsBeyond .null := by
  rintro ⟨ms, path, ⟨⟩, -⟩

namespace Request

/-- The members of a request, type included. -/
def members (r : Request) : Members := ("type", .str r.type) :: r.payload

theorem toJson_eq (r : Request) : r.toJson = .obj r.members := rfl

theorem get_type (r : Request) : r.members.get "type" = .str r.type := rfl

/-- The position of the element that a request is about. -/
def position? : Request → Option SourcePosition
  | .styles r => r.position?
  | .text r => r.position?
  | .code r => r.position?
  | .image _ | .refresh => none

theorem get?_sourceLocation (r : Request) :
    Table.get? r.members "sourceLocation" = r.position?.map SourcePosition.toJson := by
  cases r <;>
    simp [members, payload, position?, Table.get?_cons, get?_append, get?_member?,
      get?_positionMember?]

/-- The position in a request is not beyond the range. -/
theorem not_isBeyond_position (r : Request) :
    ¬ SourcePosition.IsBeyond (r.members.get "sourceLocation") := by
  unfold Members.get
  rw [r.get?_sourceLocation]
  cases r.position? with
  | none => exact SourcePosition.not_isBeyond_null
  | some p => exact p.not_isBeyond_toJson

/-- **No number in a request is out of range**: they are whole numbers all. -/
theorem not_overflows (r : Request) : ¬ Overflows r.toJson := by
  rintro (⟨-, -, beyond⟩ | ⟨kind, beyond⟩)
  · exact r.not_isBeyond_position beyond
  · have type : r.type = "image_upload" := Json.str.inj kind
    cases r with
    | image chunk =>
      obtain infinite | ⟨-, infinite | ⟨-, infinite⟩⟩ := beyond
      · exact Json.not_isInfinite_int chunk.index infinite
      · exact Json.not_isInfinite_int chunk.total infinite
      · exact Json.not_isInfinite_int chunk.size infinite
    | _ => exact absurd type (by simp [Request.type])

/-! ### What is read of a request -/

/-- A request is of a known type. -/
theorem read_ne_none (r : Request) : Request.read r.toJson ≠ .ok none := by
  have known : ∃ reading, ofMembers? r.type r.members = some reading := by
    cases r <;> exact ⟨_, rfl⟩
  obtain ⟨reading, known⟩ := known
  unfold read
  rw [toJson_eq, typed?_obj r.get_type, known]
  exact inMessage_some_ne_none reading

section Types

variable {ms : Members} {r : Request}

theorem type_of_readStyles (read : readStyles ms = .ok r) : r.type = "style_update" := by
  unfold readStyles at read
  split at read
  · simp only [bind_eq_ok] at read
    obtain ⟨_, -, _, -, _, -, _, -, _, -, _, -, _, -, _, -, _, -, ⟨⟩⟩ := read
    rfl
  · obtain ⟨_, ⟨⟩, -⟩ := bind_eq_ok.mp read

theorem type_of_readTextUpdate (read : readTextUpdate ms = .ok r) : r.type = "text_update" := by
  simp only [readTextUpdate, bind_eq_ok] at read
  obtain ⟨_, -, _, -, _, -, _, -, _, -, _, -, ⟨⟩⟩ := read
  rfl

theorem type_of_readImage (read : readImage ms = .ok r) : r.type = "image_upload" := by
  rw [readImage_eq] at read
  simp only [bind_eq_ok] at read
  obtain ⟨_, -, _, -, _, -, _, -, _, -, _, -, _, -, _, -, ⟨⟩⟩ := read
  rfl

theorem type_of_readCode (read : readCode ms = .ok r) : r.type = "go_to_code" := by
  simp only [readCode, bind_eq_ok] at read
  obtain ⟨_, -, _, -, _, -, _, -, _, -, ⟨⟩⟩ := read
  rfl

/-- The catalogue keeps to the type that it is asked for. -/
theorem type_of_members {type : String} (read : ofMembers? type ms = some (.ok r)) :
    r.type = type := by
  unfold ofMembers? at read
  split at read
  · exact type_of_readStyles (Option.some.inj read)
  · exact type_of_readTextUpdate (Option.some.inj read)
  · exact type_of_readImage (Option.some.inj read)
  · cases read
    rfl
  · exact type_of_readCode (Option.some.inj read)
  · cases read

end Types

/-- What is read of a request is a request of its type. -/
theorem type_of_read {r r' : Request} (read : Request.read r.toJson = .ok (some r')) :
    r'.type = r.type := by
  unfold Request.read at read
  rw [toJson_eq, typed?_obj r.get_type, inMessage_eq_some] at read
  exact type_of_members read

/-- A text that must not be empty is read as it stands. -/
theorem get_of_readString {ms : Members} {key value : String}
    (read : readString ms key = .ok value) : ms.get key = .str value := by
  unfold readString at read
  split at read
  · rename_i s there
    split at read
    · cases read
    · cases read
      exact there
  · cases read

/-- **Of a piece of an image, just that piece is read.** -/
theorem of_read_image {chunk : ImageChunk} {r : Request}
    (read : Request.read (Request.image chunk).toJson = .ok (some r)) : r = .image chunk := by
  unfold Request.read at read
  rw [toJson_eq, typed?_obj (image chunk).get_type, inMessage_eq_some] at read
  have read : readImage (image chunk).members = .ok r := Option.some.inj read
  rw [readImage_eq] at read
  obtain ⟨index, ⟨⟩, read⟩ := bind_eq_ok.mp read
  obtain ⟨total, ⟨⟩, read⟩ := bind_eq_ok.mp read
  obtain ⟨size, whole, read⟩ := bind_eq_ok.mp read
  obtain ⟨context, ⟨⟩, read⟩ := bind_eq_ok.mp read
  obtain ⟨upload, named, read⟩ := bind_eq_ok.mp read
  obtain ⟨piece, ⟨⟩, read⟩ := bind_eq_ok.mp read
  obtain ⟨fileName, file, read⟩ := bind_eq_ok.mp read
  obtain ⟨mimeType, type, done⟩ := bind_eq_ok.mp read
  have size_eq : unlessMissing readCounter ((image chunk).members.get "fileSize") = .ok chunk.size :=
    unlessMissing_int rfl
  cases size_eq.symm.trans whole
  cases Json.str.inj (get_of_readString named)
  cases Json.str.inj (get_of_readString file)
  cases Json.str.inj (get_of_readString type)
  cases done
  rfl

end Request

end Retouch

/-! ## Responses there and back -/

namespace Retouch.Response

open Wire

/-- A response with empty optional texts left out. -/
def normal : Response → Response
  | .styles r => .styles r.normal
  | .text r => .text { r with path? := filled r.path?, error? := filled r.error? }
  | .image r => .image { r with address? := filled r.address?, error? := filled r.error? }
  | .progress upload received total => .progress upload received total
  | .refreshed success error? => .refreshed success (filled error?)
  | .code r => .code { r with path? := filled r.path?, error? := filled r.error? }
  | .error message context? =>
    .error (if message.isEmpty then "unknown error" else message) (filled context?)

/-- The members of a response, type included. -/
def members (r : Response) : Members := ("type", .str r.type) :: r.payload

theorem get_type (r : Response) : r.members.get "type" = .str r.type := rfl

theorem get?_numberMember? (key key' : String) (value : Option Int) :
    Table.get? (numberMember? key value) key' = if key' == key then value.map Json.int else none := by
  cases value with
  | none => simp [numberMember?]
  | some n => simp [numberMember?, Table.get?_cons]

/-- A number that may be missing is read as it was written. -/
theorem readInteger?_eq {ms : Members} {key : String} {value : Option Int}
    (there : Table.get? ms key = value.map Json.int) : readInteger? (ms.get key) = .ok value := by
  unfold Members.get
  rw [there]
  cases value <;> rfl

/-- A number is read as it was written. -/
theorem readCount_eq {ms : Members} {key : String} {n : Int}
    (there : Table.get? ms key = some (.int n)) : readCount (ms.get key) = .ok n := by
  rw [Members.get_of_get? there]
  exact unlessMissing_int rfl

/-- A condition is read as it was written. -/
theorem readBool_eq {ms : Members} {key : String} {b : Bool} (missing : Bool)
    (there : Table.get? ms key = some (.bool b)) : readBool ms key missing = b := by
  unfold readBool
  rw [there]
  rfl

/-- A response is read by the reader of its type. -/
theorem read_members {r r' : Response} (read : ofMembers? r.type r.members = some (.ok r')) :
    Response.read r.toJson = .ok (some r') := by
  show typed? ofMembers? (.obj r.members) = _
  rw [typed?_obj r.get_type, read]
  rfl

/-- What the optional texts of a response are. -/
theorem get?_text (r : TextReport) :
    Table.get? (text r).members "filePath" = r.path?.map Json.str ∧
      Table.get? (text r).members "error" = r.error?.map Json.str := by
  simp [members, payload, Table.get?_cons, get?_append, get?_member?]

/-- What the members of a report on an image are. -/
theorem get?_image (r : ImageReport) :
    Table.get? (image r).members "imagePath" = r.address?.map Json.str ∧
      readBool (image r).members "requiresManualUpdate" false = r.needsManualUpdate ∧
      Table.get? (image r).members "error" = r.error?.map Json.str := by
  cases manual : r.needsManualUpdate <;>
    simp [members, payload, readBool, Table.get?_cons, get?_append, get?_member?, manual, Json.truthy]

/-- What the members of a place in the code are. -/
theorem get?_code (r : CodePlace) :
    Table.get? (code r).members "filePath" = r.path?.map Json.str ∧
      Table.get? (code r).members "lineNumber" = r.line?.map Json.int ∧
      Table.get? (code r).members "columnNumber" = r.column?.map Json.int ∧
      Table.get? (code r).members "error" = r.error?.map Json.str := by
  simp [members, payload, Table.get?_cons, get?_append, get?_member?, get?_numberMember?]

/-- **Responses are read as they were written.** -/
theorem read_toJson (r : Response) : Response.read r.toJson = .ok (some r.normal) := by
  cases r with
  | styles r => exact read_report r
  | text r =>
    obtain ⟨path, error⟩ := get?_text r
    have selector : readText (text r).members "selector" = r.selector := readText_eq rfl
    refine read_members ?_
    show some (readTextReport (text r).members) = _
    unfold readTextReport
    rw [readString?_eq path, readString?_eq error, readBool_eq (b := r.success) false rfl, selector]
    rfl
  | image r =>
    obtain ⟨address, manual, error⟩ := get?_image r
    have upload : readText (image r).members "uploadId" = r.upload := readText_eq rfl
    refine read_members ?_
    show some (readImage (image r).members) = _
    unfold readImage
    rw [readString?_eq address, readString?_eq error, manual,
      readBool_eq (b := r.success) false rfl, upload]
    rfl
  | progress upload received total =>
    have named : readText (progress upload received total).members "uploadId" = upload :=
      readText_eq rfl
    refine read_members ?_
    show some ((do
      .ok (.progress (readText (progress upload received total).members "uploadId")
        (← readCount ((progress upload received total).members.get "received"))
        (← readCount ((progress upload received total).members.get "total")))) : Read Response) = _
    rw [named, readCount_eq (n := received) rfl, readCount_eq (n := total) rfl]
    rfl
  | refreshed success error? =>
    have error : Table.get? (refreshed success error?).members "error" = error?.map Json.str := by
      simp [members, payload, Table.get?_cons, get?_member?]
    refine read_members ?_
    show some ((do
      .ok (.refreshed (readBool (refreshed success error?).members "success" false)
        (← readString? (refreshed success error?).members "error"))) : Read Response) = _
    rw [readBool_eq (b := success) false rfl, readString?_eq error]
    rfl
  | code r =>
    obtain ⟨path, line, column, error⟩ := get?_code r
    have selector : readText (code r).members "selector" = r.selector := readText_eq rfl
    refine read_members ?_
    show some (readCode (code r).members) = _
    unfold readCode
    rw [readString?_eq path, readInteger?_eq line, readInteger?_eq column, readString?_eq error,
      readBool_eq (b := r.success) false rfl, selector]
    rfl
  | error message context? =>
    have context : Table.get? (error message context?).members "context" = context?.map Json.str := by
      simp [members, payload, Table.get?_cons, get?_member?]
    refine read_members ?_
    have said : readText (error message context?).members "message" = message := readText_eq rfl
    show some ((do
      .ok (.error (if (readText (error message context?).members "message").isEmpty then
          "unknown error" else readText (error message context?).members "message")
        (← readString? (error message context?).members "context"))) : Read Response) = _
    rw [said, readString?_eq context]
    rfl

end Retouch.Response
