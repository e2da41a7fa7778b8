import Retouch.Backend.Answer
import Retouch.Proofs.Wire.Message

/-!
# Requests and responses there and back

What the host and the backend say to each other is read back as it was said, field for field, if the texts
that must not be empty are not, and the texts that may be missing are missing or not empty (`IsFilled`).
Every message that was read is such a message, whoever wrote it. So the backend answers just the request
that the host made (`Wire.exchanges_goBack`).
-/

namespace Retouch

open Wire

/-! ### Texts that may be missing -/

/-- A text that is missing or not empty stays as it is. -/
theorem Wire.filled_eq_self {value : Option String} (there : value ≠ some "") : filled value = value := by
  cases value with
  | none => rfl
  | some s =>
    have : s ≠ "" := fun empty => there (congrArg some empty)
    simp [filled, Option.filter, this]

/-- A text that may be missing is read as missing or not empty. -/
theorem Wire.ne_of_readString? {ms : Members} {key : String} {value : Option String}
    (read : readString? ms key = .ok value) : value ≠ some "" := by
  unfold readString? at read
  split at read
  · cases read
    nofun
  · rename_i s there
    cases read
    split
    · nofun
    · rename_i filled
      simpa using filled
  · cases read

/-- A text that must be there is read as one that is not empty. -/
theorem Wire.ne_of_readString {ms : Members} {key value : String}
    (read : readString ms key = .ok value) : value ≠ "" := by
  unfold readString at read
  split at read
  · split at read
    · cases read
    · rename_i filled
      cases read
      simpa using filled
  · cases read

/-- A text that must be there, and is not empty, is read as it was written. -/
theorem Wire.readString_eq {ms : Members} {key value : String} (filled : value ≠ "")
    (there : Table.get? ms key = some (.str value)) : readString ms key = .ok value := by
  unfold readString
  rw [Members.get_of_get? there]
  dsimp only
  rw [if_neg (by simpa using filled)]

/-- What all items are read to is what some items are read to. -/
theorem Wire.mem_of_mapM_read {α : Type} {read : Json → Read α} {items : List Json} {l : List α}
    (done : items.mapM read = .ok l) : ∀ a ∈ l, ∃ v, read v = .ok a := by
  induction items generalizing l with
  | nil =>
    cases done
    nofun
  | cons v items ih =>
    rw [List.mapM_cons] at done
    obtain ⟨a, first, done⟩ := bind_eq_ok.mp done
    obtain ⟨l', rest, done⟩ := bind_eq_ok.mp done
    cases done
    intro a' ha'
    obtain rfl | later := List.mem_cons.mp ha'
    · exact ⟨v, first⟩
    · exact ih rest a' later

/-- A change that was read is one of a property. -/
theorem StyleChange.property_ne_of_read {v : Json} {c : StyleChange} (read : StyleChange.read v = .ok c) :
    c.property ≠ "" := by
  unfold StyleChange.read at read
  split at read
  · split at read
    · split at read
      · cases read
      · rename_i filled
        split at read
        · cases read
        · cases read
          simpa using filled
    · cases read
  · cases read

/-! ### Requests -/

namespace Request

/-- A request whose texts are filled: those that must be there are not empty, and neither are those
that may be missing. -/
def IsFilled : Request → Prop
  | .styles r => r.selector ≠ "" ∧ (∀ c ∈ r.changes, c.property ≠ "") ∧
      r.path? ≠ some "" ∧ r.text? ≠ some "" ∧ r.classes? ≠ some "" ∧ r.entryId? ≠ some ""
  | .text r => r.selector ≠ "" ∧ r.oldText ≠ "" ∧ r.path? ≠ some "" ∧ r.classes? ≠ some ""
  | .image r => r.upload ≠ "" ∧ r.fileName ≠ "" ∧ r.mimeType ≠ ""
  | .refresh => True
  | .code r => r.selector ≠ "" ∧ r.path? ≠ some "" ∧ r.text? ≠ some "" ∧ r.classes? ≠ some ""

/-- A request is read by the reader of its type. -/
theorem read_members {r r' : Request} (read : ofMembers? r.type r.members = some (.ok r')) :
    Request.read r.toJson = .ok (some r') := by
  unfold Request.read
  rw [toJson_eq, typed?_obj r.get_type, read]
  rfl

/-- The position in a request is read as it was written. -/
theorem read?_position (r : Request) :
    SourcePosition.read? (r.members.get "sourceLocation") = .ok r.position? := by
  unfold Members.get
  rw [r.get?_sourceLocation]
  cases r.position? with
  | none => rfl
  | some p => exact p.read?_toJson

/-- What the members of a request for a text are. -/
theorem get?_text (r : TextUpdate) :
    Table.get? (text r).members "selector" = some (.str r.selector) ∧
      Table.get? (text r).members "oldText" = some (.str r.oldText) ∧
      Table.get? (text r).members "newText" = some (.str r.newText) ∧
      Table.get? (text r).members "skipDeploy" = some (.bool r.skipsDeploy) ∧
      Table.get? (text r).members "filePath" = r.path?.map Json.str ∧
      Table.get? (text r).members "className" = r.classes?.map Json.str := by
  simp [members, payload, Table.get?_cons, get?_append, get?_member?, get?_positionMember?]

/-- What the members of a question for a place are. -/
theorem get?_code (r : CodeQuery) :
    Table.get? (code r).members "selector" = some (.str r.selector) ∧
      Table.get? (code r).members "filePath" = r.path?.map Json.str ∧
      Table.get? (code r).members "textContent" = r.text?.map Json.str ∧
      Table.get? (code r).members "className" = r.classes?.map Json.str := by
  simp [members, payload, Table.get?_cons, get?_append, get?_member?, get?_positionMember?]

/-- A request for a text is read as it was written, if its texts are filled. -/
theorem read_text {r : TextUpdate} (isFilled : (text r).IsFilled) :
    readTextUpdate (text r).members = .ok (text r) := by
  obtain ⟨selector, oldText, path, classes⟩ := isFilled
  obtain ⟨sel, old, new, skips, file, list⟩ := get?_text r
  have any : readAnyString (text r).members "newText" = .ok r.newText := by
    unfold readAnyString
    rw [Members.get_of_get? new]
  have deploy : readBool (text r).members "skipDeploy" true = r.skipsDeploy := by
    unfold readBool
    rw [skips]
    rfl
  unfold readTextUpdate
  rw [readString_eq selector sel, readString_eq oldText old, any, readString?_eq file,
    readString?_eq list, read?_position, deploy, filled_eq_self path, filled_eq_self classes]
  rfl

/-- A piece of a file is read as it was written, if its texts are filled. -/
theorem read_image {r : ImageChunk} (isFilled : (image r).IsFilled) :
    readImage (image r).members = .ok (image r) := by
  obtain ⟨upload, fileName, mimeType⟩ := isFilled
  have size : unlessMissing readCounter ((image r).members.get "fileSize") = .ok r.size :=
    unlessMissing_int rfl
  have uploaded : Table.get? (image r).members "uploadId" = some (.str r.upload) := rfl
  have named : Table.get? (image r).members "fileName" = some (.str r.fileName) := rfl
  have typed : Table.get? (image r).members "mimeType" = some (.str r.mimeType) := rfl
  rw [readImage_eq, size, readString_eq upload uploaded, readString_eq fileName named,
    readString_eq mimeType typed]
  rfl

/-- A question for a place is read as it was written, if its texts are filled. -/
theorem read_code {r : CodeQuery} (isFilled : (code r).IsFilled) :
    readCode (code r).members = .ok (code r) := by
  obtain ⟨selector, path, text, classes⟩ := isFilled
  obtain ⟨sel, file, words, list⟩ := get?_code r
  unfold readCode
  rw [readString_eq selector sel, readString?_eq file, readString?_eq words, readString?_eq list,
    read?_position, filled_eq_self path, filled_eq_self text, filled_eq_self classes]
  rfl

/-- **A request is read as it was written**, if its texts are filled. -/
theorem read_toJson {r : Request} (isFilled : r.IsFilled) : Request.read r.toJson = .ok (some r) := by
  cases r with
  | styles r =>
    obtain ⟨selector, properties, path, text, classes, entry⟩ := isFilled
    have normal : r.normal = r := by
      unfold StyleUpdate.normal
      rw [filled_eq_self path, filled_eq_self text, filled_eq_self classes, filled_eq_self entry]
    rw [read_styles (by simpa using selector) fun c hc => by simpa using properties c hc, normal]
  | text r => exact read_members (congrArg some (read_text isFilled))
  | image r => exact read_members (congrArg some (read_image isFilled))
  | refresh => rfl
  | code r => exact read_members (congrArg some (read_code isFilled))

section Read

variable {ms : Members} {r : Request}

theorem isFilled_of_readStyles (read : readStyles ms = .ok r) : r.IsFilled := by
  unfold readStyles at read
  split at read
  case h_2 =>
    obtain ⟨_, ⟨⟩, -⟩ := bind_eq_ok.mp read
  obtain ⟨items, -, read⟩ := bind_eq_ok.mp read
  obtain ⟨direction?, -, read⟩ := bind_eq_ok.mp read
  obtain ⟨selector, named, read⟩ := bind_eq_ok.mp read
  obtain ⟨changes, each, read⟩ := bind_eq_ok.mp read
  obtain ⟨path?, path, read⟩ := bind_eq_ok.mp read
  obtain ⟨text?, text, read⟩ := bind_eq_ok.mp read
  obtain ⟨classes?, classes, read⟩ := bind_eq_ok.mp read
  obtain ⟨position?, -, read⟩ := bind_eq_ok.mp read
  obtain ⟨entryId?, entry, done⟩ := bind_eq_ok.mp read
  cases done
  refine ⟨ne_of_readString named, fun c hc => ?_, ne_of_readString? path, ne_of_readString? text,
    ne_of_readString? classes, ne_of_readString? entry⟩
  obtain ⟨v, change⟩ := mem_of_mapM_read each c hc
  exact StyleChange.property_ne_of_read change

theorem isFilled_of_readTextUpdate (read : readTextUpdate ms = .ok r) : r.IsFilled := by
  unfold readTextUpdate at read
  obtain ⟨selector, named, read⟩ := bind_eq_ok.mp read
  obtain ⟨oldText, old, read⟩ := bind_eq_ok.mp read
  obtain ⟨newText, -, read⟩ := bind_eq_ok.mp read
  obtain ⟨path?, path, read⟩ := bind_eq_ok.mp read
  obtain ⟨classes?, classes, read⟩ := bind_eq_ok.mp read
  obtain ⟨position?, -, done⟩ := bind_eq_ok.mp read
  cases done
  exact ⟨ne_of_readString named, ne_of_readString old, ne_of_readString? path,
    ne_of_readString? classes⟩

theorem isFilled_of_readImage (read : readImage ms = .ok r) : r.IsFilled := by
  rw [readImage_eq] at read
  obtain ⟨index, -, read⟩ := bind_eq_ok.mp read
  obtain ⟨total, -, read⟩ := bind_eq_ok.mp read
  obtain ⟨size, -, read⟩ := bind_eq_ok.mp read
  obtain ⟨context, -, read⟩ := bind_eq_ok.mp read
  obtain ⟨upload, named, read⟩ := bind_eq_ok.mp read
  obtain ⟨chunk, -, read⟩ := bind_eq_ok.mp read
  obtain ⟨fileName, file, read⟩ := bind_eq_ok.mp read
  obtain ⟨mimeType, type, done⟩ := bind_eq_ok.mp read
  cases done
  exact ⟨ne_of_readString named, ne_of_readString file, ne_of_readString type⟩

theorem isFilled_of_readCode (read : readCode ms = .ok r) : r.IsFilled := by
  unfold readCode at read
  obtain ⟨selector, named, read⟩ := bind_eq_ok.mp read
  obtain ⟨path?, path, read⟩ := bind_eq_ok.mp read
  obtain ⟨text?, text, read⟩ := bind_eq_ok.mp read
  obtain ⟨classes?, classes, read⟩ := bind_eq_ok.mp read
  obtain ⟨position?, -, done⟩ := bind_eq_ok.mp read
  cases done
  exact ⟨ne_of_readString named, ne_of_readString? path, ne_of_readString? text,
    ne_of_readString? classes⟩

/-- What is read of members is filled. -/
theorem isFilled_of_ofMembers? {type : String} (read : ofMembers? type ms = some (.ok r)) :
    r.IsFilled := by
  unfold ofMembers? at read
  split at read
  · exact isFilled_of_readStyles (Option.some.inj read)
  · exact isFilled_of_readTextUpdate (Option.some.inj read)
  · exact isFilled_of_readImage (Option.some.inj read)
  · cases read
    trivial
  · exact isFilled_of_readCode (Option.some.inj read)
  · cases read

end Read

end Request

/-! ### Responses -/

namespace Response

/-- A response whose texts are filled: those that may be missing are not empty, and neither is the text
of an error. -/
def IsFilled : Response → Prop
  | .styles r => r.path? ≠ some "" ∧ r.error? ≠ some "" ∧ r.entryId? ≠ some ""
  | .text r => r.path? ≠ some "" ∧ r.error? ≠ some ""
  | .image r => r.address? ≠ some "" ∧ r.error? ≠ some ""
  | .progress _ _ _ => True
  | .refreshed _ error? => error? ≠ some ""
  | .code r => r.path? ≠ some "" ∧ r.error? ≠ some ""
  | .error message context? => message ≠ "" ∧ context? ≠ some ""

/-- A response whose texts are filled has no empty texts to leave out. -/
theorem normal_eq_self {r : Response} (isFilled : r.IsFilled) : r.normal = r := by
  unfold normal
  cases r with
  | styles r =>
    obtain ⟨path, error, entry⟩ := isFilled
    unfold StyleReport.normal
    dsimp only
    rw [filled_eq_self path, filled_eq_self error, filled_eq_self entry]
  | text r | image r | code r =>
    obtain ⟨path, error⟩ := isFilled
    dsimp only
    rw [filled_eq_self path, filled_eq_self error]
  | progress upload received total => rfl
  | refreshed success error? =>
    dsimp only
    rw [filled_eq_self isFilled]
  | error message context? =>
    obtain ⟨said, context⟩ := isFilled
    dsimp only
    rw [filled_eq_self context, if_neg (by simpa using said)]

section Read

variable {ms : Members} {r : Response}

theorem isFilled_of_readStyles (read : readStyles ms = .ok r) : r.IsFilled := by
  unfold readStyles at read
  obtain ⟨items, -, read⟩ := bind_eq_ok.mp read
  obtain ⟨failed, -, read⟩ := bind_eq_ok.mp read
  obtain ⟨path?, path, read⟩ := bind_eq_ok.mp read
  obtain ⟨error?, error, read⟩ := bind_eq_ok.mp read
  obtain ⟨applied, -, read⟩ := bind_eq_ok.mp read
  obtain ⟨attempted, -, read⟩ := bind_eq_ok.mp read
  obtain ⟨entryId?, entry, done⟩ := bind_eq_ok.mp read
  cases done
  exact ⟨ne_of_readString? path, ne_of_readString? error, ne_of_readString? entry⟩

theorem isFilled_of_readTextReport (read : readTextReport ms = .ok r) : r.IsFilled := by
  unfold readTextReport at read
  obtain ⟨path?, path, read⟩ := bind_eq_ok.mp read
  obtain ⟨error?, error, done⟩ := bind_eq_ok.mp read
  cases done
  exact ⟨ne_of_readString? path, ne_of_readString? error⟩

theorem isFilled_of_readImage (read : readImage ms = .ok r) : r.IsFilled := by
  unfold readImage at read
  obtain ⟨address?, address, read⟩ := bind_eq_ok.mp read
  obtain ⟨error?, error, done⟩ := bind_eq_ok.mp read
  cases done
  exact ⟨ne_of_readString? address, ne_of_readString? error⟩

theorem isFilled_of_readCode (read : readCode ms = .ok r) : r.IsFilled := by
  unfold readCode at read
  obtain ⟨path?, path, read⟩ := bind_eq_ok.mp read
  obtain ⟨line?, -, read⟩ := bind_eq_ok.mp read
  obtain ⟨column?, -, read⟩ := bind_eq_ok.mp read
  obtain ⟨error?, error, done⟩ := bind_eq_ok.mp read
  cases done
  exact ⟨ne_of_readString? path, ne_of_readString? error⟩

/-- What is read of members is filled. -/
theorem isFilled_of_ofMembers? {type : String} (read : ofMembers? type ms = some (.ok r)) :
    r.IsFilled := by
  unfold ofMembers? at read
  split at read
  · exact isFilled_of_readStyles (Option.some.inj read)
  · exact isFilled_of_readTextReport (Option.some.inj read)
  · exact isFilled_of_readImage (Option.some.inj read)
  · obtain ⟨received, -, read⟩ := bind_eq_ok.mp (Option.some.inj read)
    obtain ⟨total, -, done⟩ := bind_eq_ok.mp read
    cases done
    trivial
  · obtain ⟨error?, error, done⟩ := bind_eq_ok.mp (Option.some.inj read)
    cases done
    exact ne_of_readString? error
  · exact isFilled_of_readCode (Option.some.inj read)
  · obtain ⟨context?, context, done⟩ := bind_eq_ok.mp (Option.some.inj read)
    cases done
    refine ⟨?_, ne_of_readString? context⟩
    split
    · decide
    · rename_i said
      simpa using said
  · cases read

end Read

end Response

/-! ### Both -/

namespace Wire

variable {α : Type}

/-- A message in an object was read by the catalogue. -/
theorem exists_of_typed? {catalogue : String → Members → Option (Read α)} {v : Json} {m : α}
    (read : typed? catalogue v = .ok (some m)) : ∃ type ms, catalogue type ms = some (.ok m) := by
  unfold typed? at read
  split at read
  · rename_i ms
    split at read
    · rename_i type kind
      split at read
      · cases read
      · rename_i message there
        cases read
        exact ⟨type, ms, there⟩
      · cases read
    · cases read
  · cases read

/-- **Requests and responses go there and back**: those whose texts are filled, and all that were read
from anything; and the backend answers to a request that it is sent just that request. -/
theorem exchanges_goBack :
    (∀ r : Request, r.IsFilled ∨ (∃ v, Request.read v = .ok (some r)) →
      Request.read r.toJson = .ok (some r) ∧
        ∀ (σ : Type) [Storage σ] (b : Backend σ),
          b.handle r.toJson = ((b.answer r).1, (b.answer r).2.map ([·]))) ∧
    (∀ r : Response, r.IsFilled ∨ (∃ v, Response.read v = .ok (some r)) →
      Response.read r.toJson = .ok (some r)) := by
  constructor
  · intro r said
    have isFilled : r.IsFilled := by
      obtain isFilled | ⟨v, read⟩ := said
      · exact isFilled
      · obtain ⟨type, ms, read⟩ := exists_of_typed? read
        exact Request.isFilled_of_ofMembers? read
    have read := Request.read_toJson isFilled
    refine ⟨read, fun σ _ b => ?_⟩
    unfold Backend.handle
    rw [read]
  · intro r said
    have isFilled : r.IsFilled := by
      obtain isFilled | ⟨v, read⟩ := said
      · exact isFilled
      · obtain ⟨type, ms, read⟩ := exists_of_typed? read
        exact Response.isFilled_of_ofMembers? read
    rw [Response.read_toJson, Response.normal_eq_self isFilled]

/-- Two changes of a button, one of them back. -/
def buttonChanges : StyleUpdate where
  selector := "#save"
  changes := [⟨"color", "", "red", false⟩, ⟨"fontSize", "20px", "", true⟩]
  classes? := some "px-4"
  position? := some ⟨"src/App.tsx", 3, some 4⟩
  skipsDeploy := false
  entryId? := some "e1"
  direction? := some .redo

/-- Changes of a button go there and back, and so does what is read of a report with empty texts. -/
theorem button_goesBack :
    (Request.read (Request.styles buttonChanges).toJson = .ok (some (.styles buttonChanges)) ∧
        ∀ (σ : Type) [Storage σ] (b : Backend σ),
          b.handle (Request.styles buttonChanges).toJson =
            ((b.answer (.styles buttonChanges)).1, (b.answer (.styles buttonChanges)).2.map ([·]))) ∧
      Response.read (Response.text ⟨true, "p", none, none⟩).toJson =
        .ok (some (.text ⟨true, "p", none, none⟩)) :=
  ⟨exchanges_goBack.1 _ (Or.inl (by
      show _ ∧ _
      decide)),
    exchanges_goBack.2 _ (Or.inr ⟨.obj [("type", .str "text_updated"), ("success", .int 1),
      ("selector", .str "p"), ("filePath", .str "")], rfl⟩)⟩

end Wire

end Retouch
