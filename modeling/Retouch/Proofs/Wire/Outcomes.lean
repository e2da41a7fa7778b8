import Retouch.Proofs.Wire.Range
import Retouch.Wire.Response

/-!
# What reading a message comes to

Whoever reads a message is prepared for three outcomes: the message, nothing, or an error of the
protocol. A number beyond its range is a fourth one. Messages to the frame carry no numbers and always
end as they are to; in the other catalogues (`Wire.reading_ends`) a message does exactly if no number is
reached that is beyond its range. A number is reached if everything that is read before it is as it
should be, so each condition asks for the same message to be read with the numbers left out.
-/

namespace Retouch

open Wire

variable {α : Type}

namespace Wire

/-- The outcomes that reading a message is to have: a message, nothing, or an error of the protocol. -/
inductive Ends : Read (Option α) → Prop
  | message (m : α) : Ends (.ok (some m))
  | nothing : Ends (.ok none)
  | refused (e : ProtocolError) : Ends (.error (.protocol e))

/-- What the message of a type comes to, by what its catalogue makes of it. -/
def inMessage (type : String) : Option (Read α) → Read (Option α)
  | none => .ok none
  | some (.ok message) => .ok (some message)
  | some (.error f) => .error (f.within type)

/-- **A message of a known type ends as it is to** exactly if no number in it is out of range: every
other fault is made an error of the protocol. -/
theorem ends_inMessage {type : String} {r? : Option (Read α)} :
    Ends (inMessage type r?) ↔ ∀ r ∈ r?, ¬ OutOfRange r := by
  cases r? with
  | none => exact ⟨fun _ => nofun, fun _ => .nothing⟩
  | some r =>
    simp only [Option.mem_some, forall_eq']
    cases r with
    | ok m => exact ⟨fun _ => not_outOfRange_ok m, fun _ => .message m⟩
    | error f =>
      cases f with
      | protocol e => exact ⟨fun _ => not_outOfRange_refuse e, fun _ => .refused e⟩
      | number f =>
        by_cases range : f.isRange = true
        · simp only [inMessage, ReadFault.within, range, if_true]
          exact ⟨nofun, fun within => absurd ⟨f, rfl, range⟩ within⟩
        · simp only [inMessage, ReadFault.within, range]
          refine ⟨?_, fun _ => .refused _⟩
          rintro - ⟨_, ⟨⟩, beyond⟩
          exact range beyond
      | notIterable kind => exact ⟨fun _ => nofun, fun _ => .refused _⟩

theorem inMessage_eq_some {type : String} {r? : Option (Read α)} {m : α} :
    inMessage type r? = .ok (some m) ↔ r? = some (.ok m) := by
  unfold inMessage
  split <;> simp

/-- A message of a known type is not passed over. -/
theorem inMessage_some_ne_none {type : String} (r : Read α) : inMessage type (some r) ≠ .ok none := by
  cases r <;> exact nofun

section Catalogue

variable {catalogue : String → Members → Option (Read α)} {tag type : String} {ms : Members} {v : Json}

/-- An envelope with the tag and a type is opened by the catalogue. -/
theorem contents?_obj (own : ms.get "prefix" = .str tag) (kind : ms.get "type" = .str type) :
    contents? catalogue tag (.obj ms) =
      inMessage type (catalogue type (ms.without ["prefix", "type"])) := by
  have payload : (ms.filter fun m => m.1 != "prefix" && m.1 != "type") =
      ms.without ["prefix", "type"] := by
    unfold Members.without
    congr 1
    funext m
    cases here : m.1 == "prefix" <;> cases there : m.1 == "type" <;> simp_all
  unfold contents?
  simp only [own, kind, bne_self_eq_false, payload]
  unfold inMessage
  rfl

/-- What is no envelope with the tag and a type holds nothing. -/
theorem contents?_foreign (foreign : ¬ ∃ (ms : Members) (type : String), v = .obj ms ∧
    ms.get "prefix" = .str tag ∧ ms.get "type" = .str type) :
    contents? catalogue tag v = .ok none := by
  unfold contents?
  split
  · rename_i ms
    split
    · rename_i tag' type own kind
      split
      · rfl
      · rename_i same
        obtain rfl : tag' = tag := by simpa using same
        exact absurd ⟨ms, type, rfl, own, kind⟩ foreign
    · rfl
  · rfl

/-- An object with a type is read by the catalogue. -/
theorem typed?_obj (kind : ms.get "type" = .str type) :
    typed? catalogue (.obj ms) = inMessage type (catalogue type ms) := by
  unfold typed?
  simp only [kind]
  rfl

/-- **An object with a type ends as it is to** exactly if no number in it is out of range. -/
theorem ends_typed?_obj (kind : ms.get "type" = .str type) :
    Ends (typed? catalogue (.obj ms)) ↔ ∀ r ∈ catalogue type ms, ¬ OutOfRange r := by
  rw [typed?_obj kind, ends_inMessage]

theorem exists_typed?_obj (kind : ms.get "type" = .str type) :
    (∃ m, typed? catalogue (.obj ms) = .ok (some m)) ↔ ∃ m, catalogue type ms = some (.ok m) := by
  simp only [typed?_obj kind, inMessage_eq_some]

/-- What is no object with a type is no message. -/
theorem ends_typed?_of_untyped (untyped : ¬ ∃ (ms : Members) (type : String), v = .obj ms ∧
    ms.get "type" = .str type) : Ends (typed? catalogue v) := by
  unfold typed?
  split
  · rename_i ms
    split
    · rename_i type kind
      exact absurd ⟨ms, type, rfl, kind⟩ untyped
    · exact .nothing
  · exact .refused _

end Catalogue

end Wire

/-! ### From the host to the frame -/

namespace FrameMessage

/-- An envelope to the host in which a number is out of range, and everything before it is as it
should be. -/
def Overflows (tag : String) : Json → Prop
  | .obj ms => Members.get ms "prefix" = .str tag ∧
    ((Members.get ms "type" = .str "element_hovered" ∨
          Members.get ms "type" = .str "element_selected") ∧
        Snapshot.IsBeyond (Members.get ms "element") ∨
      Members.get ms "type" = .str "text_edit" ∧
        (∃ m, decode tag (.obj (Members.without ms ["sourceLocation"])) = .ok (some m)) ∧
        SourcePosition.IsBeyond (Members.get ms "sourceLocation"))
  | _ => False

end FrameMessage

/-! ### From the host to the backend -/

theorem StyleChange.not_outOfRange_read (v : Json) : ¬ OutOfRange (StyleChange.read v) := by
  unfold StyleChange.read
  split
  · split
    · split
      · simp
      · split <;> simp
    · simp
  · simp

theorem Direction.not_outOfRange_read? (ms : Members) : ¬ OutOfRange (Direction.read? ms) := by
  unfold Direction.read?
  simp only [outOfRange_bind, not_outOfRange_readString?, false_or]
  rintro ⟨s?, -, beyond⟩
  split at beyond
  · simp at beyond
  · split at beyond <;> simp at beyond

theorem Direction.read?_without {ms : Members} {keys : List String}
    (kept : keys.contains "direction" = false) :
    Direction.read? (ms.without keys) = Direction.read? ms := by
  simp only [Direction.read?, readString?_without kept]

namespace Request

@[simp] theorem outOfRange_readCounter (v : Json) : OutOfRange (readCounter v) ↔ v.IsInfinite :=
  outOfRange_readWhole .badCounters v

@[simp] theorem isRead_readCounter (v : Json) : IsRead (readCounter v) ↔ v.IsWhole :=
  isRead_readWhole .badCounters v

/-- A request for style changes comes upon a number beyond its range exactly if it is read without its
position, and the position is beyond the range. What is read after the position does not matter. -/
theorem outOfRange_readStyles (ms : Members) : OutOfRange (readStyles ms) ↔
    IsRead (readStyles (ms.without ["sourceLocation", "entryId"])) ∧
      SourcePosition.IsBeyond (ms.get "sourceLocation") := by
  have kept : (ms.without ["sourceLocation", "entryId"]).get "changes" = ms.get "changes" := by simp
  have changes := not_outOfRange_mapM StyleChange.not_outOfRange_read
  unfold readStyles
  rw [kept]
  cases ms.get "changes" with
  | arr items =>
    simp [Direction.not_outOfRange_read?, Direction.read?_without, changes,
      SourcePosition.outOfRange_read?, readString?_leftOut, and_assoc]
  | _ => simp

theorem outOfRange_readTextUpdate (ms : Members) : OutOfRange (readTextUpdate ms) ↔
    IsRead (readTextUpdate (ms.without ["sourceLocation", "entryId"])) ∧
      SourcePosition.IsBeyond (ms.get "sourceLocation") := by
  unfold readTextUpdate
  simp [SourcePosition.outOfRange_read?, and_assoc]

theorem outOfRange_readCode (ms : Members) : OutOfRange (readCode ms) ↔
    IsRead (readCode (ms.without ["sourceLocation", "entryId"])) ∧
      SourcePosition.IsBeyond (ms.get "sourceLocation") := by
  unfold readCode
  simp [SourcePosition.outOfRange_read?, and_assoc]

/-- The first counter of an upload that is no whole number is infinite. -/
def CountsBeyond (ms : Members) : Prop :=
  (ms.get "chunkIndex").IsInfinite ∨ (ms.get "chunkIndex").IsWhole ∧
    ((ms.get "totalChunks").IsInfinite ∨ (ms.get "totalChunks").IsWhole ∧
      (ms.get "fileSize").IsInfinite)

/-- What is known about the element of an image; nothing, zero and empty values are an empty object. -/
def readContext (v : Json) : Read Members :=
  match v with
  | .obj members => .ok members
  | v => if v.truthy then refuse (.notAnObject "elementContext") else .ok []

/-- A piece of an image is read part by part. -/
theorem readImage_eq (ms : Members) : readImage ms = (do
    let index ← readCounter (ms.get "chunkIndex")
    let total ← readCounter (ms.get "totalChunks")
    let size ← unlessMissing readCounter (ms.get "fileSize")
    let context ← readContext (ms.get "elementContext")
    let upload ← readString ms "uploadId"
    let chunk ← readAnyString ms "chunk"
    let fileName ← readString ms "fileName"
    let mimeType ← readString ms "mimeType"
    .ok (.image {
      upload, chunk, index, total, fileName, mimeType, size
      isBackground := readBool ms "isBackground" false, context })) := by
  unfold readImage
  refine bind_congr fun index => bind_congr fun total => ?_
  unfold unlessMissing readContext
  dsimp only
  split
  all_goals
    refine bind_congr fun size => ?_
    cases ms.get "elementContext" with
    | obj members => rfl
    | _ => dsimp only; split <;> rfl

@[simp] theorem not_outOfRange_readContext (v : Json) : ¬ OutOfRange (readContext v) := by
  unfold readContext
  split
  · simp
  · split <;> simp

theorem outOfRange_readImage (ms : Members) : OutOfRange (readImage ms) ↔ CountsBeyond ms := by
  rw [readImage_eq]
  simp [outOfRange_unlessMissing (outOfRange_readCounter _), CountsBeyond]

/-- A request in which a number is out of range, and everything before it is as it should be. -/
def Overflows : Json → Prop
  | .obj ms =>
    (Members.get ms "type" = .str "style_update" ∨ Members.get ms "type" = .str "text_update" ∨
          Members.get ms "type" = .str "go_to_code") ∧
        (∃ r, read (.obj (Members.without ms ["sourceLocation", "entryId"])) = .ok (some r)) ∧
        SourcePosition.IsBeyond (Members.get ms "sourceLocation") ∨
      Members.get ms "type" = .str "image_upload" ∧ CountsBeyond ms
  | _ => False

/-- A request ends as it is to exactly if it does not overflow. -/
theorem ends_read_iff (v : Json) : Ends (read v) ↔ ¬ Overflows v := by
  by_cases typed : ∃ (ms : Members) (type : String), v = .obj ms ∧ ms.get "type" = .str type
  · obtain ⟨ms, type, rfl, kind⟩ := typed
    have whole : Ends (read (.obj ms)) ↔ ∀ r ∈ ofMembers? type ms, ¬ OutOfRange r :=
      ends_typed?_obj kind
    have rest : (∃ r, read (.obj (ms.without ["sourceLocation", "entryId"])) = .ok (some r)) ↔
        ∃ r, ofMembers? type (ms.without ["sourceLocation", "entryId"]) = some (.ok r) :=
      exists_typed?_obj (by simp [kind])
    unfold Overflows
    dsimp only
    rw [whole, rest]
    unfold ofMembers?
    split
    · simp [kind, outOfRange_readStyles]
    · simp [kind, outOfRange_readTextUpdate]
    · simp [kind, outOfRange_readImage]
    · simp [kind]
    · simp [kind, outOfRange_readCode]
    · simp_all
  · refine iff_of_true (ends_typed?_of_untyped typed) ?_
    cases v with
    | obj ms => rintro (⟨kind | kind | kind, -⟩ | ⟨kind, -⟩) <;> exact typed ⟨ms, _, rfl, kind⟩
    | _ => exact nofun

end Request

/-! ### From the backend to the host -/

namespace Response

theorem not_outOfRange_readFailed (v : Json) : ¬ OutOfRange (readFailed v) := by
  unfold readFailed
  split <;> simp

@[simp] theorem not_outOfRange_readStrings (v : Json) : ¬ OutOfRange (readStrings v) := by
  unfold readStrings
  simp

theorem not_outOfRange_readStyles (ms : Members) : ¬ OutOfRange (readStyles ms) := by
  have failed := not_outOfRange_mapM not_outOfRange_readFailed
  unfold readStyles
  simp [failed]

theorem outOfRange_readCount (v : Json) : OutOfRange (readCount v) ↔ v.IsInfinite :=
  outOfRange_unlessMissing (outOfRange_readInteger v)

theorem isRead_readCount (v : Json) : IsRead (readCount v) ↔ v.IsCount :=
  isRead_unlessMissing (isRead_readInteger v)

theorem outOfRange_readInteger? (v : Json) : OutOfRange (readInteger? v) ↔ v.IsInfinite :=
  outOfRange_unlessNull (outOfRange_readInteger v)

theorem isRead_readInteger? (v : Json) : IsRead (readInteger? v) ↔ v = .null ∨ v.IsWhole :=
  isRead_unlessNull (isRead_readInteger v)

/-- The first counter of a progress that is no whole number is infinite. -/
def CountsBeyond (ms : Members) : Prop :=
  (ms.get "received").IsInfinite ∨ (ms.get "received").IsCount ∧ (ms.get "total").IsInfinite

/-- The line, or else the column, of a place in the code is infinite. -/
def PlaceBeyond (ms : Members) : Prop :=
  (ms.get "lineNumber").IsInfinite ∨
    (ms.get "lineNumber" = .null ∨ (ms.get "lineNumber").IsWhole) ∧
      (ms.get "columnNumber").IsInfinite

theorem outOfRange_readCode (ms : Members) : OutOfRange (readCode ms) ↔
    IsRead (readCode (ms.without ["lineNumber", "columnNumber", "error"])) ∧ PlaceBeyond ms := by
  unfold readCode
  simp [outOfRange_readInteger?, isRead_readInteger?, PlaceBeyond, readString?_leftOut]

/-- A response in which a number is out of range, and everything before it is as it should be. -/
def Overflows : Json → Prop
  | .obj ms =>
    Members.get ms "type" = .str "upload_progress" ∧ CountsBeyond ms ∨
      Members.get ms "type" = .str "code_location" ∧
        (∃ r, read (.obj (Members.without ms ["lineNumber", "columnNumber", "error"])) = .ok (some r)) ∧
        PlaceBeyond ms
  | _ => False

/-- A response ends as it is to exactly if it does not overflow. -/
theorem ends_read_iff (v : Json) : Ends (read v) ↔ ¬ Overflows v := by
  by_cases typed : ∃ (ms : Members) (type : String), v = .obj ms ∧ ms.get "type" = .str type
  · obtain ⟨ms, type, rfl, kind⟩ := typed
    have whole : Ends (read (.obj ms)) ↔ ∀ r ∈ ofMembers? type ms, ¬ OutOfRange r :=
      ends_typed?_obj kind
    have rest : (∃ r, read (.obj (ms.without ["lineNumber", "columnNumber", "error"])) = .ok (some r)) ↔
        ∃ r, ofMembers? type (ms.without ["lineNumber", "columnNumber", "error"]) = some (.ok r) :=
      exists_typed?_obj (by simp [kind])
    unfold Overflows
    dsimp only
    rw [whole, rest]
    unfold ofMembers?
    split
    · simp [kind, not_outOfRange_readStyles]
    · simp [kind, readTextReport]
    · simp [kind, readImage]
    · simp [kind, outOfRange_readCount, isRead_readCount, CountsBeyond]
    · simp [kind]
    · simp [kind, outOfRange_readCode]
    · simp [kind]
    · simp_all
  · refine iff_of_true (ends_typed?_of_untyped typed) ?_
    cases v with
    | obj ms => rintro (⟨kind, -⟩ | ⟨kind, -⟩) <;> exact typed ⟨ms, _, rfl, kind⟩
    | _ => exact nofun

end Response

/-! ### All catalogues -/

end Retouch
