import Retouch.Proofs.Wire.Envelope
import Retouch.Proofs.Wire.Outcomes

/-!
# Messages there and back

A message between the host and the frame is read back as it was said, field for field, if the texts that
must not be empty are not (`IsFilled`). Every message that was read is such a message, whoever wrote it.
The catalogue of the other direction, and the reader of another tag, find nothing in the envelope.
-/

namespace Retouch

open Wire

/-! ### Parts of a snapshot -/

/-- A kind is read as it was written. -/
theorem ElementKind.read_label (k : ElementKind) : ElementKind.read (.str k.label) = k := by
  cases k <;> rfl

/-- A rectangle is read as it was written, whatever its numbers. -/
theorem Rect.read_toJson (r : Rect) : Rect.read r.toJson = .ok r := rfl

/-- A map of texts is read as it was written. -/
theorem Wire.readTexts_textsJson (m : Table String String) : readTexts (textsJson m) = m := by
  unfold readTexts textsJson
  show (m.map _).map _ = m
  rw [List.map_map]
  exact List.map_id m

namespace Snapshot

/-- The members of a snapshot. -/
def members (e : Snapshot) : Members := e.toJson.members

theorem toJson_eq (e : Snapshot) : e.toJson = .obj e.members := rfl

/-- What the members of a snapshot are. -/
theorem get?_members (e : Snapshot) :
    Table.get? e.members "selector" = some (.str e.selector) ∧
      Table.get? e.members "tagName" = some (.str e.tagName) ∧
      Table.get? e.members "className" = some (.str e.classes) ∧
      Table.get? e.members "computedStyles" = some (textsJson e.computedStyles) ∧
      Table.get? e.members "inlineStyles" = some (textsJson e.inlineStyles) ∧
      Table.get? e.members "boundingRect" = some e.rect.toJson ∧
      Table.get? e.members "isTextEditable" = some (.bool e.isTextEditable) ∧
      Table.get? e.members "childCount" = some (.int e.childCount) ∧
      Table.get? e.members "elementType" = some (.str e.kind.label) ∧
      Table.get? e.members "textContent" = e.text?.map Json.str ∧
      Table.get? e.members "sourceLocation" = e.position?.map SourcePosition.toJson ∧
      e.members.get "parentSelector" = e.parentSelector := by
  unfold members toJson Json.members Members.get
  cases e.position? <;> cases e.parentSelector <;>
    simp [Table.get?_cons, get?_append, get?_member?]

/-- **A snapshot is read as it was written**, if it has a selector. -/
theorem read_toJson {e : Snapshot} (filled : e.selector ≠ "") : Snapshot.read e.toJson = .ok e := by
  obtain ⟨selector, tagName, classes, computed, inlined, rect, editable, count, kind, text, position,
    parent⟩ := e.get?_members
  have place : SourcePosition.read? (e.members.get "sourceLocation") = .ok e.position? := by
    unfold Members.get
    rw [position]
    cases e.position? with
    | none => rfl
    | some p => exact p.read?_toJson
  have words : textUnlessNull (e.members.get "textContent") = e.text? := by
    unfold Members.get
    rw [text]
    cases e.text? <;> rfl
  rw [toJson_eq, read_obj (Members.get_of_get? selector) filled (Members.get_of_get? tagName), place,
    readText_eq classes, parent, words, Members.get_of_get? computed, Members.get_of_get? inlined,
    Members.get_of_get? rect, Members.get_of_get? count, Members.get_of_get? kind,
    readTexts_textsJson, readTexts_textsJson, ElementKind.read_label, Rect.read_toJson,
    unlessMissing_int rfl]
  unfold readBool
  rw [editable]
  rfl

/-- A snapshot that is read has a selector. -/
theorem selector_ne_of_read {v : Json} {e : Snapshot} (read : Snapshot.read v = .ok e) :
    e.selector ≠ "" := by
  by_cases named : IsNamed v
  · obtain ⟨ms, selector, tagName, rfl, named, filled, tagged⟩ := named
    rw [read_obj named filled tagged] at read
    obtain ⟨rect, -, read⟩ := bind_eq_ok.mp read
    obtain ⟨position?, -, read⟩ := bind_eq_ok.mp read
    obtain ⟨childCount, -, done⟩ := bind_eq_ok.mp read
    cases done
    exact filled
  · obtain ⟨e', refused⟩ := refused_of_not_isNamed named
    rw [refused] at read
    cases read

end Snapshot

/-- A text that was read as one that is not empty is not. -/
theorem Wire.ne_of_readFilled {ms : Members} {key value : String}
    (read : readFilled ms key = .ok value) : value ≠ "" := by
  unfold readFilled at read
  split at read
  · split at read
    · cases read
    · rename_i filled
      cases read
      simpa using filled
  · cases read

/-! ### From the frame to the host -/

namespace FrameMessage

/-- A message whose selector, or whose text of an error, is not empty. -/
def IsFilled : FrameMessage → Prop
  | .ready | .deselected | .hovered none => True
  | .hovered (some e) | .selected e => e.selector ≠ ""
  | .textEdit selector _ _ _ | .textEdited selector _ _ => selector ≠ ""
  | .error message _ => message ≠ ""

/-- A text that may be empty is read as it was said. -/
theorem readPlain_eq {ms : Members} {key : String} (value : String)
    (there : Table.get? ms key = some (.str value)) : readPlain ms key = .ok value := by
  unfold readPlain
  rw [Members.get_of_get? there]

/-- A text that is not empty is read as it was said. -/
theorem readFilled_eq {ms : Members} {key : String} (value : String) (filled : value ≠ "")
    (there : Table.get? ms key = some (.str value)) : readFilled ms key = .ok value :=
  HostMessage.readFilled_eq (by simpa using filled) there

/-- The payload of a message is read as the message. -/
theorem ofPayload?_payload {m : FrameMessage} (filled : m.IsFilled) :
    ofPayload? m.type m.payload = some (.ok m) := by
  unfold type ofPayload?
  cases m with
  | ready => rfl
  | hovered element? =>
    cases element? with
    | none => rfl
    | some e =>
      have there : Table.get? (hovered (some e)).payload "element" = some (.obj e.members) := rfl
      dsimp only
      rw [there]
      dsimp only
      rw [← e.toJson_eq, Snapshot.read_toJson filled]
      rfl
  | selected e =>
    dsimp only
    rw [Members.get_of_get? (v := e.toJson) rfl, Snapshot.read_toJson filled]
    rfl
  | deselected => rfl
  | textEdit selector oldText newText position? =>
    have place : SourcePosition.read? ((textEdit selector oldText newText position?).payload.get
        "sourceLocation") = .ok position? := by
      cases position? with
      | none => rfl
      | some p => exact p.read?_toJson
    dsimp only
    rw [readFilled_eq selector filled rfl, readPlain_eq oldText rfl,
      readPlain_eq newText rfl, place]
    rfl
  | textEdited selector oldText newText =>
    dsimp only
    rw [readFilled_eq selector filled rfl, readPlain_eq oldText rfl,
      readPlain_eq newText rfl]
    rfl
  | error message context? =>
    have said : readFilled (error message context?).payload "message" = .ok message :=
      readFilled_eq message filled rfl
    dsimp only
    rw [said]
    cases context? <;> rfl

/-- **What the frame says is read by the host.** -/
theorem decode_encode {m : FrameMessage} (tag : String) (filled : m.IsFilled) :
    decode tag (m.encode tag) = .ok (some m) := by
  unfold decode encode
  rw [contents?_envelope _ tag _ m.payload_isPlain, ofPayload?_payload filled]

/-- What is read from a payload is filled. -/
theorem isFilled_of_ofPayload? {type : String} {ms : Members} {m : FrameMessage}
    (read : ofPayload? type ms = some (.ok m)) : m.IsFilled := by
  unfold ofPayload? at read
  split at read
  · cases read
    trivial
  · split at read
    · cases read
    · cases read
      trivial
    · obtain ⟨e, element, done⟩ := bind_eq_ok.mp (Option.some.inj read)
      cases done
      exact Snapshot.selector_ne_of_read element
  · obtain ⟨e, element, done⟩ := bind_eq_ok.mp (Option.some.inj read)
    cases done
    exact Snapshot.selector_ne_of_read element
  · cases read
    trivial
  · obtain ⟨selector, named, read⟩ := bind_eq_ok.mp (Option.some.inj read)
    obtain ⟨oldText, -, read⟩ := bind_eq_ok.mp read
    obtain ⟨newText, -, read⟩ := bind_eq_ok.mp read
    obtain ⟨position?, -, done⟩ := bind_eq_ok.mp read
    cases done
    exact ne_of_readFilled named
  · obtain ⟨selector, named, read⟩ := bind_eq_ok.mp (Option.some.inj read)
    obtain ⟨oldText, -, read⟩ := bind_eq_ok.mp read
    obtain ⟨newText, -, done⟩ := bind_eq_ok.mp read
    cases done
    exact ne_of_readFilled named
  · obtain ⟨message, said, done⟩ := bind_eq_ok.mp (Option.some.inj read)
    cases done
    exact ne_of_readFilled said
  · cases read

end FrameMessage

/-! ### From the host to the frame -/

namespace HostMessage

/-- What is read from a payload is filled. -/
theorem isFilled_of_ofPayload? {type : String} {ms : Members} {m : HostMessage}
    (read : ofPayload? type ms = some (.ok m)) : m.IsFilled := by
  unfold ofPayload? at read
  split at read
  · cases read
    trivial
  · cases read
    trivial
  · split at read
    · obtain ⟨selector, named, done⟩ := bind_eq_ok.mp (Option.some.inj read)
      cases done
      simpa [IsFilled] using ne_of_readFilled named
    · cases read
  · split at read
    · cases read
      trivial
    · rename_i s _
      cases read
      by_cases empty : s = ""
      · simp [IsFilled, empty]
      · simp [IsFilled, empty]
    · cases read
  · obtain ⟨selector, named, done⟩ := bind_eq_ok.mp (Option.some.inj read)
    cases done
    simpa [IsFilled] using ne_of_readFilled named
  · obtain ⟨selector, named, read⟩ := bind_eq_ok.mp (Option.some.inj read)
    obtain ⟨text, -, done⟩ := bind_eq_ok.mp read
    cases done
    simpa [IsFilled] using ne_of_readFilled named
  · cases read

end HostMessage

/-! ### Envelopes -/

namespace Wire

variable {α β : Type}

/-- A message in an envelope was read by the catalogue. -/
theorem exists_of_contents? {catalogue : String → Members → Option (Read α)} {tag : String} {v : Json}
    {m : α} (read : contents? catalogue tag v = .ok (some m)) :
    ∃ type ms, catalogue type ms = some (.ok m) := by
  by_cases own : ∃ (ms : Members) (type : String), v = .obj ms ∧
      ms.get "prefix" = .str tag ∧ ms.get "type" = .str type
  · obtain ⟨ms, type, rfl, own, kind⟩ := own
    rw [contents?_obj own kind, inMessage_eq_some] at read
    exact ⟨type, _, read⟩
  · rw [contents?_foreign own] at read
    cases read

/-- The reader of another tag finds nothing in an envelope. -/
theorem contents?_envelope_foreign (catalogue : String → Members → Option (Read α)) {tag tag' : String}
    (other : tag' ≠ tag) (type : String) (payload : Members) :
    contents? catalogue tag' (envelope tag type payload) = .ok none := by
  refine contents?_foreign ?_
  rintro ⟨ms, type', json, own, -⟩
  cases json
  have same : Json.str tag = .str tag' := own
  exact other (Json.str.inj same).symm

/-- A catalogue that does not know the type of an envelope finds nothing in it. -/
theorem contents?_envelope_unknown {catalogue : String → Members → Option (Read α)} {type : String}
    {payload : Members} (plain : IsPlain payload) (unknown : catalogue type payload = none)
    (tag tag' : String) : contents? catalogue tag' (envelope tag type payload) = .ok none := by
  by_cases same : tag' = tag
  · rw [same, contents?_envelope _ tag type plain, unknown]
  · exact contents?_envelope_foreign catalogue same type payload

/-- A message goes there and back: the reader of its tag and direction finds it in its envelope, and
every other reader finds nothing. -/
structure GoesBack (decode : String → Json → Read (Option α)) (other : String → Json → Read (Option β))
    (encode : String → α → Json) (m : α) : Prop where
  /-- It is read as it was said. -/
  back : ∀ tag, decode tag (encode tag m) = .ok (some m)
  /-- The reader of another tag finds nothing. -/
  foreign : ∀ tag tag', tag' ≠ tag → decode tag' (encode tag m) = .ok none
  /-- The reader of the other direction finds nothing. -/
  elsewhere : ∀ tag tag', other tag' (encode tag m) = .ok none

end Wire

/-- A message to the frame that is filled goes there and back. -/
theorem HostMessage.goesBack {m : HostMessage} (filled : m.IsFilled) :
    GoesBack decode FrameMessage.decode encode m where
  back _ := decode_encode _ filled
  foreign _ _ other := contents?_envelope_foreign _ other _ _
  elsewhere := contents?_envelope_unknown m.payload_isPlain (by cases m <;> rfl)

/-- A message to the host that is filled goes there and back. -/
theorem FrameMessage.goesBack {m : FrameMessage} (filled : m.IsFilled) :
    GoesBack decode HostMessage.decode encode m where
  back _ := decode_encode _ filled
  foreign _ _ other := contents?_envelope_foreign _ other _ _
  elsewhere := contents?_envelope_unknown m.payload_isPlain (by cases m <;> rfl)

/-- **Messages go there and back**, in both directions: those whose texts are filled, and all that were
read from anything. -/
theorem Wire.messages_goBack :
    (∀ m : HostMessage, m.IsFilled ∨ (∃ tag v, HostMessage.decode tag v = .ok (some m)) →
      GoesBack HostMessage.decode FrameMessage.decode HostMessage.encode m) ∧
    (∀ m : FrameMessage, m.IsFilled ∨ (∃ tag v, FrameMessage.decode tag v = .ok (some m)) →
      GoesBack FrameMessage.decode HostMessage.decode FrameMessage.encode m) := by
  constructor
  · rintro m (filled | ⟨tag, v, read⟩)
    · exact HostMessage.goesBack filled
    · obtain ⟨type, ms, read⟩ := exists_of_contents? read
      exact HostMessage.goesBack (HostMessage.isFilled_of_ofPayload? read)
  · rintro m (filled | ⟨tag, v, read⟩)
    · exact FrameMessage.goesBack filled
    · obtain ⟨type, ms, read⟩ := exists_of_contents? read
      exact FrameMessage.goesBack (FrameMessage.isFilled_of_ofPayload? read)

/-- A heading with styles and a position. -/
def Snapshot.heading : Snapshot where
  selector := "h1"
  tagName := "h1"
  classes := "title"
  computedStyles := [("color", "red")]
  rect := ⟨0, 8, 320, 40.5⟩
  text? := some ""
  position? := some ⟨"src/App.tsx", 3, some 4⟩
  childCount := 1
  kind := .text

/-- A heading that is selected goes there and back, and so does what is read of an order to clear the
preview of an element without a name. -/
theorem Wire.heading_goesBack :
    GoesBack FrameMessage.decode HostMessage.decode FrameMessage.encode (.selected .heading) ∧
      GoesBack HostMessage.decode FrameMessage.decode HostMessage.encode (.clearPreview none) :=
  ⟨messages_goBack.2 _ (Or.inl (show Snapshot.heading.selector ≠ "" by decide)),
    messages_goBack.1 _ (Or.inr
      ⟨defaultTag, envelope defaultTag "clear_preview" [("selector", .str "")], rfl⟩)⟩

end Retouch
