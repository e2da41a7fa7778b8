import Retouch.Proofs.Wire.Styles
import Retouch.Wire.FrameMessage

/-!
# Messages in envelopes

What the host says to the frame is read as it was said, if the selectors in it are not empty
(`HostMessage.decode_encode`). Of what the frame says to the host, the type is read as it was said, and
the selector of an element that was selected (`FrameMessage.type_decode`,
`FrameMessage.selector_decode`).
-/

namespace Retouch

open Wire

/-- A payload that does not meddle with the envelope. -/
def Wire.IsPlain (payload : Members) : Prop := ∀ m ∈ payload, (m.1 != "prefix" && m.1 != "type") = true

/-- An envelope is opened by the catalogue, with the payload that was put in. -/
theorem Wire.contents?_envelope {α : Type} (catalogue : String → Members → Option (Read α))
    (tag type : String) {payload : Members} (plain : IsPlain payload) :
    contents? catalogue tag (envelope tag type payload) = match catalogue type payload with
      | none => .ok none
      | some (.ok message) => .ok (some message)
      | some (.error f) => .error (f.within type) := by
  have payload_eq : (("prefix", Json.str tag) :: ("type", Json.str type) :: payload).filter
      (fun m => m.1 != "prefix" && m.1 != "type") = payload := by
    rw [List.filter_cons_of_neg (by simp), List.filter_cons_of_neg (by simp),
      List.filter_eq_self.mpr plain]
  have opened : contents? catalogue tag (envelope tag type payload) =
      if tag != tag then .ok none
      else match catalogue type ((("prefix", Json.str tag) :: ("type", Json.str type) ::
          payload).filter fun m => m.1 != "prefix" && m.1 != "type") with
        | none => .ok none
        | some (.ok message) => .ok (some message)
        | some (.error f) => .error (f.within type) := rfl
  rw [opened, payload_eq, if_neg (by simp)]

/-! ### From the host to the frame -/

namespace HostMessage

/-- A message whose selector is not empty. -/
def IsFilled : HostMessage → Prop
  | .enable | .disable | .clearPreview none => True
  | .previewStyle selector _ | .clearPreview (some selector) | .selectElement selector
  | .updateText selector _ => selector.isEmpty = false

theorem payload_isPlain (m : HostMessage) : IsPlain m.payload := by
  cases m with
  | clearPreview selector? =>
    show IsPlain (member? "selector" (selector?.filter (!·.isEmpty)))
    cases selector?.filter (!·.isEmpty) <;> simp [member?, IsPlain]
  | _ => simp [payload, IsPlain]

/-- Styles are read as they were said. -/
theorem texts_textsJson (styles : Table String String) :
    (styles.map fun s => (s.1, Json.str s.2)).map (fun s => (s.1, s.2.text)) = styles := by
  rw [List.map_map]
  exact List.map_id styles

/-- A selector that is not empty is read as it was said. -/
theorem readFilled_eq {ms : Members} {key value : String} (filled : value.isEmpty = false)
    (there : Table.get? ms key = some (.str value)) : readFilled ms key = .ok value := by
  unfold readFilled Members.get
  rw [there]
  simp [filled]

/-- **What the host says is read by the frame.** -/
theorem decode_encode {m : HostMessage} (tag : String) (filled : m.IsFilled) :
    decode tag (m.encode tag) = .ok (some m) := by
  unfold decode encode
  rw [contents?_envelope _ tag _ m.payload_isPlain]
  cases m with
  | enable => rfl
  | disable => rfl
  | previewStyle selector styles =>
    have named : readFilled (previewStyle selector styles).payload "selector" = .ok selector :=
      readFilled_eq filled rfl
    unfold type ofPayload?
    dsimp only
    rw [named]
    simp only [payload, Members.get, Table.get?_cons, textsJson]
    exact congrArg (fun styles => Except.ok (some (previewStyle selector styles)))
      (texts_textsJson styles)
  | clearPreview selector? =>
    cases selector? with
    | none => rfl
    | some selector =>
      have given : (clearPreview (some selector)).payload = [("selector", .str selector)] := by
        have filled : selector.isEmpty = false := filled
        simp [payload, Option.filter, filled, member?]
      rw [given]
      simp only [type, ofPayload?, Members.get, Table.get?_cons]
      have filled : selector.isEmpty = false := filled
      simp [filled]
  | selectElement selector =>
    have named : readFilled (selectElement selector).payload "selector" = .ok selector :=
      readFilled_eq filled rfl
    unfold type ofPayload?
    dsimp only
    rw [named]
    rfl
  | updateText selector text =>
    have named : readFilled (updateText selector text).payload "selector" = .ok selector :=
      readFilled_eq filled rfl
    unfold type ofPayload?
    dsimp only
    rw [named]
    rfl

end HostMessage

/-! ### From the frame to the host -/

namespace FrameMessage

theorem payload_isPlain (m : FrameMessage) : IsPlain m.payload := by
  cases m with
  | textEdit selector oldText newText position? => cases position? <;> simp [payload, IsPlain]
  | error message context? => cases context? <;> simp [payload, IsPlain, member?]
  | _ => simp [payload, IsPlain]

/-- The catalogue keeps to the type that it is asked for. -/
theorem type_of_payload {type : String} {ms : Members} {m : FrameMessage}
    (read : ofPayload? type ms = some (.ok m)) : m.type = type := by
  unfold ofPayload? at read
  split at read
  · cases read
    rfl
  · split at read
    · cases read
    · cases read
      rfl
    · obtain ⟨e, -, done⟩ := bind_eq_ok.mp (Option.some.inj read)
      cases done
      rfl
  · obtain ⟨e, -, done⟩ := bind_eq_ok.mp (Option.some.inj read)
    cases done
    rfl
  · cases read
    rfl
  · obtain ⟨selector, -, read⟩ := bind_eq_ok.mp (Option.some.inj read)
    obtain ⟨oldText, -, read⟩ := bind_eq_ok.mp read
    obtain ⟨newText, -, read⟩ := bind_eq_ok.mp read
    obtain ⟨position?, -, done⟩ := bind_eq_ok.mp read
    cases done
    rfl
  · obtain ⟨selector, -, read⟩ := bind_eq_ok.mp (Option.some.inj read)
    obtain ⟨oldText, -, read⟩ := bind_eq_ok.mp read
    obtain ⟨newText, -, done⟩ := bind_eq_ok.mp read
    cases done
    rfl
  · obtain ⟨message, -, done⟩ := bind_eq_ok.mp (Option.some.inj read)
    cases done
    rfl
  · cases read

/-- What is read is what the catalogue makes of the payload. -/
theorem of_decode_encode {tag : String} {m m' : FrameMessage}
    (read : decode tag (m.encode tag) = .ok (some m')) : ofPayload? m.type m.payload = some (.ok m') := by
  unfold decode encode at read
  rw [contents?_envelope _ tag _ m.payload_isPlain] at read
  split at read
  · cases read
  · rename_i found
    cases read
    exact found
  · cases read

/-- A message is read as one of its type, or not at all. -/
theorem type_decode {tag : String} {m m' : FrameMessage}
    (read : decode tag (m.encode tag) = .ok (some m')) : m'.type = m.type :=
  type_of_payload (of_decode_encode read)

/-- The selector of a snapshot is read as it was written, if the snapshot is read. -/
theorem selector_read {e e' : Snapshot} (read : Snapshot.read e.toJson = .ok e') :
    e'.selector = e.selector := by
  obtain ⟨ms, json, selector, tagName⟩ : ∃ ms, e.toJson = .obj ms ∧
      Members.get ms "selector" = .str e.selector ∧ Members.get ms "tagName" = .str e.tagName :=
    ⟨_, rfl, rfl, rfl⟩
  rw [json] at read
  unfold Snapshot.read at read
  dsimp only at read
  rw [selector, tagName] at read
  dsimp only at read
  split at read
  · cases read
  · rename_i filled
    obtain ⟨rect, -, read⟩ := bind_eq_ok.mp read
    obtain ⟨position?, -, read⟩ := bind_eq_ok.mp read
    split at read
    · obtain ⟨count, -, done⟩ := bind_eq_ok.mp read
      cases done
      rfl
    · cases read
      rfl

/-- The selector of an element that was selected is read as it was said. -/
theorem selector_decode {tag : String} {m : FrameMessage} {e' : Snapshot}
    (read : decode tag (m.encode tag) = .ok (some (.selected e'))) :
    ∃ e, m = .selected e ∧ e'.selector = e.selector := by
  have type : m.type = "element_selected" := (type_decode read).symm
  cases m with
  | selected e =>
    obtain ⟨e'', snapshot, done⟩ := bind_eq_ok.mp (Option.some.inj (of_decode_encode read))
    cases done
    exact ⟨e, rfl, selector_read snapshot⟩
  | _ => exact absurd type (by simp [FrameMessage.type])

end FrameMessage

/-! ### What messages are about -/

/-- A message that shows or clears styles on an element that is known. -/
def HostMessage.IsAbout (known : String → Prop) : HostMessage → Prop
  | .previewStyle s _ | .clearPreview (some s) => known s
  | _ => False

/-- A message that the pointer has moved, or that a known element or none is selected. -/
def FrameMessage.IsPointing (known : String → Prop) : FrameMessage → Prop
  | .hovered _ | .deselected => True
  | .selected e => known e.selector
  | _ => False

theorem FrameMessage.IsPointing.mono {known known' : String → Prop} {m : FrameMessage}
    (pointing : m.IsPointing known) (more : ∀ s, known s → known' s) : m.IsPointing known' := by
  cases m with
  | selected e => exact more _ pointing
  | hovered element? => trivial
  | deselected => trivial
  | _ => exact pointing

theorem HostMessage.IsAbout.mono {known known' : String → Prop} {m : HostMessage}
    (about : m.IsAbout known) (more : ∀ s, known s → known' s) : m.IsAbout known' := by
  cases m with
  | previewStyle s styles => exact more s about
  | clearPreview selector? =>
    cases selector? with
    | none => exact about
    | some s => exact more s about
  | _ => exact about

end Retouch
