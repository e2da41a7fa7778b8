import Retouch.Host.Command
import Retouch.Proofs.Host.Answering
import Retouch.Proofs.Wire.Envelope

/-!
# What a host has told the frame to show

Whenever the layers of a host change for an element, the host tells the frame what the element shows
now. So what the messages leave on an element, each one in place of what was said before about that
element, is what the host means it to show (`Shown`): an invariant of the commands about styles and of
the answers to them, early or late (`run_frank`).
-/

namespace Retouch

/-- What a message leaves to be shown on the element of a selector, where some styles were to be shown
before. -/
def HostMessage.leaves (selector : String) (styles : Styles) : HostMessage → Styles
  | .previewStyle s new => if s = selector then new else styles
  | .clearPreview (some s) => if s = selector then [] else styles
  | .clearPreview none => []
  | _ => styles

namespace Host

variable {κ : Type} {known : String → Prop} {base : String → Styles} {h h' : Host κ} {s : String}

/-! ### The layers of other elements -/

/-- What an element shows depends on its own styles only. -/
theorem effective_of_styles (h h' : Host κ) (s : String)
    (committed : h'.committed.styles s = h.committed.styles s)
    (preview : h'.preview.styles s = h.preview.styles s) : h'.effective s = h.effective s := by
  unfold effective
  rw [committed, preview]

theorem styles_set_of_ne (l : Layer) {s o : String} (styles : Styles) (other : o ≠ s) :
    Layer.styles (Table.set l s styles) o = l.styles o := by
  unfold Layer.styles
  rw [Table.get?_set, if_neg (by simpa using other)]

theorem styles_erase_of_ne (l : Layer) {s o : String} (other : o ≠ s) :
    Layer.styles (Table.erase l s) o = l.styles o := by
  unfold Layer.styles
  rw [Table.get?_erase, if_neg (by simpa using other)]

theorem styles_put_of_ne (l : Layer) {s o : String} (styles : Styles) (other : o ≠ s) :
    (l.put s styles).styles o = l.styles o := by
  rw [Layer.styles_put, if_neg (by simpa using other)]

/-! ### The invariant -/

/-- What the frame was told, where `base` was shown before, comes down to what the host means to be
shown; and the frame was told about known elements only. -/
structure Shown (known : String → Prop) (base : String → Styles) (h : Host κ) : Prop where
  /-- The messages come down to what elements show. -/
  leaves : ∀ s, h.told.foldl (HostMessage.leaves s) (base s) = h.effective s
  /-- The messages are about known elements. -/
  about : ∀ m ∈ h.told, m.IsAbout known

/-- The elements that a host may come to change are known. -/
structure Uses (known : String → Prop) (h : Host κ) : Prop where
  /-- The selected one is. -/
  selected : ∀ e, h.selected? = some e → known e.selector
  /-- Those of the history are. -/
  entries : ∀ e ∈ h.history.entries, known e.selector

/-- A host that deals with known elements only, and has told the frame all that it means to be
shown. -/
structure Frank (known : String → Prop) (base : String → Styles) (h : Host κ) : Prop where
  /-- It deals with known elements. -/
  uses : Uses known h
  /-- It has told what is to be shown. -/
  shown : Shown known base h

/-- A host that has told nothing yet has told all that is to be shown, if it is shown already. -/
theorem Shown.start (quiet : h.told = []) : Shown known h.effective h := by
  refine ⟨fun s => ?_, fun m hm => ?_⟩
  · rw [quiet]
    rfl
  · rw [quiet] at hm
    cases hm

/-- After a change to the styles of one element, the frame is told what that element shows. -/
theorem Shown.tell (shown : Shown known base h) (told : h'.told = h.told)
    (elsewhere : ∀ o ≠ s, h'.effective o = h.effective o) (hs : known s) {m : HostMessage}
    (message : m = .previewStyle s (h'.effective s) ∨
      m = .clearPreview (some s) ∧ h'.effective s = []) : Shown known base (h'.tell m) := by
  have told' : (h'.tell m).told = h.told ++ [m] := congrArg (· ++ [m]) told
  constructor
  · intro o
    show (h'.tell m).told.foldl _ _ = h'.effective o
    rw [told', List.foldl_append, List.foldl_cons, List.foldl_nil, shown.leaves o]
    by_cases same : s = o
    · subst same
      obtain rfl | ⟨rfl, none⟩ := message
      · exact if_pos rfl
      · exact (if_pos rfl).trans none.symm
    · rw [elsewhere o (Ne.symm same)]
      obtain rfl | ⟨rfl, -⟩ := message
      · exact if_neg same
      · exact if_neg same
  · intro m' hm'
    rw [told'] at hm'
    obtain old | new := List.mem_append.mp hm'
    · exact shown.about m' old
    · rw [List.mem_singleton.mp new]
      obtain rfl | ⟨rfl, -⟩ := message
      · exact hs
      · exact hs

theorem Shown.display (shown : Shown known base h) (told : h'.told = h.told)
    (elsewhere : ∀ o ≠ s, h'.effective o = h.effective o) (hs : known s) :
    Shown known base (h'.display s) := by
  refine shown.tell told elsewhere hs ?_
  split
  · rename_i empty
    exact Or.inr ⟨rfl, List.isEmpty_iff.mp empty⟩
  · exact Or.inl rfl

theorem Shown.same (shown : Shown known base h) (told : h'.told = h.told)
    (effective : ∀ s, h'.effective s = h.effective s) : Shown known base h' := by
  refine ⟨fun s => ?_, fun m hm => ?_⟩
  · rw [told, effective]
    exact shown.leaves s
  · rw [told] at hm
    exact shown.about m hm

theorem Shown.announce (shown : Shown known base h) (e : HostEvent) : Shown known base (h.announce e) :=
  shown.same rfl fun _ => rfl

theorem Shown.restyle (shown : Shown known base h) (entry : HistoryEntry) :
    Shown known base (h.restyle entry) :=
  shown.same rfl fun _ => rfl

/-! ### The history -/

/-- A history moved or cut holds no other edits. -/
theorem mem_of_mem_unstep {history : History} {id : String} {step : EditStep} {e : HistoryEntry}
    (he : e ∈ (unstep history id step).entries) : e ∈ history.entries := by
  match step with
  | .apply =>
    simp only [unstep, History.discard] at he
    split at he
    · exact he
    · exact List.mem_of_mem_eraseIdx he
  | .move .undo =>
    simp only [unstep, History.stepForward] at he
    split at he <;> exact he
  | .move .redo => exact he

theorem mem_entries_of_undo {history : History} {e : HistoryEntry}
    (found : History.undoEntry? (history) = some e) : e ∈ history.entries := by
  unfold History.undoEntry? at found
  split at found
  · exact List.mem_of_getElem? found
  · cases found

theorem mem_entries_of_redo {history : History} {e : HistoryEntry}
    (found : History.redoEntry? (history) = some e) : e ∈ history.entries :=
  List.mem_of_getElem? found

/-! ### Answers -/

/-- An edit taken back is shown as taken back. -/
theorem rollBack_frank (id : String) (frank : Frank known base h) : Frank known base (h.rollBack id) := by
  unfold rollBack
  split
  · exact frank
  · rename_i pending _
    dsimp only
    split
    · exact ⟨⟨frank.uses.selected, frank.uses.entries⟩, frank.shown.same rfl fun _ => rfl⟩
    · rename_i entry found
      have mem : entry ∈ h.history.entries := List.mem_of_find?_eq_some found
      refine ⟨⟨frank.uses.selected, fun e he => frank.uses.entries e (mem_of_mem_unstep he)⟩, ?_⟩
      refine (frank.shown.display ?_ (fun o other => ?_) (frank.uses.entries entry mem)).announce _
      · rfl
      · exact effective_of_styles h _ o (styles_put_of_ne h.committed pending.before other) rfl

/-- Answers keep a host frank. -/
theorem kept_frank : Kept (Frank (κ := κ) known base) where
  same same frank := by
    refine ⟨⟨?_, ?_⟩, frank.shown.same same.told fun s => ?_⟩
    · rw [same.selected]
      exact frank.uses.selected
    · rw [same.history]
      exact frank.uses.entries
    · exact effective_of_styles _ _ s (by rw [same.committed]) (by rw [same.preview])
  settle _ frank := ⟨⟨frank.uses.selected, frank.uses.entries⟩, frank.shown.same rfl fun _ => rfl⟩
  rollBack id frank := rollBack_frank id frank

/-! ### Commands -/

/-- An edit of a known element is presented: its element shows the new values from now on. -/
theorem present_frank {entry : HistoryEntry} (frank : Frank known base h) (hs : known entry.selector) :
    Frank known base (h.present entry) := by
  constructor
  · constructor
    · intro e he
      have selected : ∃ s, h.selected? = some s ∧ e.selector = s.selector := by
        rw [present_selected] at he
        obtain ⟨s, hs, rfl⟩ := Option.map_eq_some_iff.mp he
        refine ⟨s, hs, ?_⟩
        split <;> rfl
      obtain ⟨s, selected, same⟩ := selected
      rw [same]
      exact frank.uses.selected s selected
    · rw [(present_committed h entry).2.1]
      exact frank.uses.entries
  · have commits (o : String) (other : o ≠ entry.selector) :
        (h.commit entry).committed.styles o = h.committed.styles o :=
      styles_put_of_ne h.committed _ other
    unfold present
    dsimp only
    split
    · refine ((frank.shown.display ?_ (fun o other => ?_) hs).restyle entry).announce _
      · rfl
      · exact effective_of_styles h _ o (commits o other) (styles_set_of_ne h.preview _ other)
    · refine ((frank.shown.display ?_ (fun o other => ?_) hs).restyle entry).announce _
      · rfl
      · exact effective_of_styles h _ o (commits o other) rfl

section Commands

variable [Link κ]

/-- An edit of a known element is asked for with a history of edits of known elements. -/
theorem perform_frank {shown : HistoryEntry} {step : EditStep} {history : History}
    (frank : Frank known base h) (hs : known shown.selector)
    (entries : ∀ e ∈ history.entries, known e.selector) :
    Frank known base (h.perform shown step history).1 :=
  kept_frank.perform
    (present_frank ⟨⟨frank.uses.selected, entries⟩, frank.shown.same rfl fun _ => rfl⟩ hs)

omit [Link κ] in
theorem previewStyle_frank (property value : String) (frank : Frank known base h) :
    Frank known base (h.previewStyle property value) := by
  unfold previewStyle
  split
  · exact frank
  · rename_i e selected
    dsimp only
    refine ⟨⟨frank.uses.selected, frank.uses.entries⟩,
      frank.shown.tell ?_ (fun o other => ?_) (frank.uses.selected e selected) (Or.inl rfl)⟩
    · rfl
    · exact effective_of_styles h _ o rfl (styles_set_of_ne h.preview _ other)

omit [Link κ] in
theorem clearPreview_frank (frank : Frank known base h) : Frank known base h.clearPreview := by
  unfold clearPreview
  split
  · exact frank
  · rename_i e selected
    refine ⟨⟨frank.uses.selected, frank.uses.entries⟩,
      frank.shown.display ?_ (fun o other => ?_) (frank.uses.selected e selected)⟩
    · rfl
    · exact effective_of_styles h _ o rfl (styles_erase_of_ne h.preview other)

theorem applyStyles_frank (values : List (String × String)) (usesInline : Bool)
    (frank : Frank known base h) : Frank known base (h.applyStyles values usesInline).1 := by
  unfold applyStyles
  split
  · exact frank
  · rename_i element selected
    split
    · exact frank
    · have hs : known element.selector := frank.uses.selected element selected
      refine perform_frank ⟨⟨frank.uses.selected, frank.uses.entries⟩,
        frank.shown.same rfl fun _ => rfl⟩ hs fun e he => ?_
      obtain old | new := List.mem_append.mp he
      · exact frank.uses.entries e (List.mem_of_mem_take old)
      · rw [List.mem_singleton.mp new]
        exact hs

theorem undo_frank (frank : Frank known base h) : Frank known base h.undo.1 := by
  unfold undo
  split
  · exact frank
  · rename_i entry found
    exact perform_frank frank (frank.uses.entries entry (mem_entries_of_undo found)) frank.uses.entries

theorem redo_frank (frank : Frank known base h) : Frank known base h.redo.1 := by
  unfold redo
  split
  · exact frank
  · rename_i entry found
    refine perform_frank frank (frank.uses.entries entry (mem_entries_of_redo found)) fun e he => ?_
    unfold History.stepForward at he
    split at he <;> exact frank.uses.entries e he

/-- The commands about styles, and answers from the backend whenever they come. -/
def Command.isStyling : Command → Bool
  | .previewStyle _ _ | .clearPreview | .applyStyles _ _ | .undo | .redo | .hear _ => true
  | _ => false

/-- **Nothing is kept from the frame**: after any command about styles, and any answer, the frame has
been told all that is to be shown. -/
theorem run_frank {c : Command} (styling : c.isStyling = true) (frank : Frank known base h) :
    Frank known base (h.run c).1 := by
  cases c with
  | previewStyle property value => exact previewStyle_frank property value frank
  | clearPreview => exact clearPreview_frank frank
  | applyStyles values usesInline => exact applyStyles_frank values usesInline frank
  | undo => exact undo_frank frank
  | redo => exact redo_frank frank
  | hear message => exact kept_frank.hear message frank
  | _ => cases styling

omit [Link κ] in
/-- Answers leave the tag of the messages. -/
theorem kept_tag (tag : String) : Kept fun g : Host κ => g.tag = tag where
  same same eq := same.tag.trans eq
  settle _ eq := eq
  rollBack id eq := by
    unfold rollBack
    split
    · exact eq
    · dsimp only
      split <;> exact eq

theorem perform_tag (h : Host κ) (shown : HistoryEntry) (step : EditStep) (history : History) :
    (h.perform shown step history).1.tag = h.tag := by
  refine (kept_tag h.tag).perform ?_
  unfold present
  dsimp only
  split <;> rfl

/-- The commands about styles leave the tag of the messages. -/
theorem run_tag {c : Command} (styling : c.isStyling = true) : (h.run c).1.tag = h.tag := by
  cases c with
  | previewStyle property value =>
    show (h.previewStyle property value).tag = h.tag
    unfold previewStyle
    split <;> rfl
  | clearPreview =>
    show h.clearPreview.tag = h.tag
    unfold clearPreview
    split <;> rfl
  | applyStyles values usesInline =>
    show (h.applyStyles values usesInline).1.tag = h.tag
    unfold applyStyles
    split
    · rfl
    · split
      · rfl
      · exact perform_tag _ _ _ _
  | undo =>
    show h.undo.1.tag = h.tag
    unfold undo
    split
    · rfl
    · exact perform_tag _ _ _ _
  | redo =>
    show h.redo.1.tag = h.tag
    unfold redo
    split
    · rfl
    · exact perform_tag _ _ _ _
  | hear message => exact (kept_tag h.tag).hear message rfl
  | _ => cases styling

/-! ### Messages of the frame -/

/-- The pointer and the selection change nothing that is shown. -/
theorem receive_frank {m : FrameMessage} (pointing : m.IsPointing known) (frank : Frank known base h) :
    Frank known base (h.receive (m.encode h.tag)).1 := by
  unfold receive
  split
  · exact frank
  · exact kept_frank.same (.fail h _) frank
  · exact frank
  · exact frank
  · rename_i m' read
    have type : m'.type = m.type := FrameMessage.type_decode read
    cases m' with
    | hovered element? => exact ⟨⟨frank.uses.selected, frank.uses.entries⟩, frank.shown.same rfl fun _ => rfl⟩
    | selected e =>
      obtain ⟨e₀, rfl, same⟩ := FrameMessage.selector_decode read
      have selector : (h.withCommitted e).selector = e.selector := by
        unfold withCommitted
        split <;> rfl
      refine ⟨⟨?_, frank.uses.entries⟩, frank.shown.same rfl fun _ => rfl⟩
      intro e' he'
      cases he'
      rw [selector, same]
      exact pointing
    | deselected => exact ⟨⟨nofun, frank.uses.entries⟩, frank.shown.same rfl fun _ => rfl⟩
    | _ => cases m <;> first | exact pointing.elim | exact absurd type (by simp [FrameMessage.type])

theorem receive_tag {m : FrameMessage} (pointing : m.IsPointing known) :
    (h.receive (m.encode h.tag)).1.tag = h.tag := by
  unfold receive
  split
  · rfl
  · rfl
  · rfl
  · rfl
  · rename_i m' read
    have type : m'.type = m.type := FrameMessage.type_decode read
    cases m' with
    | hovered element? => rfl
    | selected e => rfl
    | deselected => rfl
    | _ => cases m <;> first | exact pointing.elim | exact absurd type (by simp [FrameMessage.type])

end Commands

end Host

end Retouch
