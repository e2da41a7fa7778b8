import Mathlib.Data.List.Forall2
import Retouch.Proofs.Overlay.Committing

/-!
# What becomes of edits

A text is edited in a frame of the overlay's own. `noteEdits` notes beside the overlay, event by event, which
edits are started and how each of them ends: it is given up, or a text is committed. Much of what the overlay
does has nothing to do with edits (`Quiet`). In everything else that it does when it hears an event, the edit
that goes on ends at most once, and then another one may be started (`Proceeds`), while the element that is
edited is the selected one, and its frame is there (`Furnished`, with `Furnished.reactTo`). So the notes are in
step with the overlay and with what the host is told, whatever is heard (`Booked.stands`).
-/

namespace Retouch

open Page (SameTree)

/-! ### Edits that end -/

/-- How an edit ends. -/
inductive Ending where
  /-- It is given up. -/
  | givenUp
  /-- A text is committed. -/
  | committed (text : String)
  deriving DecidableEq, Repr

/-- An edit that has ended. -/
structure EndedEdit where
  /-- The edit. -/
  edit : TextEdit
  /-- How it ended. -/
  ending : Ending
  deriving DecidableEq, Repr

/-- What the host may be told of an edit that has ended: nothing, or once the text that was committed, if it
is another one than before. -/
def EndedEdit.Tells (x : EndedEdit) (told : List (String × String)) : Prop :=
  told = [] ∨ ∃ text, x.ending = .committed text ∧ text ≠ x.edit.oldText ∧ told = [(x.edit.oldText, text)]

/-- The edits that were started and those that have ended, in order. -/
structure EditLog where
  /-- The edits that were started. -/
  started : List TextEdit := []
  /-- The edits that have ended. -/
  ended : List EndedEdit := []

namespace Overlay

variable {o o' o₁ : Overlay} {id : ElementId}

/-- What the host was told of edited texts: the texts before and after. -/
def told (o : Overlay) : List (String × String) := o.sent.filterMap FrameMessage.edited?

/-- The edit that goes on, committed. -/
def committed? (o : Overlay) : Option EndedEdit :=
  o.session.textEdit?.map fun edit => ⟨edit, .committed (o.typed edit)⟩

/-- The edit that goes on, given up. -/
def givenUp? (o : Overlay) : Option EndedEdit := o.session.textEdit?.map (⟨·, .givenUp⟩)

theorem edit_committed? (o : Overlay) : o.session.textEdit? = o.committed?.map (·.edit) := by
  unfold committed?
  cases o.session.textEdit? <;> rfl

theorem edit_givenUp? (o : Overlay) : o.session.textEdit? = o.givenUp?.map (·.edit) := by
  unfold givenUp?
  cases o.session.textEdit? <;> rfl

/-- The edit that ends when an event is heard. -/
def endedBy? (o : Overlay) (t : Trigger) (e : Event) : Option EndedEdit :=
  match t with
  | .click =>
    (o.visible? e.target?).bind fun id => if o.session.selected? == some id then o.givenUp? else o.committed?
  | .doubleClick =>
    ((o.visible? e.target?).filter fun id => Page.isTextEditable (o.page.element id)).bind fun _ => o.committed?
  | .keyDown => if e.key == "Escape" then o.givenUp? else none
  | .editorKeyDown =>
    if e.key == "Enter" && !e.shift then o.committed? else if e.key == "Escape" then o.givenUp? else none
  | .editorBlur => o.committed?
  | .mouseMove | .mouseLeave | .formKeyDown | .formFocus | .scroll => none

/-- The edit that goes on now and did not before. -/
def opened? (o o' : Overlay) : Option TextEdit :=
  o'.session.textEdit?.filter fun edit => o.session.textEdit? != some edit

end Overlay

/-- One more thing has happened: an edit may have ended, and another one may have been started. -/
def EditLog.note (log : EditLog) (o o' : Overlay) (ended? : Option EndedEdit) : EditLog where
  started := log.started ++ (o.opened? o').toList
  ended := log.ended ++ ended?.toList

namespace Overlay

variable {o o' o₁ : Overlay} {id : ElementId}

/-- The edits, after one more event is heard. -/
def noteEdits (h : Hook) (e : Event) (o : Overlay) (log : EditLog) : EditLog :=
  log.note o (o.react h e).1 (o.endedBy? h.trigger e)

theorem told_tell (o : Overlay) {m : FrameMessage} (other : m.edited? = none) : (o.tell m).told = o.told := by
  unfold told tell
  rw [List.filterMap_append, List.filterMap_cons, other, List.filterMap_nil, List.append_nil]

/-! ### What has nothing to do with edits -/

/-- Nothing has become of the edit that goes on, nor of anything that it depends on. -/
structure Quiet (o o' : Overlay) : Prop where
  /-- There are no new elements. -/
  length : o'.page.elements.length = o.page.elements.length
  /-- Elements hold the elements that they held. -/
  elements : ∀ id, (o'.page.element id).elements = (o.page.element id).elements
  /-- Ids are the same. -/
  ids : ∀ id, (o'.page.element id).id = (o.page.element id).id
  /-- Of what is remembered, only the hovered element and the saved looks change. -/
  session : o'.session = { o.session with hovered? := o'.session.hovered?, saved := o'.session.saved }
  /-- Nothing is told of edited texts. -/
  told : o'.told = o.told

namespace Quiet

theorem refl (o : Overlay) : Quiet o o := ⟨rfl, fun _ => rfl, fun _ => rfl, rfl, rfl⟩

theorem trans (first : Quiet o o₁) (second : Quiet o₁ o') : Quiet o o' where
  length := second.length.trans first.length
  elements id := (second.elements id).trans (first.elements id)
  ids id := (second.ids id).trans (first.ids id)
  session := by rw [second.session, first.session]
  told := second.told.trans first.told

/-- The tree is left alone. -/
theorem of_sameTree (same : SameTree o.page o'.page) (session : o'.session = o.session) (sent : o'.sent = o.sent) :
    Quiet o o' where
  length := same.length
  elements id := congrArg (List.filterMap Node.element?) (same.element id)
  ids := same.ids
  session := by rw [session]
  told := congrArg (List.filterMap FrameMessage.edited?) sent

theorem modify (o : Overlay) (id : ElementId) {f : Element → Element}
    (elements : (f (o.page.element id)).elements = (o.page.element id).elements)
    (ids : (f (o.page.element id)).id = (o.page.element id).id) : Quiet o (o.modify id f) where
  length := Page.length_modify ..
  elements other := Page.element_modify_same (g := Element.elements) elements other
  ids other := Page.element_modify_same (g := Element.id) ids other
  session := rfl
  told := rfl

/-- An element is styled, and something is saved. -/
theorem resemble (o : Overlay) (id : ElementId) {f : Element → Element}
    (like : Resembles (o.page.element id) (f (o.page.element id))) (saved : Table ElementId SavedLook) :
    Quiet o { o.modify id f with session := { o.session with saved } } := by
  obtain ⟨length, elements, ids, -, told⟩ := modify o id (f := f)
    (congrArg (List.filterMap Node.element?) like.children)
    (congrArg (·.getD "") (like.attributes "id" (by decide)))
  exact ⟨length, elements, ids, rfl, told⟩

theorem tell (o : Overlay) {m : FrameMessage} (other : m.edited? = none) : Quiet o (o.tell m) :=
  ⟨rfl, fun _ => rfl, fun _ => rfl, rfl, told_tell o other⟩

theorem draw (o : Overlay) (frame? element? : Option ElementId) : Quiet o (o.draw frame? element?) :=
  of_sameTree (draw_sameTree ..) (draw_session ..) (draw_sent ..)

theorem drawHighlight (o : Overlay) (element? : Option ElementId) : Quiet o (o.drawHighlight element?) := draw ..

theorem drawSelection (o : Overlay) (element? : Option ElementId) : Quiet o (o.drawSelection element?) := draw ..

theorem snapshot {s : Snapshot} (taken : o.snapshot id = .ok (o', s)) : Quiet o o' := by
  obtain ⟨same, session, -, sent⟩ := snapshot_sameTree taken
  exact of_sameTree same session sent

theorem preciseSnapshot {s : Snapshot} (taken : o.preciseSnapshot id = .ok (o', s)) : Quiet o o' := by
  obtain ⟨s₁, first, -⟩ := snapshot_of_precise taken
  exact snapshot first

/-- It does not matter what the pointer is over. -/
theorem point (o : Overlay) (hovered? : Option ElementId) :
    Quiet o { o with session := { o.session with hovered? } } := ⟨rfl, fun _ => rfl, fun _ => rfl, rfl, rfl⟩

theorem unhover (o : Overlay) : Quiet o o.unhover := by
  unfold Overlay.unhover
  split
  · exact refl o
  · exact (point o none).trans ((drawHighlight _ none).trans (tell _ rfl))

theorem hover (o : Overlay) (id : ElementId) : Quiet o (o.hover id).1 := by
  have drawn := (point o (some id)).trans (drawHighlight _ (some id))
  unfold Overlay.hover
  dsimp only
  split
  · exact drawn
  · rename_i taken
    exact drawn.trans ((snapshot taken).trans (tell _ rfl))

theorem onMouseMove (o : Overlay) (target? : Option ElementId) : Quiet o (o.onMouseMove target?).1 := by
  unfold Overlay.onMouseMove
  split
  · exact unhover o
  · split
    · exact drawHighlight o none
    · split
      · exact refl o
      · exact hover o _

theorem showStyles (o : Overlay) (id : ElementId) (styles : Table String String) :
    Quiet o (o.showStyles id styles) := by
  have styled : Quiet o (o.styled id styles) := resemble o id (dressed_resembles o id styles) _
  rw [showStyles_eq]
  split
  · exact styled.trans (drawSelection _ _)
  · exact styled

theorem restore (o : Overlay) (id : ElementId) : Quiet o (o.restore id) := by
  unfold Overlay.restore
  split
  · exact refl o
  · exact resemble o id (restoreLook_resembles _ _) _

theorem clearPreview (o : Overlay) (selector? : Option String) : Quiet o (o.clearPreview selector?) := by
  unfold Overlay.clearPreview
  split
  · exact List.foldlRecOn (motive := Quiet o) _ _ (refl o) fun o₁ quiet id _ => quiet.trans (restore o₁ id)
  · split
    · exact restore o _
    · exact refl o

theorem replaceDirectText (o : Overlay) (id : ElementId) (text : String) :
    Quiet o (o.modify id (·.replaceDirectText text)) :=
  modify o id (Element.elements_replaceDirectText ..) rfl

theorem updateText (o : Overlay) (selector text : String) : Quiet o (o.updateText selector text).1 := by
  unfold Overlay.updateText
  split
  · exact refl o
  · exact replaceDirectText o _ text

/-- It does not matter where the focus is, nor what the page's own listeners have heard. -/
theorem listen (o : Overlay) (active? : Option ElementId) (heard : List (String × Option ElementId)) :
    Quiet o { o with page := { o.page with active?, heard } } := ⟨rfl, fun _ => rfl, fun _ => rfl, rfl, rfl⟩

/-- A text is put into an element that holds no elements. -/
theorem type {input : ElementId} (bare : (o.page.element input).elements = []) (text : String) :
    Quiet o { o with page := o.page.setText input text } := by
  unfold Page.setText
  rw [bare]
  exact modify o input bare.symm rfl

end Quiet

/-! ### Edits step by step -/

/-- One thing has happened. Either the edit that goes on is the one that went on before, if any, or that one has
ended, if there was one, and the one that goes on is new, if there is one. The host may be told of the edit that
has ended. -/
structure Proceeds (o o' : Overlay) (ended? : Option EndedEdit) : Prop where
  /-- No element is missing. -/
  longer : o.page.elements.length ≤ o'.page.elements.length
  /-- The edit that goes on is the same or a new one. -/
  goesOn : (ended? = none ∧ o'.session.textEdit? = o.session.textEdit?) ∨
    (o.session.textEdit? = ended?.map (·.edit) ∧ ∀ edit, o'.session.textEdit? = some edit →
      o.page.elements.length ≤ edit.frame ∧ edit.frame < o'.page.elements.length)
  /-- The host may be told of the one that has ended. -/
  told : ∃ told, List.Forall₂ EndedEdit.Tells ended?.toList told ∧ o'.told = o.told ++ told.flatten

/-- The edits that were noted are those that there were, one after the other, and what the host was told `before`
and of each of them is what it was told. -/
structure Booked (before : List (String × String)) (o : Overlay) (log : EditLog) : Prop where
  /-- All edits that were started have ended, except for the one that goes on. -/
  started : log.started = log.ended.map (·.edit) ++ o.session.textEdit?.toList
  /-- Their frames are on the page, or were. -/
  within : ∀ edit ∈ log.started, edit.frame < o.page.elements.length
  /-- They are told apart. -/
  apart : (log.started.map (·.frame)).Nodup
  /-- What was told of the edits that have ended was told of one after the other. -/
  told : ∃ told, List.Forall₂ EndedEdit.Tells log.ended told ∧ o.told = before ++ told.flatten

namespace Proceeds

variable {ended? : Option EndedEdit}

theorem of_quiet (quiet : Quiet o o') : Proceeds o o' none where
  longer := Nat.le_of_eq quiet.length.symm
  goesOn := .inl ⟨rfl, by rw [quiet.session]⟩
  told := ⟨[], .nil, quiet.told.trans (List.append_nil _).symm⟩

/-- An edit ends, if there is one, and nothing is told of it. -/
theorem silent (before : o.session.textEdit? = ended?.map (·.edit)) (idle : o'.session.textEdit? = none)
    (longer : o.page.elements.length ≤ o'.page.elements.length) (told : o'.told = o.told) : Proceeds o o' ended? where
  longer := longer
  goesOn := .inr ⟨before, fun edit editing => by cases idle.symm.trans editing⟩
  told := by
    rw [told]
    cases ended? with
    | none => exact ⟨[], .nil, (List.append_nil _).symm⟩
    | some x => exact ⟨[[]], .cons (.inl rfl) .nil, (List.append_nil _).symm⟩

/-- After that, another edit may be started. -/
theorem andThen (first : Proceeds o o₁ ended?) (second : Proceeds o₁ o' none) : Proceeds o o' ended? where
  longer := Nat.le_trans first.longer second.longer
  goesOn := by
    obtain ⟨-, same⟩ | ⟨idle, opened⟩ := second.goesOn
    · rw [same]
      refine first.goesOn.imp_right fun ⟨before, opened⟩ => ⟨before, fun edit editing => ?_⟩
      exact (opened edit editing).imp_right fun within => Nat.lt_of_lt_of_le within second.longer
    · right
      have later (edit : TextEdit) (editing : o'.session.textEdit? = some edit) :=
        (opened edit editing).imp_left (Nat.le_trans first.longer)
      obtain ⟨none, same⟩ | ⟨before, -⟩ := first.goesOn
      · rw [none, ← same]
        exact ⟨idle, later⟩
      · exact ⟨before, later⟩
  told := by
    obtain ⟨told, tells, first⟩ := first.told
    obtain ⟨none, tellsNone, second⟩ := second.told
    cases tellsNone
    exact ⟨told, tells, by rw [second, first]; exact List.append_nil _⟩

end Proceeds

theorem Booked.quiet {before : List (String × String)} {log : EditLog} (booked : Booked before o log)
    (quiet : Quiet o o') : Booked before o' log where
  started := by rw [quiet.session]; exact booked.started
  within edit mem := Nat.lt_of_lt_of_eq (booked.within edit mem) quiet.length.symm
  apart := booked.apart
  told := by rw [quiet.told]; exact booked.told

/-- **One more step is noted.** -/
theorem Booked.note {before : List (String × String)} {log : EditLog} {ended? : Option EndedEdit}
    (booked : Booked before o log) (proceeds : Proceeds o o' ended?) :
    Booked before o' (log.note o o' ended?) := by
  obtain ⟨started, within, apart, told⟩ := booked
  obtain ⟨longer, goesOn, told'⟩ := proceeds
  have telling : ∃ told, List.Forall₂ EndedEdit.Tells (log.ended ++ ended?.toList) told ∧
      o'.told = before ++ told.flatten := by
    obtain ⟨told, tells, heard⟩ := told
    obtain ⟨told', tells', heard'⟩ := told'
    refine ⟨told ++ told', List.rel_append tells tells', ?_⟩
    rw [heard', heard, List.flatten_append, List.append_assoc]
  obtain ⟨none, same⟩ | ⟨before, opened⟩ := goesOn
  · have unopened : o.opened? o' = Option.none := by
      unfold opened?
      rw [same, Option.filter_eq_none_iff]
      exact fun edit editing => by simp [editing]
    unfold EditLog.note at *
    rw [unopened]
    cases none
    simp only [Option.toList_none, List.append_nil] at *
    exact ⟨by rw [started, same], fun edit mem => Nat.lt_of_lt_of_le (within edit mem) longer, apart, telling⟩
  · have fresh (edit : TextEdit) (editing : o'.session.textEdit? = some edit) :
        ∀ edit' ∈ log.started, edit'.frame ≠ edit.frame := fun edit' mem =>
      Nat.ne_of_lt (Nat.lt_of_lt_of_le (within edit' mem) (opened edit editing).1)
    have new : o.opened? o' = o'.session.textEdit? := by
      unfold opened?
      cases editing : o'.session.textEdit? with
      | none => rfl
      | some edit =>
        rw [Option.filter_some, if_pos]
        rw [bne_iff_ne]
        intro there
        refine fresh edit editing edit ?_ rfl
        rw [started, there]
        exact List.mem_append_right _ (List.mem_singleton_self _)
    unfold EditLog.note
    rw [new]
    refine ⟨?_, fun edit mem => ?_, ?_, telling⟩
    · rw [started, before, List.map_append]
      cases ended? <;> rfl
    · obtain old | now := List.mem_append.mp mem
      · exact Nat.lt_of_lt_of_le (within edit old) longer
      · exact (opened edit (Option.mem_toList.mp now)).2
    · rw [List.map_append, List.nodup_append]
      refine ⟨apart, ?_, fun frame old frame' now => ?_⟩
      · cases o'.session.textEdit? <;> simp
      · obtain ⟨edit', mem, rfl⟩ := List.mem_map.mp old
        obtain ⟨edit, there, rfl⟩ := List.mem_map.mp now
        exact fresh edit (Option.mem_toList.mp there) edit' mem

/-! ### What belongs to an edit -/

/-- An element that holds no elements, and does not have the id of a frame for a text. -/
structure Plain (p : Page Hook) (id : ElementId) : Prop where
  /-- It holds no elements. -/
  bare : (p.element id).elements = []
  /-- Its id is another one. -/
  unnamed : (p.element id).id ≠ textFrameId

/-- There is a frame with an editor in it. -/
structure HasEditor (p : Page Hook) (edit : TextEdit) : Prop where
  /-- The frame has its id. -/
  named : (p.element edit.frame).id = textFrameId
  /-- It holds the editor. -/
  holds : (p.element edit.frame).elements = [edit.input]
  /-- The editor holds no elements. -/
  input : Plain p edit.input

end Overlay

/-- The user edits a text exactly while one is edited. -/
theorem OverlaySession.mode_eq_editingText_iff {s : OverlaySession} :
    s.mode = .editingText ↔ ∃ edit, s.textEdit? = some edit := by
  unfold mode
  cases s.textEdit? with
  | some edit => simp
  | none =>
    have other : (if s.selected?.isSome then .selected else if s.hovered?.isSome then .hovering else .idle) ≠
        OverlayMode.editingText := by
      split
      · exact OverlayMode.noConfusion
      · split <;> exact OverlayMode.noConfusion
    simpa using other

/-- What the overlay has added to the page, apart from what a text is edited in. -/
def OverlaySession.chrome (s : OverlaySession) : List ElementId :=
  s.sheet?.toList ++ s.highlight?.toList ++ s.selection?.toList

namespace Overlay

variable {o o' : Overlay}

/-- While a text is edited, its element is selected, and there is an editor; nothing else that the overlay has
added looks like one. -/
structure Furnished (o : Overlay) : Prop where
  /-- What else the overlay has added. -/
  chrome : ∀ id ∈ o.session.chrome, Plain o.page id
  /-- The element is selected. -/
  selected : ∀ edit, o.session.textEdit? = some edit → o.session.selected? = some edit.element
  /-- There is an editor. -/
  editor : ∀ edit, o.session.textEdit? = some edit → HasEditor o.page edit

theorem Plain.congr {p p' : Page Hook} {id : ElementId} (plain : Plain p id)
    (elements : (p'.element id).elements = (p.element id).elements) (ids : (p'.element id).id = (p.element id).id) :
    Plain p' id :=
  ⟨elements.trans plain.bare, fun named => plain.unnamed (ids.symm.trans named)⟩

namespace Furnished

theorem quiet (furnished : Furnished o) (quiet : Quiet o o') : Furnished o' := by
  obtain ⟨-, elements, ids, session, -⟩ := quiet
  have plain {id : ElementId} (plain : Plain o.page id) : Plain o'.page id := plain.congr (elements id) (ids id)
  refine ⟨fun id mem => ?_, fun edit editing => ?_, fun edit editing => ?_⟩
  · rw [session] at mem
    exact plain (furnished.chrome id mem)
  · rw [session] at editing ⊢
    exact furnished.selected edit editing
  · rw [session] at editing
    obtain ⟨named, holds, input⟩ := furnished.editor edit editing
    exact ⟨(ids _).trans named, (elements _).trans holds, plain input⟩

/-- What the host is told does not matter. -/
theorem tell (furnished : Furnished o) (m : FrameMessage) : Furnished (o.tell m) :=
  ⟨furnished.chrome, furnished.selected, furnished.editor⟩

/-- Another element is selected, unless it is the one that is edited. -/
theorem reselect (furnished : Furnished o) {hovered? selected? : Option ElementId}
    (right : ∀ edit, o.session.textEdit? = some edit → selected? = some edit.element) :
    Furnished { o with session := { o.session with hovered?, selected? } } :=
  ⟨furnished.chrome, right, furnished.editor⟩

end Furnished

/-- It does not matter to edits what is hovered or selected. -/
theorem Proceeds.reselect (o : Overlay) (hovered? selected? : Option ElementId) :
    Proceeds o { o with session := { o.session with hovered?, selected? } } none :=
  ⟨Nat.le_refl _, .inl ⟨rfl, rfl⟩, [], .nil, (List.append_nil _).symm⟩

/-! ### The editor closed -/

theorem closeTextEdit_of_idle (idle : o.session.textEdit? = none) : o.closeTextEdit.1 = o := by
  unfold Overlay.closeTextEdit
  rw [idle]

theorem closeTextEdit_rest (o : Overlay) :
    o.closeTextEdit.1.page.elements.length = o.page.elements.length ∧ o.closeTextEdit.1.told = o.told ∧
      o.closeTextEdit.1.session = { o.session with textEdit? := none } := by
  cases editing : o.session.textEdit? with
  | none =>
    rw [closeTextEdit_of_idle editing]
    exact ⟨rfl, rfl, by rw [← editing]⟩
  | some edit =>
    obtain ⟨page, closed, length, -⟩ := closeTextEdit_eq editing
    rw [closed]
    exact ⟨length, rfl, rfl⟩

/-- The edit is given up. -/
theorem Proceeds.closeTextEdit (o : Overlay) : Proceeds o o.closeTextEdit.1 o.givenUp? := by
  obtain ⟨length, told, session⟩ := closeTextEdit_rest o
  exact .silent (edit_givenUp? o) (by rw [session]) (Nat.le_of_eq length.symm) told

theorem Furnished.closeTextEdit (furnished : Furnished o) : Furnished o.closeTextEdit.1 := by
  cases editing : o.session.textEdit? with
  | none => rwa [closeTextEdit_of_idle editing]
  | some edit =>
    obtain ⟨page, closed, -, elements⟩ := closeTextEdit_eq editing
    rw [closed]
    refine ⟨fun id mem => ?_, (fun _ none => nomatch none), (fun _ none => nomatch none)⟩
    have plain := furnished.chrome id mem
    have same := elements id (Page.parent?_ne_of_bare plain.bare _)
    exact plain.congr (congrArg Element.elements same) (congrArg Element.id same)

/-! ### A text committed -/

/-- What becomes of a text that is committed: the editor is closed, and the host may be told of the text. -/
theorem commitTextEdit_cases (furnished : Furnished o) :
    ∃ o₁, Quiet o.closeTextEdit.1 o₁ ∧ (o.commitTextEdit.1 = o₁ ∨ ∃ edit, o.session.textEdit? = some edit ∧
      o.typed edit ≠ edit.oldText ∧ ∃ selector position?,
        o.commitTextEdit.1 = o₁.tell (.textEdit selector edit.oldText (o.typed edit) position?)) := by
  cases editing : o.session.textEdit? with
  | none =>
    refine ⟨o, by rw [closeTextEdit_of_idle editing]; exact .refl o, .inl ?_⟩
    unfold Overlay.commitTextEdit Overlay.closeTextEdit
    rw [editing]
  | some edit =>
    obtain ⟨page, closed, -, elements⟩ := closeTextEdit_eq editing
    have bare := (furnished.editor edit editing).input.bare
    have text := typed_eq bare (elements _ (Page.parent?_ne_of_bare bare _))
    unfold Overlay.commitTextEdit
    rw [closed]
    dsimp only
    rw [text]
    split
    · exact ⟨_, .refl _, .inl rfl⟩
    · rename_i changed
      have reworded := Quiet.replaceDirectText { o with page, session := { o.session with textEdit? := none } }
        edit.element (o.typed edit)
      split
      · exact ⟨_, reworded, .inl rfl⟩
      · rename_i o₂ s taken
        refine ⟨_, reworded.trans ((Quiet.preciseSnapshot taken).trans (.drawSelection o₂ o₂.session.selected?)),
          .inr ⟨edit, rfl, by simpa using changed, s.selector, s.position?, rfl⟩⟩

/-- **A text is committed**: no text is edited any more, and what is selected stays. -/
theorem Furnished.commitTextEdit (furnished : Furnished o) :
    Furnished o.commitTextEdit.1 ∧ Proceeds o o.commitTextEdit.1 o.committed? ∧
      o.commitTextEdit.1.session.textEdit? = none ∧
      o.commitTextEdit.1.session.selected? = o.session.selected? := by
  obtain ⟨length, told, session⟩ := closeTextEdit_rest o
  obtain ⟨o₁, quiet, outcome⟩ := commitTextEdit_cases furnished
  have closed := furnished.closeTextEdit.quiet quiet
  have longer : o.page.elements.length ≤ o₁.page.elements.length := Nat.le_of_eq (quiet.length.trans length).symm
  have idle : o₁.session.textEdit? = none := by rw [quiet.session, session]
  have kept : o₁.session.selected? = o.session.selected? := by rw [quiet.session, session]
  have heard : o₁.told = o.told := quiet.told.trans told
  have silent : Proceeds o o₁ o.committed? := .silent (edit_committed? o) idle longer heard
  obtain same | ⟨edit, editing, changed, selector, position?, same⟩ := outcome
  · rw [same]
    exact ⟨closed, silent, idle, kept⟩
  · rw [same]
    refine ⟨closed.tell _, ⟨longer, silent.goesOn, [[(edit.oldText, o.typed edit)]], ?_, ?_⟩, idle, kept⟩
    · unfold committed?
      rw [editing]
      exact .cons (.inr ⟨_, rfl, changed, rfl⟩) .nil
    · rw [← heard]
      exact List.filterMap_append

/-! ### The editor opened -/

/-- The frame holds nothing yet, and the page's own elements are as they were. -/
theorem element_withFrame (p : Page Hook) (id : ElementId) :
    (withFrame p id).element p.elements.length = drawAround ((p.create textFrame).1.element id).rect textFrame ∧
      ∀ other < p.elements.length, (withFrame p id).element other = p.element other := by
  have within : p.elements.length < (p.create textFrame).1.elements.length :=
    Nat.lt_of_lt_of_eq (Nat.lt_succ_self _) (Page.length_create ..).symm
  refine ⟨?_, fun other old => ?_⟩
  · rw [withFrame, Page.element_modify_self _ within, Page.element_create_new]
  · rw [withFrame, Page.element_modify_ne _ (Nat.ne_of_lt old), Page.element_create _ _ old]

/-- The editor is opened: a frame with an editor in it is a new element. -/
theorem openTextEdit_rest (closed : o.page.IsClosed) (there : Page.body < o.page.elements.length) (id : ElementId) :
    let o' := (o.openTextEdit id).1
    o'.page.elements.length = o.page.elements.length + 2 ∧ o'.told = o.told ∧
      (∀ other < o.page.elements.length, other ≠ Page.body → o'.page.element other = o.page.element other) ∧
      ∃ edit, o'.session = { o.session with textEdit? := some edit } ∧ edit.element = id ∧
        edit.frame = o.page.elements.length ∧ HasEditor o'.page edit := by
  let n := o.page.elements.length
  have within : n < (withFrame o.page id).elements.length := lt_length_withFrame o.page id
  obtain ⟨frame, others⟩ := element_withFrame o.page id
  -- the editor is put into the frame
  obtain ⟨-, length₁, input₁, frame₁, others₁⟩ := Page.element_add
    (hosts_withFrame (.start closed) id).closed (bare_textInput (o.page.element id).directText) within
  -- the frame is put into the body
  have put := Page.append_eq (isLoose_withEditor closed id) Page.body
  have elements : (o.openTextEdit id).1.page.elements = ((withEditor o.page id).append Page.body n).elements := by
    rw [openTextEdit_page]
    exact Page.elements_listen ..
  have length : (o.openTextEdit id).1.page.elements.length = n + 2 := by
    rw [elements, put, Page.length_modify]
    exact length₁.trans (congrArg (· + 1) (length_withFrame o.page id))
  have element (other : ElementId) (ne : other ≠ Page.body) :
      (o.openTextEdit id).1.page.element other = (withEditor o.page id).element other := by
    rw [Page.element_congr elements, put, Page.element_modify_ne _ ne]
  refine ⟨length, rfl, fun other old ne => ?_,
    ⟨id, n, (withFrame o.page id).elements.length, (o.page.element id).directText⟩, rfl, rfl, rfl, ?_⟩
  · exact (element other ne).trans ((others₁ other (Nat.lt_trans old within) (Nat.ne_of_lt old)).trans
      (others other old))
  · have held := (element n (Nat.ne_of_gt there)).trans frame₁
    have holding := (element _ (Nat.ne_of_gt (Nat.lt_trans there within))).trans input₁
    have named : textInputId ≠ textFrameId := by decide
    rw [frame] at held
    refine ⟨(congrArg Element.id held).trans rfl, congrArg Element.elements held,
      (congrArg Element.elements holding :), ?_⟩
    rw [holding]
    exact named

variable {base : Page Hook} {before : ElementId → Element} {shown : ElementId → String → Prop}
  {rs : List (Registration Hook)}

/-- What the overlay has added is neither the body nor beyond the page. -/
theorem Covers.chrome (covers : Covers base before shown rs o) :
    ∀ id ∈ o.session.chrome, Page.body ≠ id ∧ id < o.page.elements.length := by
  intro id mem
  have added : id ∈ o.session.added := by
    unfold OverlaySession.added OverlaySession.bodyGuests
    rw [← List.append_assoc, ← List.append_assoc]
    exact List.mem_append_left _ mem
  obtain ⟨guest, within⟩ := covers.added id added
  exact ⟨Nat.ne_of_lt (Nat.lt_of_lt_of_le covers.there guest), within⟩

/-- **The editor is opened** on the selected element. -/
theorem Furnished.openTextEdit (furnished : Furnished o) (covers : Covers base before shown rs o)
    (idle : o.session.textEdit? = none) {id : ElementId} (selected : o.session.selected? = some id) :
    Furnished (o.openTextEdit id).1 ∧ Proceeds o (o.openTextEdit id).1 none := by
  obtain ⟨length, told, others, edit, session, element, frame, editor⟩ :=
    openTextEdit_rest covers.hosts.closed (Nat.lt_of_lt_of_le covers.there covers.hosts.longer) id
  have only (edit' : TextEdit) (editing : (o.openTextEdit id).1.session.textEdit? = some edit') : edit' = edit := by
    rw [session] at editing
    exact (Option.some.inj editing).symm
  refine ⟨⟨fun other mem => ?_, fun edit' editing => ?_, fun edit' editing => ?_⟩,
    ⟨by omega, .inr ⟨idle, fun edit' editing => ?_⟩, [], .nil, told.trans (List.append_nil _).symm⟩⟩
  · rw [session] at mem
    obtain ⟨ne, within⟩ := covers.chrome other mem
    have same := others other within ne.symm
    exact (furnished.chrome other mem).congr (congrArg Element.elements same) (congrArg Element.id same)
  · rw [only edit' editing, session, element]
    exact selected
  · rw [only edit' editing]
    exact editor
  · rw [only edit' editing, frame]
    exact ⟨Nat.le_refl _, Nat.lt_of_lt_of_eq (Nat.lt_add_of_pos_right Nat.two_pos) length.symm⟩

/-! ### What is heard -/

theorem Furnished.startTextEdit (furnished : Furnished o) (covers : Covers base before shown rs o) {id : ElementId}
    (selected : o.session.selected? = some id) :
    Furnished (o.startTextEdit id).1 ∧ Proceeds o (o.startTextEdit id).1
      (if Page.isTextEditable (o.page.element id) then o.committed? else none) := by
  have covers := covers.commitTextEdit.1
  obtain ⟨committed, proceeds, idle, kept⟩ := furnished.commitTextEdit
  unfold Overlay.startTextEdit
  cases Page.isTextEditable (o.page.element id) with
  | false => exact ⟨furnished, .of_quiet (.refl o)⟩
  | true =>
    generalize o.commitTextEdit = out at *
    dsimp only [Bool.not_true]
    split
    · rename_i never
      cases never
    · split
      · exact ⟨committed, proceeds⟩
      · obtain ⟨opened, opening⟩ := committed.openTextEdit covers idle (kept.trans selected)
        exact ⟨opened, proceeds.andThen opening⟩

/-- The edit that ends when an element is selected: that of another element. -/
def leftFor? (o : Overlay) (id : ElementId) : Option EndedEdit :=
  if o.session.textEdit?.any fun edit => edit.element != id then o.committed? else none

/-- The edit that ends when the host sends a message. -/
def endedFor? (o : Overlay) : HostMessage → Option EndedEdit
  | .disable => o.givenUp?
  | .selectElement selector => (o.registry.resolve? o.page selector).bind o.leftFor?
  | .enable | .previewStyle .. | .clearPreview _ | .updateText .. => none

/-- **An element is selected**: an edit of another element ends. -/
theorem Furnished.select (furnished : Furnished o) (id : ElementId) (notify : Bool) :
    Furnished (o.select id notify).1 ∧ Proceeds o (o.select id notify).1 (o.leftFor? id) ∧
      ((∃ f, (o.select id notify).2 = .failed f) ∨ (o.select id notify).1.session.selected? = some id) ∧
      (o.session.selected? ≠ some id → (o.select id notify).1.session.textEdit? = none) := by
  have first : ∃ out : Overlay × Reaction, (if o.session.textEdit?.any fun edit => edit.element != id
      then o.commitTextEdit else (o, .settled)) = out ∧ Furnished out.1 ∧ Proceeds o out.1 (o.leftFor? id) ∧
      ∀ edit, out.1.session.textEdit? = some edit → edit.element = id ∧ o.session.selected? = some id := by
    refine ⟨_, rfl, ?_⟩
    unfold leftFor?
    split
    · obtain ⟨committed, proceeds, idle, -⟩ := furnished.commitTextEdit
      exact ⟨committed, proceeds, fun edit editing => by cases idle.symm.trans editing⟩
    · rename_i same
      refine ⟨furnished, .of_quiet (.refl o), fun edit (editing : o.session.textEdit? = some edit) => ?_⟩
      have same : edit.element = id := by simpa [editing] using same
      exact ⟨same, same ▸ furnished.selected edit editing⟩
  obtain ⟨out, committed, furnished, proceeds, only⟩ := first
  have idle : o.session.selected? ≠ some id → out.1.session.textEdit? = none := fun other => by
    cases editing : out.1.session.textEdit? with
    | none => rfl
    | some edit => exact absurd (only edit editing).2 other
  unfold Overlay.select
  dsimp only
  rw [committed]
  split
  · exact ⟨furnished, proceeds, .inl ⟨_, rfl⟩, idle⟩
  · rename_i o₁ _ _
    let o₂ : Overlay := { o₁ with session := { o₁.session with selected? := some id, hovered? := none } }
    have chosen : Furnished o₂ := furnished.reselect fun edit editing => congrArg some (only edit editing).1.symm
    have drawing : Quiet o₂ ((o₂.drawHighlight none).drawSelection (some id)) :=
      (Quiet.drawHighlight o₂ none).trans (.drawSelection _ _)
    have after {out : Overlay × Reaction} (quiet : Quiet o₂ out.1) : Furnished out.1 ∧
        Proceeds o out.1 (o.leftFor? id) ∧ ((∃ f, out.2 = .failed f) ∨ out.1.session.selected? = some id) ∧
        (o.session.selected? ≠ some id → out.1.session.textEdit? = none) := by
      refine ⟨chosen.quiet quiet, (proceeds.andThen (.reselect o₁ _ _)).andThen (.of_quiet quiet), .inr ?_, ?_⟩
      · rw [quiet.session]
      · rw [quiet.session]
        exact idle
    split
    · exact after drawing
    · split
      · exact after drawing
      · rename_i taken
        exact after (drawing.trans ((Quiet.preciseSnapshot taken).trans (.tell _ rfl)))

/-- Where another element was selected, any edit was of another element. -/
theorem Furnished.leftFor?_eq (furnished : Furnished o) {id : ElementId} (other : o.session.selected? ≠ some id) :
    o.leftFor? id = o.committed? := by
  unfold leftFor? committed?
  cases editing : o.session.textEdit? with
  | none => rfl
  | some edit =>
    have ne : edit.element ≠ id := fun same => other (same ▸ furnished.selected edit editing)
    simp [ne]

theorem Furnished.deselect (furnished : Furnished o) : Furnished o.deselect ∧ Proceeds o o.deselect o.givenUp? := by
  have closed := furnished.closeTextEdit
  have proceeds := Proceeds.closeTextEdit o
  have idle : o.closeTextEdit.1.session.textEdit? = none := by rw [(closeTextEdit_rest o).2.2]
  unfold Overlay.deselect
  split
  · rename_i unselected
    have idle : o.givenUp? = none := by
      unfold givenUp?
      cases editing : o.session.textEdit? with
      | none => rfl
      | some edit => simp [furnished.selected edit editing] at unselected
    rw [idle]
    exact ⟨furnished, .of_quiet (.refl o)⟩
  · generalize o.closeTextEdit.1 = o₁ at *
    let o₂ : Overlay := { o₁ with session := { o₁.session with selected? := none } }
    have forgotten : Furnished o₂ :=
      closed.reselect fun edit editing => by cases idle.symm.trans editing
    have drawing : Quiet o₂ ((o₂.drawSelection none).tell .deselected) :=
      (Quiet.drawSelection o₂ none).trans (.tell _ rfl)
    exact ⟨forgotten.quiet drawing, (proceeds.andThen (.reselect o₁ _ none)).andThen (.of_quiet drawing)⟩

theorem Furnished.onClick (furnished : Furnished o) (e : Event) :
    Furnished (o.onClick e.target?).1 ∧ Proceeds o (o.onClick e.target?).1 (o.endedBy? .click e) := by
  unfold Overlay.onClick endedBy?
  dsimp only
  cases o.visible? e.target? with
  | none => exact ⟨furnished, .of_quiet (.refl o)⟩
  | some id =>
    dsimp only [Option.bind_some]
    split
    · exact furnished.deselect
    · rename_i other
      have other : o.session.selected? ≠ some id := by simpa using other
      obtain ⟨selected, proceeds, -⟩ := furnished.select id true
      exact ⟨selected, furnished.leftFor?_eq other ▸ proceeds⟩

theorem Furnished.onDoubleClick (furnished : Furnished o) (covers : Covers base before shown rs o) (e : Event) :
    Furnished (o.onDoubleClick e.target?).1 ∧
      Proceeds o (o.onDoubleClick e.target?).1 (o.endedBy? .doubleClick e) := by
  unfold Overlay.onDoubleClick endedBy?
  dsimp only
  cases found : (o.visible? e.target?).filter fun id => Page.isTextEditable (o.page.element id) with
  | none => exact ⟨furnished, .of_quiet (.refl o)⟩
  | some id =>
    have editable := (Option.filter_eq_some_iff.mp found).2
    dsimp only [Option.bind_some]
    by_cases selected : o.session.selected? = some id
    · rw [if_pos (by simpa using selected)]
      have started := furnished.startTextEdit covers selected
      rw [if_pos editable] at started
      exact started
    · rw [if_neg (by simpa using selected)]
      have covers := covers.select id true
      obtain ⟨chosen, proceeds, outcome, idle⟩ := furnished.select id true
      replace idle := idle selected
      rw [furnished.leftFor?_eq selected] at proceeds
      generalize o.select id true = out at *
      split
      · exact ⟨chosen, proceeds⟩
      · rename_i o₁ reaction settled
        have selected : o₁.session.selected? = some id := outcome.resolve_left fun ⟨f, failed⟩ => settled f failed
        have nothing : o₁.committed? = none := by rw [committed?, idle]; rfl
        obtain ⟨started, starting⟩ := chosen.startTextEdit covers selected
        rw [nothing, ite_self] at starting
        exact ⟨started, proceeds.andThen starting⟩

theorem Furnished.onKeyDown (furnished : Furnished o) (e : Event) :
    Furnished (o.onKeyDown e.key) ∧ Proceeds o (o.onKeyDown e.key) (o.endedBy? .keyDown e) := by
  unfold Overlay.onKeyDown endedBy?
  dsimp only
  cases escape : e.key == "Escape" with
  | false =>
    rw [if_pos (by simpa using escape)]
    exact ⟨furnished, .of_quiet (.refl o)⟩
  | true =>
    rw [if_neg (by simpa using escape)]
    split
    · exact ⟨furnished.closeTextEdit, .closeTextEdit o⟩
    · exact furnished.deselect

theorem Furnished.onEditorKeyDown (furnished : Furnished o) (e : Event) :
    Furnished (o.onEditorKeyDown e).1 ∧ Proceeds o (o.onEditorKeyDown e).1 (o.endedBy? .editorKeyDown e) := by
  unfold Overlay.onEditorKeyDown endedBy?
  dsimp only
  split
  · obtain ⟨committed, proceeds, -⟩ := furnished.commitTextEdit
    exact ⟨committed, proceeds⟩
  · split
    · exact ⟨furnished.closeTextEdit, .closeTextEdit o⟩
    · exact ⟨furnished, .of_quiet (.refl o)⟩

/-- **Whatever is heard**, at most one edit ends and another one begins. -/
theorem Furnished.reactTo (furnished : Furnished o) (covers : Covers base before shown rs o) (t : Trigger)
    (e : Event) : Furnished (o.reactTo t e).1 ∧ Proceeds o (o.reactTo t e).1 (o.endedBy? t e) := by
  have still {o' : Overlay} (quiet : Quiet o o') : Furnished o' ∧ Proceeds o o' none :=
    ⟨furnished.quiet quiet, .of_quiet quiet⟩
  cases t with
  | mouseMove => exact still (.onMouseMove o e.target?)
  | mouseLeave => exact still (.unhover o)
  | click => exact furnished.onClick e
  | doubleClick => exact furnished.onDoubleClick covers e
  | keyDown => exact furnished.onKeyDown e
  | formKeyDown =>
    refine still ?_
    unfold Overlay.reactTo
    dsimp only
    split <;> exact .refl o
  | formFocus =>
    refine still ?_
    unfold Overlay.reactTo
    dsimp only
    split <;> exact .refl o
  | scroll => exact still ((Quiet.drawHighlight o _).trans (.drawSelection _ _))
  | editorKeyDown => exact furnished.onEditorKeyDown e
  | editorBlur =>
    obtain ⟨committed, proceeds, -⟩ := furnished.commitTextEdit
    exact ⟨committed, proceeds⟩

/-- **While the overlay covers a page**, whatever is heard is noted. -/
theorem Booked.stands (base : Page Hook) (look : ElementId → Element) (shown : ElementId → String → Prop) (k : Nat)
    (told : List (String × String)) :
    (reactor.noting noteEdits).Stands (fun h => h.session = k) fun w =>
      Covers base look shown (base.registrations ++ pageListeners k) w.1 ∧ Furnished w.1 ∧ Booked told w.1 w.2 where
  registered w holds := (Covers.stands base look shown k).registered w.1 holds.1
  react w holds h session e := by
    refine ⟨(Covers.stands base look shown k).react w.1 holds.1 h session e, ?_⟩
    obtain ⟨covers, furnished, booked⟩ := holds
    show Furnished (w.1.react h e).1 ∧ Booked told (w.1.react h e).1 (noteEdits h e w.1 w.2)
    unfold noteEdits
    rw [covers.react_eq session e]
    obtain ⟨furnished, proceeds⟩ := furnished.reactTo covers h.trigger e
    exact ⟨furnished, booked.note proceeds⟩
  heard w holds heard := by
    obtain ⟨covers, furnished, booked⟩ := holds
    have quiet := Quiet.listen w.1 w.1.page.active? heard
    exact ⟨(Covers.stands base look shown k).heard w.1 covers heard, furnished.quiet quiet, booked.quiet quiet⟩
  active w holds active? := by
    obtain ⟨covers, furnished, booked⟩ := holds
    have quiet := Quiet.listen w.1 active? w.1.page.heard
    exact ⟨(Covers.stands base look shown k).active w.1 covers active?, furnished.quiet quiet, booked.quiet quiet⟩

end Overlay

end Retouch
