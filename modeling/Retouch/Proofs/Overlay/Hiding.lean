import Retouch.Proofs.Overlay.Restoring

/-!
# When the frames are shown

The overlay has two frames: one around the element that the pointer is over, and one around the selected
element. The second one is shown exactly while an element is selected. The first one is hidden when the pointer
gets onto the selected element, and yet the element from before goes on to count as the one that the pointer is
over. So when the pointer goes back there, nothing has changed for the overlay: the frame stays hidden, and the
host hears nothing.

`obscured` notes this beside the overlay, event by event: it lasts until the pointer gets to another element, or
until the page scrolls. Whatever the overlay hears, its frames agree with what is hovered and selected and with
this note (`Agrees.reactTo`), and so they do after any session (`Frame.Agreeing.run`). So the first frame is shown
exactly while the pointer is over an element and the frame is not obscured (`Frame.frames_shown_iff`), as long as
the host does not override whether the overlay's own elements are displayed.
-/

namespace Retouch

open Page (Leaves trackingAttribute)

namespace Overlay

variable {o o' : Overlay} {id frame : ElementId} {pointed chosen shown : Bool}

/-! ### Frames shown and hidden -/

/-- The inline style of an element does not hide it. -/
def isDisplayed (e : Element) : Bool := Table.get? e.style "display" != some "none"

/-- A frame is shown. -/
def isShown (o : Overlay) (frame? : Option ElementId) : Bool :=
  frame?.any fun frame => isDisplayed (o.page.element frame)

/-- Whether the frame around the element that the pointer is over is hidden although there is such an element,
after one more event is heard: it was `before`, or the pointer gets onto the selected element. -/
def obscured (h : Hook) (e : Event) (o : Overlay) (before : Bool) : Bool :=
  match h.trigger with
  | .mouseMove =>
    match o.visible? e.target? with
    | none => before
    | some id =>
      if o.session.selected? == some id then true else o.session.hovered? == some id && before
  | .scroll => false
  | _ => before

theorem isDisplayed_setStyle_ne (e : Element) {name : String} (ne : name ≠ "display") (value : String)
    (isImportant : Bool) : isDisplayed (e.setStyle name value isImportant) = isDisplayed e := by
  unfold isDisplayed Element.setStyle
  dsimp only
  rw [Table.get?_set, if_neg (by simpa using ne.symm)]

theorem isDisplayed_removeStyle_ne (e : Element) {name : String} (ne : name ≠ "display") :
    isDisplayed (e.removeStyle name) = isDisplayed e := by
  unfold isDisplayed Element.removeStyle
  dsimp only
  rw [Table.get?_erase, if_neg (by simpa using ne.symm)]

theorem isDisplayed_setStyle (e : Element) (value : String) (isImportant : Bool) :
    isDisplayed (e.setStyle "display" value isImportant) = (value != "none") := by
  unfold isDisplayed Element.setStyle
  dsimp only
  rw [Table.get?_set, if_pos (beq_self_eq_true _)]
  rfl

theorem isDisplayed_congr {e e' : Element} (same : e'.style = e.style) : isDisplayed e' = isDisplayed e := by
  unfold isDisplayed
  rw [same]

/-- An element is a frame that is shown or hidden; whether it is displayed is not overridden. -/
structure HasFrame (o : Overlay) (id : ElementId) (shown : Bool) : Prop where
  /-- It is an element of the page. -/
  within : id < o.page.elements.length
  /-- It is shown or hidden. -/
  displayed : isDisplayed (o.page.element id) = shown
  /-- Nothing is saved of this. -/
  unsaved : ∀ look, Table.get? o.session.saved id = some look → Table.get? look.styles "display" = none

/-- There are two frames, each shown or hidden. -/
structure Framed (o : Overlay) (pointed chosen : Bool) : Prop where
  /-- One for the element that the pointer is over. -/
  highlight : ∃ frame, o.session.highlight? = some frame ∧ HasFrame o frame pointed
  /-- One for the selected element. -/
  selection : ∃ frame, o.session.selection? = some frame ∧ HasFrame o frame chosen
  /-- They are told apart. -/
  apart : o.session.highlight? ≠ o.session.selection?

/-- The frames are shown as what is selected and hovered has it, but for what obscures the first one. -/
def Agrees (o : Overlay) (isObscured : Bool) : Prop :=
  Framed o (o.session.hovered?.isSome && !isObscured) o.session.selected?.isSome

theorem HasFrame.isShown (has : HasFrame o id shown) {frame? : Option ElementId} (frame : frame? = some id) :
    o.isShown frame? = shown := by
  rw [frame]
  exact has.displayed

/-- The frame is left as it is. -/
theorem HasFrame.congr (has : HasFrame o id shown) (longer : o.page.elements.length ≤ o'.page.elements.length)
    (displayed : isDisplayed (o'.page.element id) = isDisplayed (o.page.element id))
    (saved : Table.get? o'.session.saved id = Table.get? o.session.saved id) : HasFrame o' id shown where
  within := Nat.lt_of_lt_of_le has.within longer
  displayed := displayed.trans has.displayed
  unsaved := saved ▸ has.unsaved

/-- The frame itself is changed. -/
theorem HasFrame.modify (has : HasFrame o id shown) {f : Element → Element} {shown' : Bool}
    (displayed : isDisplayed (f (o.page.element id)) = shown') : HasFrame (o.modify id f) id shown' where
  within := Nat.lt_of_lt_of_eq has.within (Page.length_modify ..).symm
  displayed := (congrArg isDisplayed (Page.element_modify_self o.page has.within f)).trans displayed
  unsaved := has.unsaved

/-- It is drawn around an element, or hidden. -/
theorem HasFrame.draw (has : HasFrame o id shown) (element? : Option ElementId) :
    HasFrame (o.draw (some id) element?) id element?.isSome := by
  cases element? with
  | none => exact has.modify (isDisplayed_setStyle ..)
  | some other => exact has.modify (isDisplayed_setStyle ..)

/-- Another frame is. -/
theorem HasFrame.draw_ne (has : HasFrame o id shown) {frame? : Option ElementId} (other : frame? ≠ some id)
    (element? : Option ElementId) : HasFrame (o.draw frame? element?) id shown := by
  have elsewhere {frame : ElementId} (ne : some frame ≠ some id) (f : Element → Element) :
      HasFrame (o.modify frame f) id shown :=
    has.congr (Nat.le_of_eq (Page.length_modify ..).symm)
      (congrArg isDisplayed (Page.element_modify_ne o.page (fun same => ne (congrArg some same.symm)) f)) rfl
  unfold Overlay.draw
  split
  · exact has
  · exact elsewhere other _
  · exact elsewhere other _

/-! ### What leaves styles alone -/

/-- A new element has its own style. -/
theorem style_add (p : Page Hook) (parent : ElementId) (e : Element) :
    ((p.add parent e).element p.elements.length).style = e.style := by
  have left := (Leaves.append (p.elements.length + 1) (p.create e).1 parent p.elements.length).elements _
    (Nat.lt_succ_self _)
  have same : ((p.add parent e).element p.elements.length).style = ((p.create e).1.element p.elements.length).style :=
    (congrArg Element.style left :)
  rw [same, Page.element_create_new]

/-- The styles of elements are left alone, and so is what the overlay remembers, except for an edited text. -/
structure LeavesStyles (o o' : Overlay) : Prop where
  /-- No element is missing. -/
  longer : o.page.elements.length ≤ o'.page.elements.length
  /-- They have the same inline styles. -/
  style : ∀ id < o.page.elements.length, (o'.page.element id).style = (o.page.element id).style
  /-- The session goes on. -/
  session : o'.session = { o.session with textEdit? := o'.session.textEdit? }

namespace LeavesStyles

theorem refl (o : Overlay) : LeavesStyles o o := ⟨Nat.le_refl _, fun _ _ => rfl, rfl⟩

theorem trans {o₁ o₂ o₃ : Overlay} (first : LeavesStyles o₁ o₂) (second : LeavesStyles o₂ o₃) :
    LeavesStyles o₁ o₃ where
  longer := Nat.le_trans first.longer second.longer
  style id within :=
    (second.style id (Nat.lt_of_lt_of_le within first.longer)).trans (first.style id within)
  session := by rw [second.session, first.session]

/-- Elements change in what they hold at most. -/
theorem of_leaves (leaves : Leaves o.page.elements.length o.page o'.page)
    (session : o'.session = { o.session with textEdit? := o'.session.textEdit? }) : LeavesStyles o o' where
  longer := leaves.longer
  style id within := (congrArg Element.style (leaves.elements id within) :)
  session := session

theorem tell (o : Overlay) (m : FrameMessage) : LeavesStyles o (o.tell m) := ⟨Nat.le_refl _, fun _ _ => rfl, rfl⟩

/-- An element is changed in other ways. -/
theorem modify (o : Overlay) (id : ElementId) {f : Element → Element}
    (same : (f (o.page.element id)).style = (o.page.element id).style) : LeavesStyles o (o.modify id f) where
  longer := Nat.le_of_eq (Page.length_modify ..).symm
  style other _ := Page.element_modify_same (g := Element.style) same other
  session := rfl

theorem snapshot {s : Snapshot} (taken : o.snapshot id = .ok (o', s)) : LeavesStyles o o' := by
  obtain ⟨position?, rfl, -⟩ := eq_of_snapshot taken
  have tracked := Page.Registry.snapshot_induction (P := fun p => LeavesStyles o { o with page := p })
    (fun p id tracking left => left.trans
      (modify { o with page := p } id (f := (·.setAttribute trackingAttribute tracking)) rfl))
    o.registry (refl o) id position?
  generalize Page.snapshot o.registry o.page id position? = out at tracked ⊢
  exact ⟨tracked.longer, tracked.style, rfl⟩

theorem preciseSnapshot {s : Snapshot} (taken : o.preciseSnapshot id = .ok (o', s)) : LeavesStyles o o' := by
  obtain ⟨s₁, first, -⟩ := snapshot_of_precise taken
  exact snapshot first

theorem closeTextEdit (o : Overlay) : LeavesStyles o o.closeTextEdit.1 := by
  unfold Overlay.closeTextEdit
  split
  · exact refl o
  · rename_i edit _
    refine of_leaves ?_ rfl
    have quiet : ((editorListeners o.sessionNumber edit.input).foldl (fun p r => p.unlisten r) o.page).elements =
        o.page.elements :=
      List.foldlRecOn (motive := fun p : Page Hook => p.elements = o.page.elements) _ _ rfl fun _ same _ _ => same
    exact (Leaves.congr quiet).trans (.remove _ _ edit.frame)

/-- The frame of the editor is drawn, and it is a new element. -/
theorem openTextEdit (o : Overlay) (id : ElementId) : LeavesStyles o (o.openTextEdit id).1 := by
  refine of_leaves ?_ rfl
  rw [openTextEdit_page]
  exact (leaves_withEditor (Nat.le_refl _) id).trans ((Leaves.append _ _ Page.body o.page.elements.length).trans
    (.congr (Page.elements_listen ..)))

end LeavesStyles

namespace Framed

/-- Frames stay as they are where styles do. -/
theorem leavesStyles (framed : Framed o pointed chosen) (left : LeavesStyles o o') : Framed o' pointed chosen := by
  obtain ⟨⟨h, highlight, first⟩, ⟨s, selection, second⟩, apart⟩ := framed
  have keeps {id : ElementId} {shown : Bool} (has : HasFrame o id shown) : HasFrame o' id shown :=
    has.congr left.longer (isDisplayed_congr (left.style id has.within)) (by rw [left.session])
  refine ⟨⟨h, ?_, keeps first⟩, ⟨s, ?_, keeps second⟩, ?_⟩
  · rw [left.session, highlight]
  · rw [left.session, selection]
  · rw [left.session]
    exact apart

/-- It does not matter what is hovered or selected. -/
theorem remember (framed : Framed o pointed chosen) (hovered? selected? : Option ElementId) :
    Framed { o with session := { o.session with hovered?, selected? } } pointed chosen := by
  obtain ⟨⟨h, highlight, first⟩, ⟨s, selection, second⟩, apart⟩ := framed
  exact ⟨⟨h, highlight, ⟨first.within, first.displayed, first.unsaved⟩⟩,
    ⟨s, selection, ⟨second.within, second.displayed, second.unsaved⟩⟩, apart⟩

theorem drawHighlight (framed : Framed o pointed chosen) (element? : Option ElementId) :
    Framed (o.drawHighlight element?) element?.isSome chosen := by
  obtain ⟨⟨h, highlight, first⟩, ⟨s, selection, second⟩, apart⟩ := framed
  have session := drawHighlight_session o element?
  unfold Overlay.drawHighlight at session ⊢
  have other : o.session.highlight? ≠ some s := selection ▸ apart
  rw [← session] at selection apart
  refine ⟨⟨h, by rw [session]; exact highlight, ?_⟩, ⟨s, selection, second.draw_ne other element?⟩, apart⟩
  rw [highlight]
  exact first.draw element?

theorem drawSelection (framed : Framed o pointed chosen) (element? : Option ElementId) :
    Framed (o.drawSelection element?) pointed element?.isSome := by
  obtain ⟨⟨h, highlight, first⟩, ⟨s, selection, second⟩, apart⟩ := framed
  have session := drawSelection_session o element?
  unfold Overlay.drawSelection at session ⊢
  have other : o.session.selection? ≠ some h := highlight ▸ apart.symm
  rw [← session] at highlight apart
  refine ⟨⟨h, highlight, first.draw_ne other element?⟩, ⟨s, by rw [session]; exact selection, ?_⟩, apart⟩
  rw [selection]
  exact second.draw element?

/-- The first frame is drawn as what is hovered has it. -/
theorem agrees_drawHighlight (framed : Framed o pointed o.session.selected?.isSome) {m : Bool}
    (element? : Option ElementId) (same : element?.isSome = (o.session.hovered?.isSome && !m)) :
    Agrees (o.drawHighlight element?) m := by
  unfold Agrees
  rw [drawHighlight_session, ← same]
  exact framed.drawHighlight element?

/-- The second frame is drawn as what is selected has it. -/
theorem agrees_drawSelection {m : Bool} (framed : Framed o (o.session.hovered?.isSome && !m) chosen)
    (element? : Option ElementId) (same : element?.isSome = o.session.selected?.isSome) :
    Agrees (o.drawSelection element?) m := by
  unfold Agrees
  rw [drawSelection_session, ← same]
  exact framed.drawSelection element?

end Framed

/-! ### Events that are heard -/

namespace Agrees

variable {m : Bool}

theorem leavesStyles (agrees : Agrees o m) (left : LeavesStyles o o') : Agrees o' m := by
  unfold Agrees
  rw [left.session]
  exact Framed.leavesStyles agrees left

/-- The element that the pointer is over is forgotten, and its frame hidden. -/
theorem unhover (agrees : Agrees o m) : Agrees o.unhover m := by
  unfold Overlay.unhover
  split
  · exact agrees
  · have forgotten := Framed.remember agrees none o.session.selected?
    exact leavesStyles (forgotten.agrees_drawHighlight none rfl) (.tell _ _)

/-- The frame is drawn around another element. -/
theorem hover (agrees : Agrees o m) (id : ElementId) : Agrees (o.hover id).1 false := by
  have drawn : Agrees (({ o with session := { o.session with hovered? := some id } } : Overlay).drawHighlight
      (some id)) false :=
    (Framed.remember agrees (some id) o.session.selected?).agrees_drawHighlight (some id) rfl
  unfold Overlay.hover
  dsimp only
  split
  · exact drawn
  · rename_i taken
    exact drawn.leavesStyles ((LeavesStyles.snapshot taken).trans (.tell _ _))

/-- **The pointer moves**: the frame is hidden, drawn anew, or left as it is. -/
theorem onMouseMove (agrees : Agrees o m) (session : Nat) (e : Event) :
    Agrees (o.onMouseMove e.target?).1 (obscured ⟨session, .mouseMove⟩ e o m) := by
  unfold Overlay.onMouseMove obscured
  dsimp only
  cases o.visible? e.target? with
  | none => exact agrees.unhover
  | some id =>
    dsimp only
    split
    · exact Framed.agrees_drawHighlight agrees none (Bool.and_false _).symm
    · cases same : o.session.hovered? == some id with
      | true => exact agrees
      | false => exact agrees.hover id

theorem closeTextEdit (agrees : Agrees o m) : Agrees o.closeTextEdit.1 m :=
  agrees.leavesStyles (.closeTextEdit o)

/-- The text is replaced, and the frame around the selected element is drawn anew. -/
theorem commitTextEdit (agrees : Agrees o m) : Agrees o.commitTextEdit.1 m := by
  have closed := agrees.closeTextEdit
  unfold Overlay.commitTextEdit
  generalize o.closeTextEdit = out at closed ⊢
  obtain ⟨o₁, edit?⟩ := out
  cases edit? with
  | none => exact closed
  | some edit =>
    dsimp only at closed ⊢
    split
    · exact closed
    · have reworded := closed.leavesStyles (.modify o₁ edit.element
        (f := (·.replaceDirectText (Text.stripString (o₁.page.text edit.input)))) rfl)
      split
      · exact reworded
      · rename_i o₂ s taken
        have told := reworded.leavesStyles (.preciseSnapshot taken)
        have drawn := Framed.agrees_drawSelection told o₂.session.selected? rfl
        exact drawn.leavesStyles (.tell _ _)

/-- Once an element is selected, no other one is hovered. -/
theorem select (agrees : Agrees o m) (id : ElementId) (notify : Bool) : Agrees (o.select id notify).1 m := by
  have first : Agrees (if o.session.textEdit?.any fun edit => edit.element != id
      then o.commitTextEdit else (o, .settled)).1 m := by
    split
    · exact agrees.commitTextEdit
    · exact agrees
  unfold Overlay.select
  dsimp only
  generalize (if o.session.textEdit?.any fun edit => edit.element != id then o.commitTextEdit
    else (o, .settled)) = committed at first ⊢
  split
  · exact first
  · rename_i o₁ _ _
    have drawn : Agrees ((({ o₁ with session := { o₁.session with selected? := some id, hovered? := none } } :
        Overlay).drawHighlight none).drawSelection (some id)) m := by
      have hidden := (Framed.remember first none (some id)).drawHighlight none
      exact Framed.agrees_drawSelection (by rw [drawHighlight_session]; exact hidden) (some id)
        (by rw [drawHighlight_session])
    split
    · exact drawn
    · split
      · exact drawn
      · rename_i taken
        exact drawn.leavesStyles ((LeavesStyles.preciseSnapshot taken).trans (.tell _ _))

theorem deselect (agrees : Agrees o m) : Agrees o.deselect m := by
  unfold Overlay.deselect
  split
  · exact agrees
  · have closed := agrees.closeTextEdit
    have drawn := (Framed.remember closed o.closeTextEdit.1.session.hovered? none).agrees_drawSelection none rfl
    exact drawn.leavesStyles (.tell _ _)

theorem onClick (agrees : Agrees o m) (target? : Option ElementId) : Agrees (o.onClick target?).1 m := by
  unfold Overlay.onClick
  split
  · exact agrees
  · split
    · exact agrees.deselect
    · exact agrees.select _ true

theorem startTextEdit (agrees : Agrees o m) (id : ElementId) : Agrees (o.startTextEdit id).1 m := by
  have committed := agrees.commitTextEdit
  unfold Overlay.startTextEdit
  generalize o.commitTextEdit = out at committed ⊢
  split
  · exact agrees
  · split
    · exact committed
    · exact committed.leavesStyles (.openTextEdit _ id)

theorem onDoubleClick (agrees : Agrees o m) (target? : Option ElementId) :
    Agrees (o.onDoubleClick target?).1 m := by
  unfold Overlay.onDoubleClick
  split
  · exact agrees
  · rename_i id _
    have first : Agrees (if o.session.selected? == some id then (o, .settled) else o.select id true).1 m := by
      split
      · exact agrees
      · exact agrees.select id true
    dsimp only
    generalize (if o.session.selected? == some id then (o, Reaction.settled) else o.select id true) =
      selected at first ⊢
    split
    · exact first
    · exact first.startTextEdit id

theorem onKeyDown (agrees : Agrees o m) (key : String) : Agrees (o.onKeyDown key) m := by
  unfold Overlay.onKeyDown
  split
  · exact agrees
  · split
    · exact agrees.closeTextEdit
    · exact agrees.deselect

theorem onEditorKeyDown (agrees : Agrees o m) (e : Event) : Agrees (o.onEditorKeyDown e).1 m := by
  unfold Overlay.onEditorKeyDown
  split
  · exact agrees.commitTextEdit
  · split
    · exact agrees.closeTextEdit
    · exact agrees

/-- Both frames are drawn anew, or hidden. -/
theorem onScroll (agrees : Agrees o m) : Agrees o.onScroll false := by
  have drawn : Agrees (o.drawHighlight o.session.hovered?) false :=
    Framed.agrees_drawHighlight agrees o.session.hovered? (Bool.and_true _).symm
  exact Framed.agrees_drawSelection drawn o.session.selected? (by rw [drawHighlight_session])

/-- **Whatever is heard**, the frames agree with what is hovered and selected. -/
theorem reactTo (agrees : Agrees o m) (h : Hook) (e : Event) :
    Agrees (o.reactTo h.trigger e).1 (obscured h e o m) := by
  obtain ⟨session, t⟩ := h
  cases t with
  | mouseMove => exact agrees.onMouseMove session e
  | mouseLeave => exact agrees.unhover
  | click => exact agrees.onClick e.target?
  | doubleClick => exact agrees.onDoubleClick e.target?
  | keyDown => exact agrees.onKeyDown e.key
  | formKeyDown =>
    unfold Overlay.reactTo
    dsimp only
    split <;> exact agrees
  | formFocus =>
    unfold Overlay.reactTo
    dsimp only
    split <;> exact agrees
  | scroll => exact agrees.onScroll
  | editorKeyDown => exact agrees.onEditorKeyDown e
  | editorBlur => exact agrees.commitTextEdit

end Agrees

/-! ### What the host asks for -/

/-- Properties are shown that do not say whether the element is displayed. -/
theorem shownOn_displayed {styles : Table String String} (others : ∀ s ∈ styles, cssText s.1 ≠ "display")
    (unsaved : Table.get? (o.look id).styles "display" = none) :
    isDisplayed (o.shownOn id styles).1 = isDisplayed (o.page.element id) ∧
      Table.get? (o.shownOn id styles).2.1.styles "display" = none := by
  refine List.foldlRecOn (motive := fun acc : Element × SavedLook × Text =>
    isDisplayed acc.1 = isDisplayed (o.page.element id) ∧ Table.get? acc.2.1.styles "display" = none)
    _ _ ⟨rfl, unsaved⟩ fun acc ⟨same, unsaved⟩ s mem => ?_
  refine ⟨(isDisplayed_setStyle_ne acc.1 (others s mem) s.2 true).trans same, ?_⟩
  rw [Worn.saved_showProperty, if_neg (others s mem).symm]
  exact unsaved

/-- Styles are shown on an element: on another one, or others than whether it is displayed. -/
theorem HasFrame.styled (has : HasFrame o frame shown) (id : ElementId) {styles : Table String String}
    (others : id = frame → ∀ s ∈ styles, cssText s.1 ≠ "display") :
    HasFrame (o.styled id styles) frame shown := by
  have within : frame < (o.styled id styles).page.elements.length :=
    Nat.lt_of_lt_of_eq has.within (Page.length_modify ..).symm
  by_cases same : id = frame
  · subst same
    have unsaved : Table.get? (o.look id).styles "display" = none := by
      unfold look
      cases saved : Table.get? o.session.saved id with
      | none => rfl
      | some look => exact has.unsaved look saved
    obtain ⟨displayed, kept⟩ := shownOn_displayed (others rfl) unsaved
    have element : (o.styled id styles).page.element id = o.dressed id styles :=
      Page.element_modify_self o.page has.within _
    refine ⟨within, ?_, fun look saved => ?_⟩
    · rw [element, isDisplayed_congr (dressed_style o id styles), displayed, has.displayed]
    · rw [show Table.get? (o.styled id styles).session.saved id = some (o.shownOn id styles).2.1 from
        (Table.get?_set ..).trans (if_pos (beq_self_eq_true _))] at saved
      cases saved
      exact kept
  · refine has.congr (Nat.le_of_eq (Page.length_modify ..).symm) ?_ ?_
    · exact congrArg isDisplayed (Page.element_modify_ne o.page (Ne.symm same) _)
    · exact (Table.get?_set ..).trans (if_neg (by simpa using Ne.symm same))

/-- A look in which it is not saved whether the element is displayed is given back. -/
theorem isDisplayed_restoreLook {look : SavedLook} (unsaved : Table.get? look.styles "display" = none)
    (e : Element) : isDisplayed (restoreLook look e) = isDisplayed e := by
  unfold restoreLook
  dsimp only
  generalize styled : look.styles.foldl _ e = out
  have same : isDisplayed out = isDisplayed e := by
    rw [← styled]
    refine List.foldlRecOn (motive := fun out : Element => isDisplayed out = isDisplayed e) _ _ rfl
      fun out same s mem => ?_
    have ne : s.1 ≠ "display" := fun eq => Table.get?_eq_none_iff.mp unsaved (eq ▸ List.mem_map_of_mem mem)
    split
    · exact (isDisplayed_setStyle_ne out ne _ false).trans same
    · exact (isDisplayed_removeStyle_ne out ne).trans same
  split <;> exact same

theorem HasFrame.restore (has : HasFrame o frame shown) (id : ElementId) : HasFrame (o.restore id) frame shown := by
  have saved := saved_restore o id frame
  unfold Overlay.restore at saved ⊢
  cases there : Table.get? o.session.saved id with
  | none => exact has
  | some look =>
    rw [there] at saved
    refine ⟨Nat.lt_of_lt_of_eq has.within (Page.length_modify ..).symm, ?_, fun old found => ?_⟩
    · by_cases same : frame = id
      · subst same
        refine (congrArg isDisplayed (Page.element_modify_self o.page has.within _)).trans ?_
        exact (isDisplayed_restoreLook (has.unsaved look there) _).trans has.displayed
      · exact (congrArg isDisplayed (Page.element_modify_ne o.page same _)).trans has.displayed
    · rw [saved] at found
      split at found
      · cases found
      · exact has.unsaved old found

/-- What is put on: two new elements that are hidden are the frames, and there is a style sheet. -/
theorem install_frames (new : o.session = {}) :
    ∃ h s sheet, o.install.session =
        { sheet? := some sheet, highlight? := some h, selection? := some s, isInstalled := true } ∧
      h < s ∧ s < o.install.page.elements.length ∧
      isDisplayed (o.install.page.element h) = false ∧ isDisplayed (o.install.page.element s) = false := by
  have after₁ : (withSheet o.page).elements.length < (withHighlight o.page).elements.length := Page.lt_length_add ..
  have after₂ : (withHighlight o.page).elements.length < (withSelection o.page).elements.length :=
    Page.lt_length_add ..
  have left : Leaves (withHighlight o.page).elements.length (withHighlight o.page) (withSelection o.page) :=
    .add (Nat.le_refl _) ..
  have kept : ((withSelection o.page).element (withSheet o.page).elements.length).style =
      ((withHighlight o.page).element (withSheet o.page).elements.length).style :=
    (congrArg Element.style (left.elements _ after₁) :)
  have first : ((withHighlight o.page).element (withSheet o.page).elements.length).style = highlightFrame.style :=
    style_add ..
  have second : ((withSelection o.page).element (withHighlight o.page).elements.length).style = selectionFrame.style :=
    style_add ..
  -- listeners and the cursor of the body do not matter to the frames
  have displayed (id : ElementId) :
      isDisplayed (o.install.page.element id) = isDisplayed ((withSelection o.page).element id) := by
    rw [install_eq new, ← Page.element_congr (Page.elements_listen (pageListeners o.sessionNumber)
      (withSelection o.page)) id]
    exact Page.element_modify_same (g := isDisplayed) (isDisplayed_setStyle_ne _ (by decide) ..) id
  have hidden (id border : String) : isDisplayed (newFrame id border) = false := isDisplayed_setStyle ..
  refine ⟨(withSheet o.page).elements.length, (withHighlight o.page).elements.length, o.page.elements.length,
    ?_, after₁, ?_, ?_, ?_⟩
  · rw [install_eq new]
    rfl
  · rw [length_install new]
    exact after₂
  · rw [displayed, isDisplayed_congr (kept.trans first)]
    exact hidden ..
  · rw [displayed, isDisplayed_congr second]
    exact hidden ..

namespace Agrees

variable {m : Bool}

/-- Both frames are left as they are, and of what is remembered, nothing but saved looks changes. -/
theorem congr (agrees : Agrees o m) (session : o'.session = { o.session with saved := o'.session.saved })
    (keeps : ∀ id shown, o.session.highlight? = some id ∨ o.session.selection? = some id →
      HasFrame o id shown → HasFrame o' id shown) : Agrees o' m := by
  obtain ⟨⟨h, highlight, first⟩, ⟨s, selection, second⟩, apart⟩ := agrees
  refine ⟨⟨h, ?_, ?_⟩, ⟨s, ?_, ?_⟩, ?_⟩
  · rw [session, highlight]
  · rw [session]
    exact keeps h _ (.inl highlight) first
  · rw [session, selection]
  · rw [session]
    exact keeps s _ (.inr selection) second
  · rw [session]
    exact apart

/-- Styles are shown that do not say whether a frame is displayed. -/
theorem showStyles (agrees : Agrees o m) (id : ElementId) {styles : Table String String}
    (others : o.session.highlight? = some id ∨ o.session.selection? = some id →
      ∀ s ∈ styles, cssText s.1 ≠ "display") : Agrees (o.showStyles id styles) m := by
  have styled : Agrees (o.styled id styles) m :=
    agrees.congr rfl fun frame shown isFrame has => has.styled id fun same => others (same ▸ isFrame)
  rw [showStyles_eq]
  split
  · rename_i selected
    have chosen : (o.styled id styles).session.selected? = some id := eq_of_beq selected
    exact Framed.agrees_drawSelection styled (some id) (by rw [chosen])
  · exact styled

theorem restore (agrees : Agrees o m) (id : ElementId) : Agrees (o.restore id) m := by
  refine agrees.congr ?_ fun frame shown _ has => has.restore id
  unfold Overlay.restore
  split <;> rfl

theorem clearPreview (agrees : Agrees o m) (selector? : Option String) : Agrees (o.clearPreview selector?) m := by
  unfold Overlay.clearPreview
  split
  · exact List.foldlRecOn (motive := (Agrees · m)) _ _ agrees fun o agrees id _ => agrees.restore id
  · split
    · exact agrees.restore _
    · exact agrees

theorem updateText (agrees : Agrees o m) (selector text : String) : Agrees (o.updateText selector text).1 m := by
  unfold Overlay.updateText
  split
  · exact agrees
  · exact agrees.leavesStyles (.modify o _ rfl)

/-- The user types in the open editor. -/
theorem type (agrees : Agrees o m) (input : ElementId) (text : String) :
    Agrees { o with page := o.page.setText input text } m :=
  agrees.leavesStyles (.of_leaves (.setText _ _ input text) rfl)

/-- **When the overlay is put on**, both frames are hidden, and nothing is hovered or selected. -/
theorem install (new : o.session = {}) : Agrees o.install m := by
  obtain ⟨h, s, sheet, session, before, within, hidden⟩ := install_frames new
  have unsaved (id : ElementId) (look : SavedLook) (saved : Table.get? o.install.session.saved id = some look) :
      Table.get? look.styles "display" = none := by
    rw [session] at saved
    cases saved
  unfold Agrees
  rw [session]
  exact ⟨⟨h, by rw [session], Nat.lt_trans before within, hidden.1, unsaved h⟩,
    ⟨s, by rw [session], within, hidden.2, unsaved s⟩,
    by rw [session]; exact fun same => Nat.ne_of_lt before (Option.some.inj same)⟩

/-- **While the overlay covers a page**, whatever is heard leaves the frames in agreement. -/
theorem stands (base : Page Hook) (look : ElementId → Element) (shown : ElementId → String → Prop) (k : Nat) :
    (reactor.noting obscured).Stands (fun h => h.session = k) fun w =>
      Covers base look shown (base.registrations ++ pageListeners k) w.1 ∧ Agrees w.1 w.2 where
  registered w holds := (Covers.stands base look shown k).registered w.1 holds.1
  react w holds h session e := by
    refine ⟨(Covers.stands base look shown k).react w.1 holds.1 h session e, ?_⟩
    show Agrees (w.1.react h e).1 (obscured h e w.1 w.2)
    rw [holds.1.react_eq session e]
    exact holds.2.reactTo h e
  heard w holds heard :=
    ⟨(Covers.stands base look shown k).heard w.1 holds.1 heard, holds.2.leavesStyles (.of_leaves (.congr rfl) rfl)⟩
  active w holds active? :=
    ⟨(Covers.stands base look shown k).active w.1 holds.1 active?,
      holds.2.leavesStyles (.of_leaves (.congr rfl) rfl)⟩

end Agrees

/-- To draw a frame leaves the tree and the ids alone. -/
theorem draw_keeps (o : Overlay) (frame? element? : Option ElementId) :
    Page.Keeps o.page (o.draw frame? element?).page := by
  unfold draw
  split
  · exact .refl _
  · exact .modify rfl rfl rfl
  · exact .modify rfl rfl rfl

/-- What can be pointed at can be still when a frame is drawn. -/
theorem visible?_draw (o : Overlay) (frame? element? target? : Option ElementId) :
    (o.draw frame? element?).visible? target? = o.visible? target? := by
  have keeps := draw_keeps o frame? element?
  have tag (id : ElementId) : ((o.draw frame? element?).page.element id).tag = (o.page.element id).tag := by
    unfold draw
    split
    · rfl
    · exact Page.element_modify_same (g := Element.tag) rfl id
    · exact Page.element_modify_same (g := Element.tag) rfl id
  unfold visible? Page.isIgnored Page.ancestors
  simp only [tag, keeps.ids, keeps.length, keeps.ancestorsWithin]

/-- **The pointer goes onto the selected element and back** to the element that it was over before: the frame
around that one is hidden and stays so, and the host hears nothing. -/
theorem onMouseMove_back {p q : ElementId} (chosen : o.session.selected? = some p)
    (hovered : o.session.hovered? = some q) (ne : p ≠ q) (there : o.visible? (some p) = some p)
    (back : o.visible? (some q) = some q) :
    (o.onMouseMove (some p)).1.onMouseMove (some q) = (o.drawHighlight none, .settled) := by
  have onto : o.onMouseMove (some p) = (o.drawHighlight none, .settled) := by
    unfold onMouseMove
    rw [there, chosen]
    simp
  have still : (o.drawHighlight none).visible? (some q) = some q := (visible?_draw ..).trans back
  rw [onto]
  unfold onMouseMove
  rw [still, drawHighlight_session, chosen, hovered]
  simp [ne]

end Overlay

/-! ### Step by step -/

namespace Frame

open Overlay (Agrees Covers IsOwn obscured pageListeners reactor)

/-- Whether the frame around the element that the pointer is over is hidden although there is such an element,
after one more thing is done: the events that are heard in the course of it decide. -/
def obscuredBy (f : Frame) (before : Bool) : Act → Bool
  | .event e => ((reactor.noting obscured).dispatch e (f.overlay, before)).world.2
  | .focus id => ((reactor.noting obscured).focus id (f.overlay, before)).1.2
  | .blur id => ((reactor.noting obscured).blur id (f.overlay, before)).1.2
  | .type _ | .message _ => before

/-- The same after all that is done. -/
def isObscured : Frame → Bool → List Act → Bool
  | _, before, [] => before
  | f, before, a :: acts => isObscured (f.perform a) (f.obscuredBy before a) acts

variable {base : Page Hook} {shown : ElementId → String → Prop} {f : Frame} {m : Bool}

/-- While design mode is on, the frames agree with what is hovered and selected. -/
def Agreeing (f : Frame) (m : Bool) : Prop := f.isActive = true → f.overlay.Agrees m

theorem Agreeing.enable (agreeing : f.Agreeing m) : f.enable.Agreeing m := by
  unfold Frame.enable
  split
  · exact agreeing
  · exact fun _ => Agrees.install (o := f.overlay.renew) rfl

/-- **A message of the host** is obeyed that does not override whether a frame is displayed. -/
theorem Agreeing.obey (agreeing : f.Agreeing m) (visited : f.Visited base shown) (own : IsOwn base)
    (message : HostMessage)
    (untouched : ∀ id, f.Shows (.message message) id "display" → id < base.elements.length) :
    (f.obey message).1.Agreeing m := by
  by_cases enables : message = .enable
  · subst enables
    exact agreeing.enable
  · cases visited with
    | off inactive idle uncovered =>
      rw [obey_of_inactive inactive enables]
      exact agreeing
    | on active covers =>
      have agrees := agreeing active
      cases message with
      | enable => exact absurd rfl enables
      | disable =>
        have off := (Visited.disable (.on active covers) own).2
        exact fun on => absurd (on.symm.trans off) (by decide)
      | previewStyle selector styles =>
        rw [obey_previewStyle active]
        unfold Overlay.applyPreview
        intro _
        cases found : f.overlay.registry.resolve? f.overlay.page selector with
        | none => exact agrees
        | some id =>
          refine agrees.showStyles id fun isFrame s mem display => ?_
          have added : id ∈ f.overlay.session.added := by
            obtain highlight | selection := isFrame
            · simp [OverlaySession.added, OverlaySession.bodyGuests, highlight]
            · simp [OverlaySession.added, OverlaySession.bodyGuests, selection]
          have guest := (covers.added id added).1
          exact absurd (untouched id ⟨active, found, s, mem, display⟩) (Nat.not_lt.mpr guest)
      | clearPreview selector? =>
        rw [obey_clearPreview active]
        exact fun _ => agrees.clearPreview selector?
      | selectElement selector =>
        cases found : f.overlay.registry.resolve? f.overlay.page selector with
        | none =>
          rw [obey_selectElement_of_missing active found]
          exact agreeing
        | some id =>
          rw [obey_selectElement active found]
          exact fun _ => agrees.select id false
      | updateText selector text =>
        obtain ⟨sent, updated⟩ := obey_updateText active selector text
        rw [updated]
        exact fun _ => (agrees.updateText selector text).leavesStyles ⟨Nat.le_refl _, fun _ _ => rfl, rfl⟩

/-- What is heard while design mode is on leaves the frames in agreement. -/
theorem Agreeing.hear (agreeing : f.Agreeing m) (visited : f.Visited base shown) {o : Overlay} {w : Overlay × Bool}
    (same : o = w.1)
    (heard : ∀ k, Covers base (Overlay.crossed base) shown (base.registrations ++ pageListeners k) f.overlay →
      f.overlay.Agrees m → w.1.Agrees w.2) : ({ f with overlay := o } : Frame).Agreeing w.2 := by
  intro active
  subst same
  cases visited with
  | off inactive => exact absurd (inactive.symm.trans active) (by decide)
  | on active covers => exact heard _ covers (agreeing active)

/-- **Whatever is done with a frame** that does not override whether a frame is displayed. -/
theorem Agreeing.perform (agreeing : f.Agreeing m) (visited : f.Visited base shown) (own : IsOwn base) (a : Act)
    (untouched : ∀ id, f.Shows a id "display" → id < base.elements.length) :
    (f.perform a).Agreeing (f.obscuredBy m a) := by
  have views := reactor.views_noting obscured
  have stands (k : Nat) := Agrees.stands base (Overlay.crossed base) shown k
  cases a with
  | message message => exact agreeing.obey visited own message untouched
  | event e =>
    exact agreeing.hear visited (congrArg Course.world (views.dispatch e (f.overlay, m))) fun k covers agrees =>
      ((stands k).dispatch (w := (f.overlay, m)) ⟨covers, agrees⟩ e).2
  | focus id =>
    exact agreeing.hear visited (congrArg Prod.fst (views.focus id (f.overlay, m))) fun k covers agrees =>
      ((stands k).focus (w := (f.overlay, m)) ⟨covers, agrees⟩ id).2
  | blur id =>
    exact agreeing.hear visited (congrArg Prod.fst (views.blur id (f.overlay, m))) fun k covers agrees =>
      ((stands k).blur (w := (f.overlay, m)) ⟨covers, agrees⟩ id).2
  | type text =>
    unfold Frame.perform
    dsimp only
    split
    · exact fun active => (agreeing active).type _ text
    · exact agreeing

/-- By induction on all that is done. -/
theorem Agreeing.run (agreeing : f.Agreeing m) (visited : f.Visited base shown) (own : IsOwn base)
    (acts : List Act) (untouched : ∀ id, f.ShowsIn acts id "display" → id < base.elements.length) :
    (f.run acts).Agreeing (f.isObscured m acts) := by
  induction acts generalizing f shown m with
  | nil => exact agreeing
  | cons a acts ih =>
    exact ih (agreeing.perform visited own a fun id shows => untouched id (.inl shows)) (visited.perform own a)
      fun id shows => untouched id (.inr shows)

/-- **When the frames are shown.** Design mode is switched on on a page, and the user and the host do what they
like, except that the host does not override whether the overlay's own elements are displayed. While design mode
is on, the frame around the selected element is shown exactly if one is selected, and the frame around the element
that the pointer is over exactly if there is one and it is not obscured. It is whenever the pointer goes onto the
selected element and back: then the frame stays hidden, and the host hears nothing. -/
theorem frames_shown_iff {f : Frame} (off : f.isActive = false) (own : IsOwn f.overlay.page)
    (closed : f.overlay.page.IsClosed) (there : Page.body < f.overlay.page.elements.length) (acts : List Act)
    (untouched : ∀ id, f.enable.ShowsIn acts id "display" → id < f.overlay.page.elements.length)
    (on : (f.enable.run acts).isActive = true) :
    let o := (f.enable.run acts).overlay
    (o.isShown o.session.selection? ↔ o.session.selected?.isSome) ∧
      (o.isShown o.session.highlight? ↔ o.session.hovered?.isSome ∧ ¬ f.enable.isObscured false acts) ∧
      ∀ p q, o.session.selected? = some p → o.session.hovered? = some q → p ≠ q →
        o.visible? (some p) = some p → o.visible? (some q) = some q →
        let back := ((o.onMouseMove (some p)).1.onMouseMove (some q)).1
        back.session = o.session ∧ ¬ back.isShown back.session.highlight? ∧ back.sent = o.sent := by
  have enabled : f.enable.Visited f.overlay.page fun _ _ => False := .enabled off own closed there
  have agreeing : f.Agreeing false := fun active => absurd (off.symm.trans active) (by decide)
  have agrees := agreeing.enable.run enabled own acts untouched on
  intro o
  obtain ⟨h, highlight, first⟩ := agrees.highlight
  obtain ⟨s, selection, second⟩ := agrees.selection
  refine ⟨?_, ?_, fun p q chosen hovered ne there back => ?_⟩
  · rw [second.isShown selection]
  · rw [first.isShown highlight, Bool.and_eq_true, Bool.not_eq_true', Bool.not_eq_true]
  · have hidden := first.draw none
    rw [← highlight] at hidden
    rw [Overlay.onMouseMove_back chosen hovered ne there back]
    refine ⟨Overlay.drawHighlight_session o none, ?_, Overlay.drawHighlight_sent o none⟩
    dsimp only
    rw [Overlay.drawHighlight_session, Overlay.drawHighlight, hidden.isShown highlight]
    exact Bool.false_ne_true

/-- A page of two paragraphs. -/
def neighbours : Frame where
  overlay := { page := { elements := [
    { tag := "html", children := [.element Page.head, .element Page.body] }, { tag := "head" },
    { tag := "body", children := [.element 3, .element 4] },
    { tag := "p", attributes := [("id", "a")], children := [.text "One"] },
    { tag := "p", attributes := [("id", "b")], children := [.text "Two"] }] } }

/-- The first paragraph is selected, and the pointer goes to the second one and on to the first. -/
def crossing : List Act :=
  [.event { type := "click", target? := some 3 }, .event { type := "mousemove", target? := some 4 },
    .event { type := "mousemove", target? := some 3 }]

/-- After that, the first paragraph is displayed in another way, and the page scrolls. -/
def crossingAndScrolling : List Act :=
  crossing ++ [.message (.previewStyle "#a" [("display", "flex")]), .event { type := "scroll" }]

/-- Then both frames are shown, until the pointer goes to the first paragraph and back once more. -/
theorem neighbours_shown :
    let o := (neighbours.enable.run crossingAndScrolling).overlay
    o.isShown o.session.selection? ∧ o.isShown o.session.highlight? ∧
      ¬ (((o.onMouseMove (some 3)).1.onMouseMove (some 4)).1.isShown o.session.highlight?) := by
  have resolved : (neighbours.enable.run crossing).overlay.registry.resolve?
      (neighbours.enable.run crossing).overlay.page "#a" = some 3 := by decide +kernel
  have untouched : ∀ id, neighbours.enable.ShowsIn crossingAndScrolling id "display" → id < 5 := by
    rintro id (none | none | none | ⟨-, found, -⟩ | none | none)
    · exact none.elim
    · exact none.elim
    · exact none.elim
    · have same : id = 3 := Option.some.inj (found.symm.trans resolved)
      rw [same]
      decide
    · exact none.elim
    · exact none.elim
  have selected : (neighbours.enable.run crossingAndScrolling).overlay.session.selected? = some 3 := by
    decide +kernel
  have hovered : (neighbours.enable.run crossingAndScrolling).overlay.session.hovered? = some 4 := by
    decide +kernel
  obtain ⟨selection, highlight, back⟩ := frames_shown_iff (f := neighbours) rfl (List.forall_mem_nil _)
    (Page.isClosed_of_forall (by decide)) (by decide) crossingAndScrolling untouched (by decide +kernel)
  obtain ⟨session, hidden, -⟩ := back 3 4 selected hovered (by decide) (by decide +kernel) (by decide +kernel)
  refine ⟨selection.mpr (by rw [selected]; rfl), highlight.mpr ⟨by rw [hovered]; rfl, by decide +kernel⟩, ?_⟩
  rw [session] at hidden
  exact hidden

/-- When the pointer goes back to the second paragraph at once, it is over it as far as the overlay knows, but the
frame is hidden, and the host has heard nothing since the pointer got there first. -/
theorem neighbours_hidden :
    let o := (neighbours.enable.run (crossing ++ [.event { type := "mousemove", target? := some 4 }])).overlay
    o.session.hovered? = some 4 ∧ ¬ o.isShown o.session.highlight? ∧
      o.sent.length = (neighbours.enable.run (crossing.take 2)).overlay.sent.length := by
  decide +kernel

end Frame

end Retouch
