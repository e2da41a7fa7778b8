import Retouch.Proofs.Overlay.Covering

/-!
# The overlay stays in its place

Whatever the overlay does when it hears an event, and whatever the host asks it to do, it goes on covering
the page as before (`Covers.reactTo`, `Covers.applyPreview`, `Covers.clearPreview`, `Covers.select`,
`Covers.updateText`). To show styles adds to what was shown on an element, and nothing else does.
-/

namespace Retouch.Overlay.Covers

open Page (Leaves)

variable {base : Page Hook} {before : ElementId → Element} {shown : ElementId → String → Prop}
  {rs : List (Registration Hook)} {o : Overlay} {id : ElementId}

/-! ### Pointing and selecting -/

theorem unhover (covers : Covers base before shown rs o) : Covers base before shown rs o.unhover := by
  unfold Overlay.unhover
  split
  · exact covers
  · exact ((covers.remember none o.session.selected?).drawHighlight none).tell _

theorem hover (covers : Covers base before shown rs o) (id : ElementId) :
    Covers base before shown rs (o.hover id).1 := by
  have drawn := (covers.remember (some id) o.session.selected?).drawHighlight (some id)
  unfold Overlay.hover
  dsimp only
  split
  · exact drawn
  · rename_i taken
    exact (drawn.snapshot taken).1.tell _

theorem onMouseMove (covers : Covers base before shown rs o) (target? : Option ElementId) :
    Covers base before shown rs (o.onMouseMove target?).1 := by
  unfold Overlay.onMouseMove
  split
  · exact covers.unhover
  · split
    · exact covers.drawHighlight none
    · split
      · exact covers
      · exact covers.hover _

theorem select (covers : Covers base before shown rs o) (id : ElementId) (notify : Bool) :
    Covers base before shown rs (o.select id notify).1 := by
  have first : Covers base before shown rs (if o.session.textEdit?.any fun edit => edit.element != id
      then o.commitTextEdit else (o, .settled)).1 := by
    split
    · exact covers.commitTextEdit.1
    · exact covers
  unfold Overlay.select
  dsimp only
  generalize (if o.session.textEdit?.any fun edit => edit.element != id then o.commitTextEdit
    else (o, .settled)) = committed at first ⊢
  split
  · exact first
  · rename_i o₁ _ _
    have drawn := ((first.remember none (some id)).drawHighlight none).drawSelection (some id)
    split
    · exact drawn
    · split
      · exact drawn
      · rename_i taken
        exact (drawn.preciseSnapshot taken).1.tell _

theorem deselect (covers : Covers base before shown rs o) : Covers base before shown rs o.deselect := by
  unfold Overlay.deselect
  split
  · exact covers
  · exact ((covers.closeTextEdit.1.remember _ none).drawSelection none).tell _

theorem onClick (covers : Covers base before shown rs o) (target? : Option ElementId) :
    Covers base before shown rs (o.onClick target?).1 := by
  unfold Overlay.onClick
  split
  · exact covers
  · split
    · exact covers.deselect
    · exact covers.select _ true

/-! ### Editing a text -/

theorem startTextEdit (covers : Covers base before shown rs o) (id : ElementId) :
    Covers base before shown rs (o.startTextEdit id).1 := by
  have committed := covers.commitTextEdit
  unfold Overlay.startTextEdit
  generalize o.commitTextEdit = out at committed ⊢
  split
  · exact covers
  · split
    · exact committed.1
    · exact committed.1.openTextEdit committed.2 id

theorem onDoubleClick (covers : Covers base before shown rs o) (target? : Option ElementId) :
    Covers base before shown rs (o.onDoubleClick target?).1 := by
  unfold Overlay.onDoubleClick
  split
  · exact covers
  · rename_i id _
    have first : Covers base before shown rs (if o.session.selected? == some id then (o, .settled)
        else o.select id true).1 := by
      split
      · exact covers
      · exact covers.select id true
    dsimp only
    generalize (if o.session.selected? == some id then (o, Reaction.settled) else o.select id true) =
      selected at first ⊢
    split
    · exact first
    · exact first.startTextEdit id

theorem onKeyDown (covers : Covers base before shown rs o) (key : String) :
    Covers base before shown rs (o.onKeyDown key) := by
  unfold Overlay.onKeyDown
  split
  · exact covers
  · split
    · exact covers.closeTextEdit.1
    · exact covers.deselect

theorem onEditorKeyDown (covers : Covers base before shown rs o) (e : Event) :
    Covers base before shown rs (o.onEditorKeyDown e).1 := by
  unfold Overlay.onEditorKeyDown
  split
  · exact covers.commitTextEdit.1
  · split
    · exact covers.closeTextEdit.1
    · exact covers

/-- **Whatever is heard**, the overlay stays in its place. -/
theorem reactTo (covers : Covers base before shown rs o) (t : Trigger) (e : Event) :
    Covers base before shown rs (o.reactTo t e).1 := by
  cases t with
  | mouseMove => exact covers.onMouseMove e.target?
  | mouseLeave => exact covers.unhover
  | click => exact covers.onClick e.target?
  | doubleClick => exact covers.onDoubleClick e.target?
  | keyDown => exact covers.onKeyDown e.key
  | formKeyDown =>
    unfold Overlay.reactTo
    dsimp only
    split <;> exact covers
  | formFocus =>
    unfold Overlay.reactTo
    dsimp only
    split <;> exact covers
  | scroll => exact (covers.drawHighlight _).drawSelection _
  | editorKeyDown => exact covers.onEditorKeyDown e
  | editorBlur => exact covers.commitTextEdit.1

/-! ### Styles -/

/-- One of the page's elements is styled, or its look is given back. -/
theorem restyle (covers : Covers base before shown rs o) (id : ElementId) {f : Element → Element} {o' : Overlay}
    {before' : ElementId → Element} {shown' : ElementId → String → Prop}
    (page : o'.page = o.page.modify id f) (children : (f (o.page.element id)).children = (o.page.element id).children)
    (session : o'.session = { o.session with saved := o'.session.saved }) (number : o'.retired = o.retired)
    (saved : ∀ other, other ≠ id → Table.get? o'.session.saved other = Table.get? o.session.saved other)
    (others : ∀ other, other ≠ id → before' other = before other ∧ shown' other = shown other)
    (worn : id < base.elements.length → Worn (before' id) (o'.look id) (shown' id) (f (o.page.element id))) :
    Covers base before' shown' rs o' := by
  have sessionNumber : o'.sessionNumber = o.sessionNumber := congrArg List.length number
  refine ⟨covers.there, ?_, ?_, ?_, ?_, ?_, fun other within => ?_, ?_, ?_⟩
  · rw [session]
    exact covers.installed
  · rw [page, session]
    exact covers.hosts.modify children
  · rw [page, session]
    exact fun id mem => ⟨(covers.added id mem).1,
      Nat.lt_of_lt_of_eq (covers.added id mem).2 (Page.length_modify ..).symm⟩
  · rw [session]
    exact covers.distinct
  · rw [session]
    exact covers.input
  · by_cases eq : other = id
    · subst eq
      rw [page, Page.element_modify_self o.page (Nat.lt_of_lt_of_le within covers.hosts.longer)]
      exact worn within
    · obtain ⟨before, shown⟩ := others other eq
      have same : o'.page.element other = o.page.element other := by rw [page, Page.element_modify_ne o.page eq]
      have look : o'.look other = o.look other := by
        unfold Overlay.look
        rw [saved other eq, same]
      rw [look, same, before, shown]
      exact covers.worn other within
  · have editors : o'.editors = o.editors := by
      unfold Overlay.editors
      rw [session, sessionNumber]
    rw [page, editors]
    exact covers.registrations
  · rw [sessionNumber]
    exact covers.own

/-- Styles are shown on an element. -/
theorem showStyles (covers : Covers base before shown rs o) (id : ElementId) (styles : Table String String) :
    Covers base before (fun other name => shown other name ∨ other = id ∧ ∃ s ∈ styles, cssText s.1 = name) rs
      (o.showStyles id styles) := by
  have styled : Covers base before
      (fun other name => shown other name ∨ other = id ∧ ∃ s ∈ styles, cssText s.1 = name) rs
      (o.styled id styles) := by
    refine covers.restyle id rfl (dressed_resembles o id styles).children rfl rfl (fun other ne => ?_)
      (fun other ne => ⟨rfl, by simp [ne]⟩) fun within => ?_
    · exact (Table.get?_set ..).trans (if_neg (by simpa using ne))
    · have look : (o.styled id styles).look id = (o.shownOn id styles).2.1 := by
        unfold Overlay.look
        rw [show Table.get? (o.styled id styles).session.saved id = some (o.shownOn id styles).2.1 from
          (Table.get?_set ..).trans (if_pos (beq_self_eq_true _))]
        rfl
      have worn : Worn (before id) (o.shownOn id styles).2.1
          (fun name => shown id name ∨ id = id ∧ ∃ s ∈ styles, cssText s.1 = name) (o.shownOn id styles).1 :=
        (Worn.showProperties styles _ (covers.worn id within)).congr_shown fun name => by simp
      rw [look]
      unfold dressed
      split
      · exact worn.setClass _
      · exact worn
  rw [showStyles_eq]
  split
  · exact styled.drawSelection _
  · exact styled

/-- The look of an element is given back. -/
theorem restore (covers : Covers base before shown rs o) (id : ElementId) :
    Covers base before shown rs (o.restore id) := by
  cases there : Table.get? o.session.saved id with
  | none =>
    rw [Overlay.restore, there]
    exact covers
  | some look =>
    have restored : o.restore id = { o.modify id (restoreLook look) with
        session := { o.session with saved := Table.erase o.session.saved id } } := by
      rw [Overlay.restore, there]
    refine covers.restyle id (f := restoreLook look) (by rw [restored]; rfl)
      (restoreLook_resembles look _).children (by rw [restored]) (by rw [restored]; rfl)
      (fun other ne => (saved_restore o id other).trans (if_neg ne)) (fun _ _ => ⟨rfl, rfl⟩) fun within => ?_
    have worn := covers.worn id within
    have before : o.look id = look := by
      unfold Overlay.look
      rw [there]
      rfl
    have after : (o.restore id).look id = ownLook (restoreLook look (o.page.element id)) := by
      have whole := Nat.lt_of_lt_of_le within covers.hosts.longer
      unfold Overlay.look
      rw [saved_restore, if_pos rfl, restored]
      exact congrArg ownLook (Page.element_modify_self o.page whole _)
    rw [before] at worn
    rw [after]
    exact worn.restoreLook

theorem clearPreview (covers : Covers base before shown rs o) (selector? : Option String) :
    Covers base before shown rs (o.clearPreview selector?) := by
  unfold Overlay.clearPreview
  split
  · exact List.foldlRecOn (motive := Covers base before shown rs) _ _ covers fun o covers id _ =>
      covers.restore id
  · split
    · exact covers.restore _
    · exact covers

/-! ### Texts -/

theorem updateText (covers : Covers base before shown rs o) (selector text : String) :
    Covers base before shown rs (o.updateText selector text).1 := by
  unfold Overlay.updateText
  split
  · exact covers
  · exact covers.replaceDirectText _ text

/-- The user types in the open editor. -/
theorem type (covers : Covers base before shown rs o) {edit : TextEdit}
    (editing : o.session.textEdit? = some edit) (text : String) :
    Covers base before shown rs { o with page := o.page.setText edit.input text } :=
  covers.rearrange (covers.hosts.setText (covers.input edit editing) text) (.setText _ _ edit.input text)
    (Page.setText_rest o.page edit.input text).2.1

end Retouch.Overlay.Covers
