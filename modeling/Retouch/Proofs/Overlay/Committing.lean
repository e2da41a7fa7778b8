import Retouch.Proofs.Locate.Wording
import Retouch.Proofs.Overlay.Restoring
import Retouch.Proofs.Text

/-!
# Texts that are committed

A text that was typed into the editor goes to its element, and so does one that the host sets. The host
is told which text that is. The elements among the children stay, and the text is what the element's
direct text is from now on exactly if the element had no second text that is not blank
(`reported_text_iff`): the direct text is read from all texts in the element, and a new one is written to the
first of them that is not blank (`directText_replaceDirectText_iff`).
-/

namespace Retouch.Text

/-! ### Stripped texts -/

/-- Only blanks are stripped. -/
theorem filter_strip (t : Text) : (strip t).filter (!isBlank ·) = t.filter (!isBlank ·) := by
  obtain ⟨before, behind, whole, blankBefore, blankBehind⟩ := exists_strip t
  have gone {gap : Text} (blank : ∀ c ∈ gap, isBlank c = true) : gap.filter (!isBlank ·) = [] :=
    List.filter_eq_nil_iff.mpr fun c mem => by simp [blank c mem]
  conv_rhs => rw [whole, List.filter_append, List.filter_append, gone blankBefore, gone blankBehind]
  rw [List.nil_append, List.append_nil]

theorem isBlankText_iff_filter {t : Text} : isBlankText t = true ↔ t.filter (!isBlank ·) = [] := by
  simp [isBlankText, List.filter_eq_nil_iff]

/-- Blanks in front are stripped. -/
theorem strip_blanks_append {gap : Text} (blank : isBlankText gap = true) (t : Text) :
    strip (gap ++ t) = strip t := by
  unfold strip stripStart
  rw [List.dropWhile_append_of_pos (List.all_eq_true.mp blank)]

/-- So are blanks behind. -/
theorem strip_append_blanks {gap : Text} (blank : isBlankText gap = true) (t : Text) :
    strip (t ++ gap) = strip t := by
  have all := List.all_eq_true.mp blank
  have reversed : ∀ c ∈ gap.reverse, isBlank c = true := fun c mem => all c (List.mem_reverse.mp mem)
  unfold strip stripStart
  rw [List.dropWhile_append]
  split
  · rename_i empty
    rw [List.isEmpty_iff.mp empty, List.dropWhile_eq_nil_iff.mpr all]
  · unfold stripEnd
    rw [List.reverse_append, List.dropWhile_append_of_pos reversed]

/-- Blanks behind a text are all that may follow it, if it is to be stripped to the same. -/
theorem strip_append_eq_iff {t rest : Text} : strip (t ++ rest) = strip t ↔ isBlankText rest = true := by
  refine ⟨fun same => ?_, fun blank => strip_append_blanks blank t⟩
  have filled := congrArg (List.filter (!isBlank ·)) same
  rw [filter_strip, filter_strip, List.filter_append] at filled
  exact isBlankText_iff_filter.mpr (List.append_right_eq_self.mp filled)

end Retouch.Text

namespace Retouch.Element

open Retouch.Text

/-! ### A text replaced -/

/-- At most one of the texts that stand in the element itself is not blank. -/
def HasOneText (e : Element) : Prop := e.texts.countP (fun t => !isBlankText t.toList) ≤ 1

instance (e : Element) : Decidable e.HasOneText := inferInstanceAs (Decidable (_ ≤ _))

/-- What becomes of children when a text is replaced: all texts before it are blank. -/
theorem split_of_replaceFirstText? {new : String} {l l' : List Node}
    (replaced : replaceFirstText? new l = some l') :
    ∃ before t behind, l = before ++ .text t :: behind ∧ l' = before ++ .text new :: behind ∧
      isBlankText t.toList = false ∧ ∀ t' ∈ before.filterMap Node.text?, isBlankText t'.toList = true := by
  induction l generalizing l' with
  | nil => cases replaced
  | cons c l ih =>
    cases c with
    | text t =>
      rw [replaceFirstText?] at replaced
      split at replaced
      · rename_i blank
        obtain ⟨rest, later, rfl⟩ := Option.map_eq_some_iff.mp replaced
        obtain ⟨before, t', behind, rfl, rfl, filled, blanks⟩ := ih later
        exact ⟨.text t :: before, t', behind, rfl, rfl, filled, List.forall_mem_cons.mpr ⟨blank, blanks⟩⟩
      · rename_i filled
        cases replaced
        exact ⟨[], t, l, rfl, rfl, by simpa using filled, List.forall_mem_nil _⟩
    | element id =>
      rw [replaceFirstText?] at replaced
      obtain ⟨rest, later, rfl⟩ := Option.map_eq_some_iff.mp replaced
      obtain ⟨before, t', behind, rfl, rfl, filled, blanks⟩ := ih later
      exact ⟨.element id :: before, t', behind, rfl, rfl, filled, blanks⟩

/-- No text is replaced if all are blank. -/
theorem blank_of_replaceFirstText? {new : String} {l : List Node} (kept : replaceFirstText? new l = none) :
    ∀ t ∈ l.filterMap Node.text?, isBlankText t.toList = true := by
  induction l with
  | nil => exact List.forall_mem_nil _
  | cons c l ih =>
    cases c with
    | text t =>
      rw [replaceFirstText?] at kept
      split at kept
      · rename_i blank
        exact List.forall_mem_cons.mpr ⟨blank, ih (Option.map_eq_none_iff.mp kept)⟩
      · cases kept
    | element id =>
      rw [replaceFirstText?] at kept
      exact ih (Option.map_eq_none_iff.mp kept)

/-- **Elements stay**: a new direct text leaves the elements among the children, in their order. -/
theorem elements_replaceDirectText (e : Element) (new : String) :
    (e.replaceDirectText new).elements = e.elements := by
  unfold replaceDirectText elements
  cases replaced : replaceFirstText? new e.children with
  | none =>
    rw [Option.getD_none, List.filterMap_append]
    exact List.append_nil _
  | some l' =>
    obtain ⟨before, t, behind, whole, rfl, -⟩ := split_of_replaceFirstText? replaced
    rw [Option.getD_some, whole, List.filterMap_append, List.filterMap_append]
    rfl

/-- Texts that are all blank are joined to a blank text. -/
theorem isBlankText_join {ts : List String} :
    isBlankText (String.join ts).toList = true ↔ ∀ t ∈ ts, isBlankText t.toList = true := by
  rw [String.toList_join, isBlankText, List.all_flatMap, List.all_eq_true]
  rfl

/-- **What is written and what is read**: a new direct text is the direct text from now on exactly if no
second text in the element is left standing. -/
theorem directText_replaceDirectText_iff (e : Element) (new : String) :
    (e.replaceDirectText new).directText = stripString new ↔ e.HasOneText := by
  unfold directText stripString HasOneText replaceDirectText texts
  rw [String.ofList_inj]
  have nothing {ts : List String} (blank : ∀ t ∈ ts, isBlankText t.toList = true) :
      ts.countP (fun t => !isBlankText t.toList) = 0 :=
    List.countP_eq_zero.mpr fun t mem => by simp [blank t mem]
  cases replaced : replaceFirstText? new e.children with
  | none =>
    have blank := blank_of_replaceFirstText? replaced
    rw [Option.getD_none, List.filterMap_append, String.toList_join, List.flatMap_append,
      ← String.toList_join, strip_blanks_append (isBlankText_join.mpr blank), nothing blank]
    simp [Node.text?]
  | some l' =>
    obtain ⟨before, t, behind, whole, rfl, filled, blank⟩ := split_of_replaceFirstText? replaced
    have written : (String.join ((before ++ .text new :: behind).filterMap Node.text?)).toList =
        (String.join (before.filterMap Node.text?)).toList ++
          (new.toList ++ (String.join (behind.filterMap Node.text?)).toList) := by
      simp [String.toList_join, Node.text?]
    rw [Option.getD_some, written, strip_blanks_append (isBlankText_join.mpr blank), strip_append_eq_iff,
      isBlankText_join, whole, List.filterMap_append, List.countP_append, nothing blank, Nat.zero_add]
    have here : (Node.text t :: behind).filterMap Node.text? = t :: behind.filterMap Node.text? := rfl
    rw [here, List.countP_cons_of_pos (by simp [filled])]
    simp

end Retouch.Element

namespace Retouch

open Page (SameTree)

/-- The texts before and after, if a message tells that the user has edited a text. -/
def FrameMessage.edited? : FrameMessage → Option (String × String)
  | .textEdit _ oldText newText _ => some (oldText, newText)
  | _ => none

namespace Element

/-- An element has taken in a new text as far as it can. -/
structure Takes (e e' : Element) (new : String) : Prop where
  /-- The elements that it holds are the same, in the same order. -/
  elements : e'.elements = e.elements
  /-- It has the text, unless another one was left standing. -/
  directText : e'.directText = Text.stripString new ↔ e.HasOneText

/-- Only the children matter. -/
theorem takes_of_children {e e' : Element} {new : String}
    (children : e'.children = (e.replaceDirectText new).children) : Takes e e' new := by
  have elements : e'.elements = (e.replaceDirectText new).elements := congrArg (List.filterMap Node.element?) children
  have texts : e'.texts = (e.replaceDirectText new).texts := congrArg (List.filterMap Node.text?) children
  refine ⟨elements.trans (elements_replaceDirectText e new), ?_⟩
  rw [directText, texts]
  exact directText_replaceDirectText_iff e new

end Element

namespace Overlay

variable {o o' : Overlay} {edit : TextEdit}

/-! ### What leaves the tree alone -/

theorem draw_sameTree (o : Overlay) (frame? element? : Option ElementId) :
    SameTree o.page (o.draw frame? element?).page := by
  unfold draw
  split
  · exact .refl _
  · exact .modify _ rfl rfl
  · exact .modify _ rfl rfl

theorem snapshot_sameTree {id : ElementId} {s : Snapshot} (taken : o.snapshot id = .ok (o', s)) :
    SameTree o.page o'.page ∧ o'.session = o.session ∧ o'.retired = o.retired ∧ o'.sent = o.sent := by
  obtain ⟨position?, rfl, -⟩ := eq_of_snapshot taken
  exact ⟨.snapshot o.registry o.page id position?, rfl, rfl, rfl⟩

theorem preciseSnapshot_sameTree {id : ElementId} {s : Snapshot} (taken : o.preciseSnapshot id = .ok (o', s)) :
    SameTree o.page o'.page ∧ o'.session = o.session ∧ o'.retired = o.retired ∧ o'.sent = o.sent := by
  obtain ⟨s₁, first, -⟩ := snapshot_of_precise taken
  exact snapshot_sameTree first

/-! ### The editor closed -/

/-- A text is edited: its element is on the page and does not hold the frame of the editor, and the editor
holds texts only. -/
structure Edits (o : Overlay) (edit : TextEdit) : Prop where
  /-- It is being edited. -/
  editing : o.session.textEdit? = some edit
  /-- The element is on the page. -/
  within : edit.element < o.page.elements.length
  /-- The frame is somewhere else. -/
  apart : o.page.parent? edit.frame ≠ some edit.element
  /-- The editor holds no elements. -/
  bare : (o.page.element edit.input).elements = []

/-- What was typed into the editor, without the blanks around it. -/
def typed (o : Overlay) (edit : TextEdit) : String := Text.stripString (o.page.text edit.input)

/-- The editor is closed: its listeners are taken off, and its frame is taken away from its parent. -/
theorem closeTextEdit_eq (editing : o.session.textEdit? = some edit) :
    ∃ page : Page Hook, o.closeTextEdit =
        ({ o with page, session := { o.session with textEdit? := none } }, some edit) ∧
      page.elements.length = o.page.elements.length ∧
      ∀ id, o.page.parent? edit.frame ≠ some id → page.element id = o.page.element id := by
  let p := (editorListeners o.sessionNumber edit.input).foldl (fun p r => p.unlisten r) o.page
  have same : p.elements = o.page.elements :=
    List.foldlRecOn (motive := fun p : Page Hook => p.elements = o.page.elements) _ _ rfl fun _ same _ _ => same
  refine ⟨p.remove edit.frame, ?_, (Page.length_remove ..).trans (congrArg List.length same),
    fun id apart => Page.element_remove same apart⟩
  unfold closeTextEdit
  rw [editing]

/-- What was typed is what the editor holds. -/
theorem typed_eq (bare : (o.page.element edit.input).elements = []) {p : Page Hook}
    (same : p.element edit.input = o.page.element edit.input) :
    Text.stripString (p.text edit.input) = o.typed edit := by
  rw [typed, Page.text_of_bare (same ▸ bare), Page.text_of_bare bare, same]

/-- Neither the element nor the editor is changed when the editor is closed. -/
theorem Edits.closeTextEdit (edits : Edits o edit) :
    ∃ page : Page Hook, o.closeTextEdit =
        ({ o with page, session := { o.session with textEdit? := none } }, some edit) ∧
      page.elements.length = o.page.elements.length ∧
      page.element edit.element = o.page.element edit.element ∧
      page.element edit.input = o.page.element edit.input := by
  obtain ⟨page, closed, length, elements⟩ := closeTextEdit_eq edits.editing
  exact ⟨page, closed, length, elements _ edits.apart, elements _ (Page.parent?_ne_of_bare edits.bare _)⟩

/-! ### Texts told -/

/-- **A text that is committed**: if it is what it was, nothing is changed or told. Otherwise the element
takes it in and the host is told, unless the position of the element is of no use. -/
theorem Edits.commitTextEdit (edits : Edits o edit) :
    let o' := o.commitTextEdit.1
    (o.typed edit = edit.oldText → o'.sent = o.sent ∧
      o'.page.element edit.element = o.page.element edit.element) ∧
    (o.typed edit ≠ edit.oldText →
      (o.page.element edit.element).Takes (o'.page.element edit.element) (o.typed edit) ∧
      ((∃ f, o.commitTextEdit.2 = .failed f ∧ o'.sent = o.sent) ∨
        ∃ selector position?, o.commitTextEdit.2 = .settled ∧
          o'.sent = o.sent ++ [.textEdit selector edit.oldText (o.typed edit) position?])) := by
  obtain ⟨page, closed, length, element, input⟩ := edits.closeTextEdit
  have text := typed_eq edits.bare input
  unfold Overlay.commitTextEdit
  rw [closed]
  dsimp only
  rw [text]
  by_cases unchanged : o.typed edit = edit.oldText
  · rw [if_pos (by simpa using unchanged)]
    exact ⟨fun _ => ⟨rfl, element⟩, fun changed => absurd unchanged changed⟩
  · rw [if_neg (by simpa using unchanged)]
    refine ⟨fun same => absurd same unchanged, fun _ => ?_⟩
    have within : edit.element < page.elements.length := length ▸ edits.within
    have written : ((page.modify edit.element (·.replaceDirectText (o.typed edit))).element edit.element) =
        (o.page.element edit.element).replaceDirectText (o.typed edit) := by
      rw [Page.element_modify_self page within, element]
    generalize worded : Overlay.modify _ edit.element _ = o₁
    have page₁ : o₁.page = page.modify edit.element (·.replaceDirectText (o.typed edit)) := by rw [← worded]; rfl
    have sent₁ : o₁.sent = o.sent := by rw [← worded]; rfl
    rw [← page₁] at written
    cases taken : o₁.preciseSnapshot edit.element with
    | error f =>
      exact ⟨Element.takes_of_children (congrArg Element.children written), .inl ⟨f, rfl, sent₁⟩⟩
    | ok out =>
      obtain ⟨o₂, s⟩ := out
      obtain ⟨same, -, -, sent⟩ := preciseSnapshot_sameTree taken
      have drawn := same.trans (draw_sameTree o₂ o₂.session.selection? o₂.session.selected?)
      refine ⟨Element.takes_of_children ?_, .inr ⟨s.selector, s.position?, rfl, ?_⟩⟩
      · exact (drawn.element edit.element).trans (congrArg Element.children written)
      · show (o₂.drawSelection _).sent ++ _ = _
        rw [drawSelection_sent, sent, sent₁]

end Overlay

namespace Frame

open Page (isTextEditable)

/-- **A text that the host sets**, on an element that has one: the element takes it in, and the host is
told. -/
theorem obey_updateText_takes {f : Frame} (active : f.isActive = true) {selector : String} (text : String)
    {id : ElementId}
    (found : f.overlay.registry.resolve? f.overlay.page selector = some id)
    (editable : isTextEditable (f.overlay.page.element id) = true) :
    let f' := (f.obey (.updateText selector text)).1
    (f.overlay.page.element id).Takes (f'.overlay.page.element id) text ∧
      f'.overlay.sent = f.overlay.sent ++ [.textEdited selector (f.overlay.page.element id).directText text] := by
  have within : id < f.overlay.page.elements.length := by
    by_contra beyond
    have missing : f.overlay.page.element id = { tag := "" } := by
      rw [Page.element, List.getElem?_eq_none (Nat.le_of_not_lt beyond)]
      rfl
    rw [missing] at editable
    exact absurd editable (by decide)
  unfold obey
  simp only [active, Bool.not_true, Bool.false_eq_true, if_false, Overlay.updateText, found,
    Option.filter_some, editable, if_true]
  refine ⟨Element.takes_of_children (congrArg Element.children ?_), rfl⟩
  exact Page.element_modify_self f.overlay.page within _

/-- **Texts that are reported**: an edited text that is committed and a text that the host sets go to the
element, whose other elements stay in their order. The text that is reported is the direct text from now on
exactly if the element had at most one text that is not blank. -/
theorem reported_text_iff (f : Frame) :
    (∀ edit : TextEdit, f.overlay.Edits edit → f.overlay.typed edit ≠ edit.oldText →
      let o' := f.overlay.commitTextEdit.1
      let e := f.overlay.page.element edit.element
      let e' := o'.page.element edit.element
      e'.elements = e.elements ∧ (e'.directText = f.overlay.typed edit ↔ e.HasOneText) ∧
        ((∃ fault, f.overlay.commitTextEdit.2 = .failed fault ∧ o'.sent = f.overlay.sent) ∨
          ∃ selector position?, o'.sent =
            f.overlay.sent ++ [.textEdit selector edit.oldText (f.overlay.typed edit) position?])) ∧
    ∀ (selector text : String) (id : ElementId), f.isActive = true →
      f.overlay.registry.resolve? f.overlay.page selector = some id →
      isTextEditable (f.overlay.page.element id) = true →
      let f' := (f.obey (.updateText selector text)).1
      let e := f.overlay.page.element id
      let e' := f'.overlay.page.element id
      e'.elements = e.elements ∧ (e'.directText = Text.stripString text ↔ e.HasOneText) ∧
        f'.overlay.sent = f.overlay.sent ++ [.textEdited selector e.directText text] := by
  constructor
  · intro edit edits changed
    obtain ⟨⟨elements, directText⟩, told⟩ := edits.commitTextEdit.2 changed
    have stripped : Text.stripString (f.overlay.typed edit) = f.overlay.typed edit := by
      unfold Overlay.typed Text.stripString
      rw [String.toList_ofList, Text.strip_strip]
    rw [stripped] at directText
    exact ⟨elements, directText, told.imp_right fun ⟨selector, position?, _, sent⟩ => ⟨selector, position?, sent⟩⟩
  · intro selector text id active found editable
    obtain ⟨⟨elements, directText⟩, sent⟩ := obey_updateText_takes active text found editable
    exact ⟨elements, directText, sent⟩

/-- A frame with a page of one paragraph, which holds a word in bold, and a text behind it. -/
def sentence (behind : String) : Frame where
  overlay := { page := { elements := [
    { tag := "html", children := [.element Page.head, .element Page.body] }, { tag := "head" },
    { tag := "body", children := [.element 3] },
    { tag := "p", attributes := [("data-liveedit-id", "one")],
      children := [.text "Hello ", .element 4, .text behind] },
    { tag := "b", children := [.text "big"] }] } }

/-- The paragraph is edited, and a text is typed. -/
def typing : List Act := [.event { type := "dblclick", target? := some 3 }, .type " Hi "]

/-- Where only blanks are behind the word, the paragraph has the text that is typed, or set by the host. -/
theorem sentence_takes :
    let o := ((sentence " ").enable.run typing).overlay
    let f := ((sentence " ").enable.obey (.updateText "[data-liveedit-id=\"one\"]" " Hi ")).1
    (o.commitTextEdit.1.page.element 3).directText = "Hi" ∧ (f.overlay.page.element 3).directText = "Hi" := by
  obtain ⟨committed, -⟩ := reported_text_iff ((sentence " ").enable.run typing)
  obtain ⟨-, updated⟩ := reported_text_iff (sentence " ").enable
  have edits : ((sentence " ").enable.run typing).overlay.Edits ⟨3, 8, 9, "Hello"⟩ :=
    ⟨by decide +kernel, by decide +kernel, by decide +kernel, by decide +kernel⟩
  have typed : ((sentence " ").enable.run typing).overlay.typed ⟨3, 8, 9, "Hello"⟩ = "Hi" := by decide +kernel
  obtain ⟨-, written, -⟩ := committed _ edits (by rw [typed]; decide)
  obtain ⟨-, set, -⟩ := updated "[data-liveedit-id=\"one\"]" " Hi " 3 rfl (by decide +kernel)
    (by decide +kernel)
  rw [typed] at written
  exact ⟨written.mpr (by decide +kernel), set.mpr (by decide +kernel)⟩

/-- Another text behind the word is left standing: the host is told that the paragraph's text is the one that
was typed, but it is not. -/
theorem sentence_keeps_rest :
    let o := ((sentence " world").enable.run typing).overlay.commitTextEdit.1
    o.sent.getLast?.bind FrameMessage.edited? = some ("Hello  world", "Hi") ∧
      (o.page.element 3).directText = "Hi world" := by
  decide +kernel

end Frame

end Retouch
