import Retouch.Proofs.Overlay.Editing

/-!
# Edits from beginning to end

Design mode is switched on, and the user and the host do what they like. Meanwhile the edits that are started and
those that end are noted (`Frame.edits`). While design mode is on, there is one frame for a text on the page while
a text is edited, and none otherwise (`Furnished.isTextFrame_iff`). An edit is told to the host once at most, and
only if a text was committed that differs from the old one (`Frame.edits_in_step`).
-/

namespace Retouch

namespace Overlay

variable {o : Overlay} {base : Page Hook} {before : ElementId → Element} {shown : ElementId → String → Prop}
  {rs : List (Registration Hook)}

/-! ### Putting the overlay on and taking it off -/

/-- When the overlay is put on, there is what it adds, and nothing is told of edits. -/
theorem Furnished.install (new : o.session = {}) (closed : o.page.IsClosed)
    (there : Page.body < o.page.elements.length) :
    Furnished o.install ∧ o.install.session.textEdit? = none ∧
      o.page.elements.length ≤ o.install.page.elements.length ∧ o.install.told = o.told := by
  have there₁ : Page.body < (withSheet o.page).elements.length := Nat.lt_trans there (Page.lt_length_add ..)
  have there₂ : Page.body < (withHighlight o.page).elements.length := Nat.lt_trans there₁ (Page.lt_length_add ..)
  have first : o.page.elements.length < (withSheet o.page).elements.length := Page.lt_length_add ..
  have second : (withSheet o.page).elements.length < (withHighlight o.page).elements.length := Page.lt_length_add ..
  obtain ⟨closed₁, -, new₁, -, -⟩ := Page.element_add closed bare_sheet
    (Nat.lt_trans (by decide : Page.head < Page.body) there)
  obtain ⟨closed₂, -, new₂, -, old₂⟩ := Page.element_add closed₁ bare_highlightFrame there₁
  obtain ⟨-, -, new₃, -, old₃⟩ := Page.element_add closed₂ bare_selectionFrame there₂
  -- neither listeners nor the cursor of the body matter to what is added
  have element {id : ElementId} (ne : id ≠ Page.body) :
      o.install.page.element id = (withSelection o.page).element id := by
    rw [install_eq new, ← Page.element_congr (Page.elements_listen (pageListeners o.sessionNumber)
      (withSelection o.page)) id]
    exact Page.element_modify_ne _ ne _
  have idle : o.install.session.textEdit? = none := by
    rw [install_eq new]
    rfl
  have chrome : o.install.session.chrome = [o.page.elements.length, (withSheet o.page).elements.length,
      (withHighlight o.page).elements.length] := by
    rw [install_eq new]
    rfl
  have longer : o.page.elements.length ≤ o.install.page.elements.length := by
    rw [length_install new]
    exact (leaves_withSelection (Nat.le_refl _)).longer
  refine ⟨⟨?_, fun edit editing => ?_, fun edit editing => ?_⟩, idle, longer,
    congrArg (List.filterMap FrameMessage.edited?) (congrArg Overlay.sent (install_eq new) :)⟩
  · have added {id : ElementId} {e : Element} (apart : Page.body < id) (is : (withSelection o.page).element id = e)
        (bare : e.elements = []) (unnamed : e.id ≠ textFrameId) : Plain o.install.page id := by
      have is := (element (Nat.ne_of_gt apart)).trans is
      exact ⟨is ▸ bare, is ▸ unnamed⟩
    have old : (withSelection o.page).element o.page.elements.length = sheet :=
      (old₃ _ (Nat.lt_trans first second) (Nat.ne_of_gt there)).trans ((old₂ _ first (Nat.ne_of_gt there)).trans new₁)
    rw [chrome]
    exact List.forall_mem_cons.mpr ⟨added there old rfl (by decide +kernel), List.forall_mem_cons.mpr
      ⟨added there₁ ((old₃ _ second (Nat.ne_of_gt there₁)).trans new₂) rfl (by decide +kernel),
        List.forall_mem_singleton.mpr (added there₂ new₃ rfl (by decide +kernel))⟩⟩
  · cases idle.symm.trans editing
  · cases idle.symm.trans editing

theorem dropElement_rest (o : Overlay) (id? : Option ElementId) :
    (o.dropElement id?).page.elements.length = o.page.elements.length ∧ (o.dropElement id?).told = o.told := by
  cases id? with
  | none => exact ⟨rfl, rfl⟩
  | some id => exact ⟨Page.length_remove .., rfl⟩

/-- When the overlay is taken off, nothing is told of edits. -/
theorem teardown_rest (o : Overlay) :
    o.teardown.page.elements.length = o.page.elements.length ∧ o.teardown.told = o.told := by
  have muted : o.muted.page.elements = o.page.elements :=
    List.foldlRecOn (motive := fun p : Page Hook => p.elements = o.page.elements) _ _ rfl fun _ same _ _ => same
  obtain ⟨length₁, told₁, -⟩ := closeTextEdit_rest o.muted
  have cleared : Quiet o.muted.closeTextEdit.1 o.cleared := .clearPreview _ none
  have stripped : o.cleared.stripped.page.elements.length = o.cleared.page.elements.length ∧
      o.cleared.stripped.told = o.cleared.told := by
    obtain ⟨length₃, told₃⟩ := dropElement_rest o.cleared o.cleared.session.highlight?
    obtain ⟨length₄, told₄⟩ := dropElement_rest (o.cleared.dropElement o.cleared.session.highlight?)
      o.cleared.session.selection?
    obtain ⟨length₅, told₅⟩ := dropElement_rest ((o.cleared.dropElement o.cleared.session.highlight?).dropElement
      o.cleared.session.selection?) o.cleared.session.sheet?
    exact ⟨length₅.trans (length₄.trans length₃), told₅.trans (told₄.trans told₃)⟩
  unfold Overlay.teardown
  split
  · exact ⟨rfl, rfl⟩
  · refine ⟨(Page.length_modify ..).trans (stripped.1.trans (cleared.length.trans ?_)),
      stripped.2.trans (cleared.told.trans told₁)⟩
    exact length₁.trans (congrArg List.length muted)

/-! ### What there is on the page -/

/-- An element that can be reached from the root is a frame for a text. -/
def IsTextFrame (o : Overlay) (id : ElementId) : Prop :=
  id ∈ o.page.connected ∧ (o.page.element id).id = textFrameId

instance (o : Overlay) (id : ElementId) : Decidable (o.IsTextFrame id) := inferInstanceAs (Decidable (_ ∧ _))

/-- Under the overlay, the page's own elements have the ids that they had. -/
theorem Covers.id_eq (covers : Covers base (crossed base) shown rs o) {id : ElementId}
    (within : id < base.elements.length) : (o.page.element id).id = (base.element id).id := by
  have same := (covers.worn id within).attributes "id" (by decide) (by decide)
  have crossed : (crossed base id).attribute? "id" = (base.element id).attribute? "id" := by
    unfold Overlay.crossed
    by_cases isBody : id = Page.body
    · rw [isBody, Function.update_self]
      rfl
    · rw [Function.update_of_ne isBody]
  exact congrArg (·.getD "") (same.trans crossed)

/-- What the overlay has added is what a text is edited in and the rest. -/
theorem mem_added_iff {s : OverlaySession} {id : ElementId} :
    id ∈ s.added ↔ id ∈ s.chrome ∨ ∃ edit, s.textEdit? = some edit ∧ edit.frame = id := by
  unfold OverlaySession.added OverlaySession.bodyGuests OverlaySession.chrome
  simp [or_assoc]

/-- Guests are what was added. -/
theorem mem_added_of_mem_guests {s : OverlaySession} {id child : ElementId} (mem : child ∈ s.guests id) :
    child ∈ s.added := by
  unfold OverlaySession.guests at mem
  unfold OverlaySession.added
  split at mem
  · exact List.mem_append_left _ mem
  · split at mem
    · exact List.mem_append_right _ mem
    · cases mem

/-- **What can be reached** is the page's own, or was added by the overlay. -/
theorem Furnished.reached (furnished : Furnished o) (covers : Covers base before shown rs o)
    (there : Page.root < base.elements.length) {id : ElementId} (mem : id ∈ o.page.connected) :
    id < base.elements.length ∨ id ∈ o.session.chrome ∨
      ∃ edit, o.session.textEdit? = some edit ∧ (edit.frame = id ∨ edit.input = id) := by
  refine Page.mem_subtreeWithin (S := fun id => id < base.elements.length ∨ id ∈ o.session.chrome ∨
    ∃ edit, o.session.textEdit? = some edit ∧ (edit.frame = id ∨ edit.input = id)) ?_ _ (.inl there) mem
  rintro id (within | chrome | ⟨edit, editing, rfl | rfl⟩) child held
  · by_cases own : child < base.elements.length
    · exact .inl own
    · have guest : child ∈ o.session.guests id := by
        refine (covers.hosts.mem_children_iff (Nat.le_of_not_lt own) within).mp ?_
        exact Element.mem_elements_iff.mp held
      obtain chrome | ⟨edit, editing, frame⟩ := mem_added_iff.mp (mem_added_of_mem_guests guest)
      · exact .inr (.inl chrome)
      · exact .inr (.inr ⟨edit, editing, .inl frame⟩)
  · rw [(furnished.chrome id chrome).bare] at held
    cases held
  · rw [(furnished.editor edit editing).holds] at held
    exact .inr (.inr ⟨edit, editing, .inr (List.mem_singleton.mp held).symm⟩)
  · rw [(furnished.editor edit editing).input.bare] at held
    cases held

/-- **There is a frame for a text exactly if a text is edited**, and it is the one of that edit. -/
theorem Furnished.isTextFrame_iff (furnished : Furnished o) (covers : Covers base (crossed base) shown rs o)
    (bodied : Page.body ∈ (base.element Page.root).elements)
    (unnamed : ∀ id < base.elements.length, (base.element id).id ≠ textFrameId) (id : ElementId) :
    o.IsTextFrame id ↔ ∃ edit, o.session.textEdit? = some edit ∧ edit.frame = id := by
  have there : Page.root < base.elements.length := Nat.lt_trans (by decide) covers.there
  constructor
  · rintro ⟨reached, named⟩
    obtain own | chrome | ⟨edit, editing, frame | rfl⟩ := furnished.reached covers there reached
    · exact absurd ((covers.id_eq own).symm.trans named) (unnamed id own)
    · exact absurd named (furnished.chrome id chrome).unnamed
    · exact ⟨edit, editing, frame⟩
    · exact absurd named (furnished.editor edit editing).input.unnamed
  · rintro ⟨edit, editing, rfl⟩
    refine ⟨?_, (furnished.editor edit editing).named⟩
    have body : Page.body ∈ (o.page.element Page.root).elements :=
      Element.mem_elements_iff.mpr (covers.hosts.mem_children there (Element.mem_elements_iff.mp bodied))
    have frame : edit.frame ∈ (o.page.element Page.body).elements := by
      have added : edit.frame ∈ o.session.added := mem_added_iff.mpr (.inr ⟨edit, editing, rfl⟩)
      have guest : edit.frame ∈ o.session.guests Page.body := by
        show edit.frame ∈ o.session.bodyGuests
        unfold OverlaySession.bodyGuests
        rw [editing]
        exact List.mem_append_right _ (List.mem_singleton_self _)
      exact Element.mem_elements_iff.mpr
        ((covers.hosts.mem_children_iff (covers.added _ added).1 covers.there).mpr guest)
    obtain ⟨n, deep⟩ : ∃ n, o.page.elements.length = n + 1 + 1 :=
      ⟨_, (Nat.sub_add_cancel (Nat.lt_of_lt_of_le covers.there covers.hosts.longer)).symm⟩
    unfold Page.connected
    rw [deep]
    exact Page.mem_subtreeWithin_of_child body (Page.mem_subtreeWithin_of_child frame
      (Page.mem_subtreeWithin_self _ n _))

end Overlay

/-! ### Whatever is done -/

namespace Frame

open Overlay (Booked Covers Furnished IsOwn Proceeds Quiet Uncovered noteEdits pageListeners reactor textFrameId)

/-- The edit that ends when the host sends a message; without design mode, none does. -/
def endedBy? (f : Frame) (m : HostMessage) : Option EndedEdit :=
  if f.isActive then f.overlay.endedFor? m else none

/-- The edits, after one more thing is done. -/
def editsBy (f : Frame) (log : EditLog) : Act → EditLog
  | .event e => ((reactor.noting noteEdits).dispatch e (f.overlay, log)).world.2
  | .focus id => ((reactor.noting noteEdits).focus id (f.overlay, log)).1.2
  | .blur id => ((reactor.noting noteEdits).blur id (f.overlay, log)).1.2
  | .type _ => log
  | .message m => log.note f.overlay (f.obey m).1.overlay (f.endedBy? m)

/-- The edits, after all that is done. -/
def edits : Frame → EditLog → List Act → EditLog
  | _, log, [] => log
  | f, log, a :: acts => edits (f.perform a) (f.editsBy log a) acts

variable {base : Page Hook} {shown : ElementId → String → Prop} {f : Frame} {told : List (String × String)}
  {log : EditLog}

/-- While design mode is on, what belongs to an edit is there; at all times, the edits are noted. -/
structure Editing (told : List (String × String)) (f : Frame) (log : EditLog) : Prop where
  /-- What belongs to an edit is there. -/
  furnished : f.isActive = true → Furnished f.overlay
  /-- The edits are noted. -/
  booked : Booked told f.overlay log

/-- Without the overlay, no edits are noted. -/
theorem stands_off (own : IsOwn base) (look : ElementId → Element) (told : List (String × String)) :
    (reactor.noting noteEdits).Stands (fun _ => False) fun w =>
      (w.1.session.textEdit? = none ∧ Uncovered base look shown w.1.page) ∧ Booked told w.1 w.2 where
  registered w holds := (Uncovered.stands look shown own).registered w.1 holds.1
  react _ _ _ none := none.elim
  heard w holds heard :=
    ⟨(Uncovered.stands look shown own).heard w.1 holds.1 heard, holds.2.quiet (.listen w.1 w.1.page.active? heard)⟩
  active w holds active? :=
    ⟨(Uncovered.stands look shown own).active w.1 holds.1 active?, holds.2.quiet (.listen w.1 active? w.1.page.heard)⟩

/-- Design mode is switched on: no text is edited. -/
theorem enable_edits (visited : f.Visited base shown) (furnished : f.isActive = true → Furnished f.overlay) :
    Furnished f.enable.overlay ∧ Proceeds f.overlay f.enable.overlay none := by
  unfold Frame.enable
  cases visited with
  | on active covers =>
    rw [if_pos active]
    exact ⟨furnished active, .of_quiet (.refl _)⟩
  | off inactive idle uncovered =>
    rw [if_neg (by simp [inactive])]
    obtain ⟨there, hosts, -⟩ := uncovered
    obtain ⟨furnished, unedited, longer, told⟩ := Furnished.install (o := f.overlay.renew) rfl hosts.closed
      (Nat.lt_of_lt_of_le there hosts.longer)
    exact ⟨furnished, longer, .inl ⟨rfl, unedited.trans idle.symm⟩, [], .nil, told.trans (List.append_nil _).symm⟩

/-- Design mode is switched off: an edit is given up. -/
theorem disable_edits (visited : f.Visited base shown) (own : IsOwn base) (active : f.isActive = true) :
    Proceeds f.overlay f.disable.overlay f.overlay.givenUp? := by
  obtain ⟨length, told⟩ := Overlay.teardown_rest f.overlay
  obtain ⟨after, inactive⟩ := visited.disable own
  have idle : f.disable.overlay.session.textEdit? = none := by
    cases after with
    | on active => cases inactive.symm.trans active
    | off _ idle => exact idle
  have disabled : f.disable.overlay = f.overlay.teardown := by
    unfold Frame.disable
    rw [if_pos active]
  rw [disabled] at idle ⊢
  exact .silent (Overlay.edit_givenUp? _) idle (Nat.le_of_eq length.symm) told

theorem quiet_updateText (active : f.isActive = true) (selector text : String) :
    Quiet f.overlay (f.obey (.updateText selector text)).1.overlay := by
  have quiet := Quiet.updateText f.overlay selector text
  unfold Frame.obey
  simp only [active]
  generalize f.overlay.updateText selector text = out at quiet ⊢
  obtain ⟨o, texts?⟩ := out
  cases texts? with
  | none => exact quiet
  | some texts => exact quiet.trans (.tell o rfl)

/-- **A message of the host** is obeyed. -/
theorem Editing.obey (editing : f.Editing told log) (visited : f.Visited base shown) (own : IsOwn base)
    (m : HostMessage) : (f.obey m).1.Editing told (log.note f.overlay (f.obey m).1.overlay (f.endedBy? m)) := by
  suffices after : ((f.obey m).1.isActive = true → Furnished (f.obey m).1.overlay) ∧
      Proceeds f.overlay (f.obey m).1.overlay (f.endedBy? m) from ⟨after.1, editing.booked.note after.2⟩
  by_cases enables : m = .enable
  · subst enables
    obtain ⟨furnished, proceeds⟩ := enable_edits visited editing.furnished
    refine ⟨fun _ => furnished, ?_⟩
    unfold Frame.endedBy?
    split <;> exact proceeds
  · by_cases active : f.isActive = true
    · have furnished := editing.furnished active
      have ends : f.endedBy? m = f.overlay.endedFor? m := if_pos active
      rw [ends]
      have still {f' : Frame} (quiet : Quiet f.overlay f'.overlay) :
          (f'.isActive = true → Furnished f'.overlay) ∧ Proceeds f.overlay f'.overlay none :=
        ⟨fun _ => furnished.quiet quiet, .of_quiet quiet⟩
      cases m with
      | enable => exact absurd rfl enables
      | disable =>
        have off := (visited.disable own).2
        exact ⟨fun on => absurd (on.symm.trans off) (by decide), disable_edits visited own active⟩
      | previewStyle selector styles =>
        rw [obey_previewStyle active]
        refine still ?_
        unfold Overlay.applyPreview
        dsimp only
        split
        · exact .refl _
        · exact .showStyles ..
      | clearPreview selector? =>
        rw [obey_clearPreview active]
        exact still (.clearPreview ..)
      | selectElement selector =>
        show _ ∧ Proceeds _ _ ((f.overlay.registry.resolve? f.overlay.page selector).bind f.overlay.leftFor?)
        cases found : f.overlay.registry.resolve? f.overlay.page selector with
        | none =>
          rw [obey_selectElement_of_missing active found]
          exact still (.refl _)
        | some id =>
          rw [obey_selectElement active found]
          obtain ⟨selected, proceeds, -⟩ := furnished.select id false
          exact ⟨fun _ => selected, proceeds⟩
      | updateText selector text => exact still (quiet_updateText active selector text)
    · have inactive : f.isActive = false := by simpa using active
      have ends : f.endedBy? m = none := if_neg active
      rw [obey_of_inactive inactive enables, ends]
      exact ⟨editing.furnished, .of_quiet (.refl _)⟩

/-- What is heard is noted. -/
theorem Editing.hear (visited : f.Visited base shown) (own : IsOwn base) (editing : f.Editing told log)
    {o : Overlay} {w : Overlay × EditLog} (same : o = w.1)
    (heard : ∀ P : Overlay × EditLog → Prop, P (f.overlay, log) →
      (∃ isKind, (reactor.noting noteEdits).Stands isKind P) → P w) :
    ({ f with overlay := o } : Frame).Editing told w.2 := by
  subst same
  cases visited with
  | on active covers =>
    obtain ⟨-, furnished, booked⟩ := heard _ ⟨covers, editing.furnished active, editing.booked⟩
      ⟨_, Booked.stands base _ shown _ told⟩
    exact ⟨fun _ => furnished, booked⟩
  | off inactive idle uncovered =>
    obtain ⟨-, booked⟩ := heard _ ⟨⟨idle, uncovered⟩, editing.booked⟩ ⟨_, stands_off own _ told⟩
    exact ⟨fun active => absurd (inactive.symm.trans active) (by decide), booked⟩

/-- **Whatever is done with a frame**, the edits are noted. -/
theorem Editing.perform (editing : f.Editing told log) (visited : f.Visited base shown) (own : IsOwn base) (a : Act) :
    (f.perform a).Editing told (f.editsBy log a) := by
  have views := reactor.views_noting noteEdits
  cases a with
  | message m => exact editing.obey visited own m
  | event e =>
    exact editing.hear visited own (congrArg Course.world (views.dispatch e (f.overlay, log)))
      fun P holds ⟨_, stands⟩ => stands.dispatch holds e
  | focus id =>
    exact editing.hear visited own (congrArg Prod.fst (views.focus id (f.overlay, log)))
      fun P holds ⟨_, stands⟩ => stands.focus holds id
  | blur id =>
    exact editing.hear visited own (congrArg Prod.fst (views.blur id (f.overlay, log)))
      fun P holds ⟨_, stands⟩ => stands.blur holds id
  | type text =>
    unfold Frame.perform
    dsimp only
    split
    · rename_i edit going
      cases visited with
      | off _ idle => cases idle.symm.trans going
      | on active covers =>
        have furnished := editing.furnished active
        have quiet := Quiet.type (furnished.editor edit going).input.bare text
        exact ⟨fun _ => furnished.quiet quiet, editing.booked.quiet quiet⟩
    · exact editing

/-- By induction on all that is done. -/
theorem Editing.run (editing : f.Editing told log) (visited : f.Visited base shown) (own : IsOwn base)
    (acts : List Act) : (f.run acts).Editing told (f.edits log acts) := by
  induction acts generalizing f shown log with
  | nil => exact editing
  | cons a acts ih => exact ih (editing.perform visited own a) (visited.perform own a)

/-- **Edits from beginning to end.** Design mode is switched on on a page on which no element has the id of a frame
for a text, and the user and the host do what they like. While design mode is on, there is such a frame exactly if a
text is edited, and there is never a second one; the element that is edited is the selected one. The edits that were
started, one after the other, are those that have ended and the one that goes on, and what the host is told of edited
texts is told of them in this order: nothing of an edit that was given up or whose text is what it was, and a text
that was committed once at most. -/
theorem edits_in_step {f : Frame} (off : f.isActive = false) (own : IsOwn f.overlay.page)
    (closed : f.overlay.page.IsClosed) (there : Page.body < f.overlay.page.elements.length)
    (bodied : Page.body ∈ (f.overlay.page.element Page.root).elements)
    (unnamed : ∀ id < f.overlay.page.elements.length, (f.overlay.page.element id).id ≠ textFrameId)
    (acts : List Act) :
    let o := (f.enable.run acts).overlay
    let log := f.enable.edits {} acts
    ((f.enable.run acts).isActive = true →
      ((∃ id, o.IsTextFrame id) ↔ o.session.mode = .editingText) ∧
      (∀ id id', o.IsTextFrame id → o.IsTextFrame id' → id = id') ∧
      ∀ edit, o.session.textEdit? = some edit → o.session.selected? = some edit.element) ∧
    log.started = log.ended.map (·.edit) ++ o.session.textEdit?.toList ∧ (log.started.map (·.frame)).Nodup ∧
    ∃ told, List.Forall₂ EndedEdit.Tells log.ended told ∧ o.told = f.overlay.told ++ told.flatten := by
  have enabled : f.enable.Visited f.overlay.page fun _ _ => False := .enabled off own closed there
  have start : f.enable.Editing f.overlay.told {} := by
    obtain ⟨furnished, idle, -, told⟩ := Furnished.install (o := f.overlay.renew) rfl closed there
    have installed : f.enable.overlay = f.overlay.renew.install := by
      unfold Frame.enable
      rw [if_neg (by simp [off])]
    rw [← installed] at furnished idle told
    exact ⟨fun _ => furnished, by rw [idle]; rfl, List.forall_mem_nil _, List.nodup_nil, [], .nil,
      told.trans (List.append_nil _).symm⟩
  obtain ⟨furnished, started, -, apart, told⟩ := start.run enabled own acts
  have visited := enabled.run own acts
  intro o log
  refine ⟨fun active => ?_, started, apart, told⟩
  cases visited with
  | off inactive => cases inactive.symm.trans active
  | on _ covers =>
    have furnished : Furnished o := furnished active
    have frame := furnished.isTextFrame_iff covers bodied unnamed
    refine ⟨?_, fun id id' first second => ?_, furnished.selected⟩
    · rw [OverlaySession.mode_eq_editingText_iff]
      constructor
      · rintro ⟨id, there⟩
        obtain ⟨edit, editing, -⟩ := (frame id).mp there
        exact ⟨edit, editing⟩
      · rintro ⟨edit, editing⟩
        exact ⟨edit.frame, (frame _).mpr ⟨edit, editing, rfl⟩⟩
    · obtain ⟨edit, editing, rfl⟩ := (frame id).mp first
      obtain ⟨edit', editing', rfl⟩ := (frame id').mp second
      cases editing.symm.trans editing'
      rfl

/-- A page of two paragraphs. -/
def couplet : Frame where
  overlay := { page := { elements := [
    { tag := "html", children := [.element Page.head, .element Page.body] }, { tag := "head" },
    { tag := "body", children := [.element 3, .element 4] },
    { tag := "p", attributes := [("id", "a")], children := [.text "One"] },
    { tag := "p", attributes := [("id", "b")], children := [.text "Two"] }] } }

/-- A text is typed over the first paragraph, and one over the second, which is given up. Then the first paragraph
is edited once more. -/
def retyping : List Act := [
  .event { type := "dblclick", target? := some 3 }, .type " Eins ",
  .event { type := "dblclick", target? := some 4 }, .type "Zwei",
  .event { type := "keydown", target? := some 4, key := "Escape" },
  .event { type := "dblclick", target? := some 3 }]

/-- The host is told of the first edit only, and the last one goes on in the only frame that there is. -/
theorem couplet_retyped :
    let o := (couplet.enable.run retyping).overlay
    (couplet.enable.edits {} retyping).ended.map (·.ending) = [.committed "Eins", .givenUp] ∧
      o.told = [("One", "Eins")] ∧ (∃ id, o.IsTextFrame id) ∧
      (∀ id id', o.IsTextFrame id → o.IsTextFrame id' → id = id') ∧ o.session.selected? = some 3 := by
  obtain ⟨shown, -⟩ := edits_in_step (f := couplet) rfl (List.forall_mem_nil _)
    (Page.isClosed_of_forall (by decide)) (by decide) (by decide) (by decide +kernel) retyping
  obtain ⟨frame, single, -⟩ := shown (by decide +kernel)
  exact ⟨by decide +kernel, by decide +kernel, frame.mpr (by decide +kernel), single, by decide +kernel⟩

end Frame

end Retouch
