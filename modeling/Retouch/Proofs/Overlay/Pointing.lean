import Retouch.Overlay.Frame
import Retouch.Overlay.Selection
import Retouch.Proofs.Page.Registered
import Retouch.Proofs.Wire.Envelope

/-!
# What pointing and selecting leave alone

As long as no text is edited, the overlay answers every event by marking elements, by drawing its own
two frames, and by telling the host (`reactTo_stirs`). Nothing that is shown on an element of the page
changes, and a selector that the host was told leads to its element for good (`Knows.steady`).

The overlay adds a style sheet and two frames to a page and leaves the attributes of all elements as
they are. So on a page whose elements carry no marks, with nothing given out yet, it is at work from the
start (`install_atWork`).
-/

namespace Retouch

open Page (isReserved Keeps)
open Page.Registry (Registered GivenFor Marks)

namespace Overlay

/-! ### The overlay at work -/

/-- An element that the overlay draws on to point something out. -/
def IsFrame (o : Overlay) (id : ElementId) : Prop :=
  o.session.highlight? = some id ∨ o.session.selection? = some id

/-- No text is edited, the registry is in order, and the frames are the overlay's own. -/
structure AtWork (o : Overlay) : Prop where
  /-- The registry is in order. -/
  registered : Registered o.registry o.page
  /-- The frames have reserved ids. -/
  frames : ∀ id, o.IsFrame id → isReserved (o.page.element id).id = true
  /-- Nothing is shown on the frames for the time being. -/
  unsaved : ∀ id, o.IsFrame id → Table.get? o.session.saved id = none
  /-- No text is edited. -/
  idle : o.session.textEdit? = none

/-- A selector that was given out for an element of the page which is not the overlay's own. -/
def Points (o : Overlay) (s : String) (id : ElementId) : Prop :=
  GivenFor o.registry o.page s id ∧ o.page.isConnected id = true ∧
    isReserved (o.page.element id).id = false

/-- A selector that the host can speak of. -/
def Knows (o : Overlay) (s : String) : Prop := ∃ id, o.Points s id

/-- The overlay goes on with its work: the page is kept, and the registry and the frames with it. -/
structure Steady (o o' : Overlay) : Prop where
  /-- The registry is in order. -/
  registered : Registered o'.registry o'.page
  /-- The page is kept. -/
  keeps : Keeps o.page o'.page
  /-- Selectors lead where they led. -/
  given : ∀ s id, GivenFor o.registry o.page s id → GivenFor o'.registry o'.page s id
  /-- The frame around what is hovered is the same one. -/
  highlight : o'.session.highlight? = o.session.highlight?
  /-- The frame around what is selected is the same one. -/
  selection : o'.session.selection? = o.session.selection?
  /-- A text is edited if one was. -/
  textEdit : o'.session.textEdit? = o.session.textEdit?

/-- The overlay has marked elements and drawn its frames, no more. -/
structure Calm (o o' : Overlay) : Prop extends Steady o o' where
  /-- Styles of other elements than the frames are left alone. -/
  styles : ∀ id, ¬ o.IsFrame id → (o'.page.element id).style = (o.page.element id).style
  /-- What is saved is left alone. -/
  saved : o'.session.saved = o.session.saved

variable {o o' o'' : Overlay} {s : String} {id : ElementId}

theorem Steady.isFrame (steady : Steady o o') (id : ElementId) : o'.IsFrame id ↔ o.IsFrame id := by
  unfold IsFrame
  rw [steady.highlight, steady.selection]

theorem Steady.refl (registered : Registered o.registry o.page) : Steady o o where
  registered := registered
  keeps := .refl o.page
  given _ _ given := given
  highlight := rfl
  selection := rfl
  textEdit := rfl

theorem Steady.trans (first : Steady o o') (second : Steady o' o'') : Steady o o'' where
  registered := second.registered
  keeps := first.keeps.trans second.keeps
  given s id given := second.given s id (first.given s id given)
  highlight := second.highlight.trans first.highlight
  selection := second.selection.trans first.selection
  textEdit := second.textEdit.trans first.textEdit

theorem Calm.refl (registered : Registered o.registry o.page) : Calm o o where
  toSteady := .refl registered
  styles _ _ := rfl
  saved := rfl

theorem Calm.trans (first : Calm o o') (second : Calm o' o'') : Calm o o'' where
  toSteady := first.toSteady.trans second.toSteady
  styles id other :=
    (second.styles id (mt (first.isFrame id).mp other)).trans (first.styles id other)
  saved := second.saved.trans first.saved

theorem AtWork.steady (atWork : AtWork o) (steady : Steady o o')
    (unsaved : ∀ id, o.IsFrame id → Table.get? o'.session.saved id = none) : AtWork o' where
  registered := steady.registered
  frames id frame := by
    rw [steady.keeps.ids]
    exact atWork.frames id ((steady.isFrame id).mp frame)
  unsaved id frame := unsaved id ((steady.isFrame id).mp frame)
  idle := steady.textEdit.trans atWork.idle

theorem AtWork.calm (atWork : AtWork o) (calm : Calm o o') : AtWork o' := by
  refine atWork.steady calm.toSteady fun id frame => ?_
  rw [calm.saved]
  exact atWork.unsaved id frame

theorem Points.steady (points : o.Points s id) (steady : Steady o o') : o'.Points s id := by
  obtain ⟨given, connected, own⟩ := points
  refine ⟨steady.given s id given, ?_, ?_⟩
  · rw [steady.keeps.isConnected]
    exact connected
  · rw [steady.keeps.ids]
    exact own

/-- What the host can speak of, it can speak of for good. -/
theorem Knows.steady (knows : o.Knows s) (steady : Steady o o') : o'.Knows s := by
  obtain ⟨id, points⟩ := knows
  exact ⟨id, points.steady steady⟩

/-! ### Drawing -/

/-- An element with the children of another one, and its attributes except for the classes. -/
structure Resembles (e e' : Element) : Prop where
  /-- It has the same children. -/
  children : e'.children = e.children
  /-- It has the same attributes, except for the classes. -/
  attributes : ∀ name, name ≠ "class" → e'.attribute? name = e.attribute? name

theorem Resembles.keeps {f : Element → Element}
    (like : Resembles (o.page.element id) (f (o.page.element id))) :
    Keeps o.page (o.modify id f).page := by
  refine .modify like.children ?_ (like.attributes _ (by decide))
  exact congrArg (·.getD "") (like.attributes "id" (by decide))

theorem Resembles.tracking {f : Element → Element}
    (like : Resembles (o.page.element id) (f (o.page.element id))) (other : ElementId) :
    Page.tracking (o.modify id f).page other = Page.tracking o.page other :=
  Page.element_modify_same (g := fun e : Element => (e.attribute? Page.trackingAttribute).getD "")
    (congrArg (·.getD "") (like.attributes _ (by decide))) other

/-- One element is changed, and what is saved. -/
theorem Steady.modify {f : Element → Element} (registered : Registered o.registry o.page)
    (like : Resembles (o.page.element id) (f (o.page.element id)))
    (saved : Table ElementId SavedLook) :
    Steady o { o.modify id f with session := { o.session with saved } } where
  registered := registered.congr like.tracking
  keeps := like.keeps
  given _ other given := given.congr (like.tracking other)
  highlight := rfl
  selection := rfl
  textEdit := rfl

theorem Calm.draw {f : Element → Element} (registered : Registered o.registry o.page)
    (like : Resembles (o.page.element id) (f (o.page.element id))) (frame : o.IsFrame id) :
    Calm o (o.modify id f) where
  toSteady := .modify registered like o.session.saved
  styles other notFrame := by
    have ne : other ≠ id := by
      rintro rfl
      exact notFrame frame
    exact congrArg Element.style (Page.element_modify_ne o.page ne f)
  saved := rfl

theorem draw_calm (registered : Registered o.registry o.page) {frame? : Option ElementId}
    (frames : ∀ id, frame? = some id → o.IsFrame id) (element? : Option ElementId) :
    Calm o (o.draw frame? element?) := by
  unfold draw
  split
  · exact .refl registered
  · exact .draw registered ⟨rfl, fun _ _ => rfl⟩ (frames _ rfl)
  · exact .draw registered ⟨rfl, fun _ _ => rfl⟩ (frames _ rfl)

theorem drawHighlight_calm (registered : Registered o.registry o.page) (element? : Option ElementId) :
    Calm o (o.drawHighlight element?) := draw_calm registered (fun _ => Or.inl) element?

theorem drawSelection_calm (registered : Registered o.registry o.page) (element? : Option ElementId) :
    Calm o (o.drawSelection element?) := draw_calm registered (fun _ => Or.inr) element?

/-! ### Snapshots -/

/-- A snapshot that is taken changes the registry and the page, and nothing else. -/
theorem eq_of_snapshot {s : Snapshot} (taken : o.snapshot id = .ok (o', s)) :
    ∃ position?, o' = { o with
        registry := (Page.snapshot o.registry o.page id position?).1
        page := (Page.snapshot o.registry o.page id position?).2.1 } ∧
      s = (Page.snapshot o.registry o.page id position?).2.2 := by
  unfold snapshot at taken
  cases position : Page.notedPosition o.page id with
  | error f =>
    rw [position] at taken
    cases taken
  | ok position? =>
    rw [position] at taken
    refine ⟨position?, ?_⟩
    dsimp only [bind, Except.bind] at taken
    generalize Page.snapshot o.registry o.page id position? = out at taken ⊢
    obtain ⟨registry, page, s'⟩ := out
    cases taken
    exact ⟨rfl, rfl⟩

/-- A precise one differs from it in the position. -/
theorem snapshot_of_precise {s : Snapshot} (taken : o.preciseSnapshot id = .ok (o', s)) :
    ∃ s₁, o.snapshot id = .ok (o', s₁) ∧ s.selector = s₁.selector := by
  unfold preciseSnapshot at taken
  cases first : o.snapshot id with
  | error f =>
    rw [first] at taken
    cases taken
  | ok out =>
    obtain ⟨o₁, s₁⟩ := out
    rw [first] at taken
    cases taken
    refine ⟨s₁, rfl, ?_⟩
    split <;> rfl

theorem snapshot_calm {s : Snapshot} (registered : Registered o.registry o.page)
    (within : id < o.page.elements.length) (taken : o.snapshot id = .ok (o', s)) :
    Calm o o' ∧ o'.sent = o.sent ∧ GivenFor o'.registry o'.page s.selector id := by
  obtain ⟨position?, rfl, rfl⟩ := eq_of_snapshot taken
  obtain ⟨marks, given⟩ := Page.Registry.snapshot_marks registered within position?
  generalize Page.snapshot o.registry o.page id position? = out at marks given ⊢
  exact ⟨⟨⟨marks.registered, marks.keeps, marks.given, rfl, rfl, rfl⟩, fun id _ => marks.styles id, rfl⟩, rfl, given⟩

theorem preciseSnapshot_calm {s : Snapshot} (registered : Registered o.registry o.page)
    (within : id < o.page.elements.length) (taken : o.preciseSnapshot id = .ok (o', s)) :
    Calm o o' ∧ o'.sent = o.sent ∧ GivenFor o'.registry o'.page s.selector id := by
  obtain ⟨s₁, first, selector⟩ := snapshot_of_precise taken
  rw [selector]
  exact snapshot_calm registered within first

/-! ### Events -/

/-- The overlay has marked elements and drawn its frames, and told the host no more than where the
pointer is and what is selected. -/
structure Stirs (o o' : Overlay) : Prop where
  /-- It has marked elements and drawn its frames. -/
  calm : Calm o o'
  /-- It has told the host no more. -/
  said : ∀ m ∈ o'.sent, m ∈ o.sent ∨ m.IsPointing o'.Knows

theorem Stirs.silent (calm : Calm o o') (sent : o'.sent = o.sent) : Stirs o o' :=
  ⟨calm, fun _ hm => Or.inl (sent ▸ hm)⟩

/-- What is told to the host does not matter to the page. -/
theorem Steady.say (steady : Steady o o') (sent : List FrameMessage) : Steady o { o' with sent } :=
  ⟨steady.registered, steady.keeps, steady.given, steady.highlight, steady.selection, steady.textEdit⟩

theorem Calm.say (calm : Calm o o') (sent : List FrameMessage) : Calm o { o' with sent } :=
  ⟨calm.toSteady.say sent, calm.styles, calm.saved⟩

theorem AtWork.say (atWork : AtWork o) (sent : List FrameMessage) : AtWork { o with sent } :=
  ⟨atWork.registered, atWork.frames, atWork.unsaved, atWork.idle⟩

theorem Stirs.tell (calm : Calm o o') (sent : o'.sent = o.sent) {m : FrameMessage}
    (pointing : m.IsPointing o'.Knows) : Stirs o (o'.tell m) where
  calm := calm.say _
  said m' hm' := by
    obtain old | new := List.mem_append.mp hm'
    · exact Or.inl (sent ▸ old)
    · rw [List.mem_singleton.mp new]
      exact Or.inr pointing

/-- What is hovered or selected is remembered without a change to the page. -/
theorem Calm.remember (registered : Registered o.registry o.page) {session : OverlaySession}
    (saved : session.saved = o.session.saved) (highlight : session.highlight? = o.session.highlight?)
    (selection : session.selection? = o.session.selection?)
    (textEdit : session.textEdit? = o.session.textEdit?) : Calm o { o with session } :=
  ⟨⟨registered, .refl o.page, fun _ _ given => given, highlight, selection, textEdit⟩, fun _ _ => rfl, saved⟩

theorem draw_sent (o : Overlay) (frame? element? : Option ElementId) :
    (o.draw frame? element?).sent = o.sent := by
  unfold draw
  split <;> rfl

theorem drawHighlight_sent (o : Overlay) (element? : Option ElementId) :
    (o.drawHighlight element?).sent = o.sent := draw_sent o _ element?

theorem drawSelection_sent (o : Overlay) (element? : Option ElementId) :
    (o.drawSelection element?).sent = o.sent := draw_sent o _ element?

/-- The target of an event is on the page. -/
def Targets (o : Overlay) (target? : Option ElementId) : Prop :=
  ∀ id, target? = some id → id < o.page.elements.length ∧ o.page.isConnected id = true

theorem own_of_visible {target? : Option ElementId} (visible : o.visible? (target?) = some id) :
    target? = some id ∧ isReserved (o.page.element id).id = false := by
  obtain ⟨eq, seen⟩ := Option.filter_eq_some_iff.mp visible
  refine ⟨eq, ?_⟩
  simp only [Page.isIgnored, Bool.not_eq_true', Bool.or_eq_false_iff] at seen
  exact seen.1.2

theorem unhover_stirs (atWork : AtWork o) : Stirs o o.unhover := by
  unfold unhover
  split
  · exact .silent (.refl atWork.registered) rfl
  · have remembered : Calm o { o with session := { o.session with hovered? := none } } :=
      .remember atWork.registered rfl rfl rfl rfl
    have drawn := remembered.trans (drawHighlight_calm remembered.registered none)
    exact .tell drawn (drawHighlight_sent _ _) trivial

theorem hover_stirs (atWork : AtWork o) (within : id < o.page.elements.length) :
    Stirs o (o.hover id).1 := by
  have remembered : Calm o { o with session := { o.session with hovered? := some id } } :=
    .remember atWork.registered rfl rfl rfl rfl
  have drawn := remembered.trans (drawHighlight_calm remembered.registered (some id))
  unfold hover
  dsimp only
  split
  · exact .silent drawn (drawHighlight_sent _ _)
  · rename_i o' s taken
    obtain ⟨calm, sent, -⟩ := snapshot_calm drawn.registered (drawn.keeps.length ▸ within) taken
    exact .tell (drawn.trans calm) (sent.trans (drawHighlight_sent _ _)) trivial

theorem onMouseMove_stirs (atWork : AtWork o) {target? : Option ElementId}
    (targets : o.Targets target?) : Stirs o (o.onMouseMove target?).1 := by
  unfold onMouseMove
  split
  · exact unhover_stirs atWork
  · rename_i id visible
    split
    · exact .silent (drawHighlight_calm atWork.registered none) (drawHighlight_sent _ _)
    · split
      · exact .silent (.refl atWork.registered) rfl
      · exact hover_stirs atWork (targets id (own_of_visible visible).1).1

/-- Without an edited text there is nothing to commit. -/
theorem commitTextEdit_idle (atWork : AtWork o) : o.commitTextEdit = (o, .settled) := by
  unfold commitTextEdit closeTextEdit
  rw [atWork.idle]

theorem closeTextEdit_idle (atWork : AtWork o) : o.closeTextEdit = (o, none) := by
  unfold closeTextEdit
  rw [atWork.idle]

theorem select_stirs (atWork : AtWork o) (within : id < o.page.elements.length)
    (connected : o.page.isConnected id = true) (own : isReserved (o.page.element id).id = false)
    (notify : Bool) : Stirs o (o.select id notify).1 := by
  have idle : (o.session.textEdit?.any fun edit => edit.element != id) = false := by
    rw [atWork.idle]
    rfl
  have remembered : Calm o { o with session := { o.session with selected? := some id, hovered? := none } } :=
    .remember atWork.registered rfl rfl rfl rfl
  have unlit := remembered.trans (drawHighlight_calm remembered.registered none)
  have drawn := unlit.trans (drawSelection_calm unlit.registered (some id))
  have sent (o₁ : Overlay) : ((o₁.drawHighlight none).drawSelection (some id)).sent = o₁.sent :=
    (drawSelection_sent _ _).trans (drawHighlight_sent _ _)
  unfold select
  rw [idle, if_neg Bool.false_ne_true]
  dsimp only
  split
  · exact .silent drawn (sent _)
  · split
    · exact .silent drawn (sent _)
    · rename_i o' s taken
      obtain ⟨calm, same, given⟩ := preciseSnapshot_calm drawn.registered
        (drawn.keeps.length ▸ within) taken
      have all := drawn.trans calm
      refine .tell all (same.trans (sent _)) ⟨id, given, ?_, ?_⟩
      · rw [all.keeps.isConnected]
        exact connected
      · rw [all.keeps.ids]
        exact own

theorem deselect_stirs (atWork : AtWork o) : Stirs o o.deselect := by
  unfold deselect
  rw [closeTextEdit_idle atWork]
  split
  · exact .silent (.refl atWork.registered) rfl
  · have remembered : Calm o { o with session := { o.session with selected? := none } } :=
      .remember atWork.registered rfl rfl rfl rfl
    have drawn := remembered.trans (drawSelection_calm remembered.registered none)
    exact .tell drawn (drawSelection_sent _ _) trivial

theorem onClick_stirs (atWork : AtWork o) {target? : Option ElementId} (targets : o.Targets target?) :
    Stirs o (o.onClick target?).1 := by
  unfold onClick
  split
  · exact .silent (.refl atWork.registered) rfl
  · rename_i id visible
    obtain ⟨target, own⟩ := own_of_visible visible
    obtain ⟨within, connected⟩ := targets id target
    split
    · exact deselect_stirs atWork
    · exact select_stirs atWork within connected own true

theorem onKeyDown_stirs (atWork : AtWork o) (key : String) : Stirs o (o.onKeyDown key) := by
  unfold onKeyDown
  rw [closeTextEdit_idle atWork]
  split
  · exact .silent (.refl atWork.registered) rfl
  · split
    · exact .silent (.refl atWork.registered) rfl
    · exact deselect_stirs atWork

theorem onScroll_stirs (atWork : AtWork o) : Stirs o o.onScroll := by
  have lit := drawHighlight_calm atWork.registered o.session.hovered?
  exact .silent (lit.trans (drawSelection_calm lit.registered _))
    ((drawSelection_sent _ _).trans (drawHighlight_sent _ _))

theorem onEditorKeyDown_stirs (atWork : AtWork o) (e : Event) : Stirs o (o.onEditorKeyDown e).1 := by
  unfold onEditorKeyDown
  rw [commitTextEdit_idle atWork, closeTextEdit_idle atWork]
  split
  · exact .silent (.refl atWork.registered) rfl
  · split <;> exact .silent (.refl atWork.registered) rfl

/-- **Events stir the overlay, no more**, except for a double click, which begins to edit a text. -/
theorem reactTo_stirs (atWork : AtWork o) {t : Trigger} (single : t ≠ .doubleClick) {e : Event}
    (targets : o.Targets e.target?) : Stirs o (o.reactTo t e).1 := by
  cases t with
  | mouseMove => exact onMouseMove_stirs atWork targets
  | mouseLeave => exact unhover_stirs atWork
  | click => exact onClick_stirs atWork targets
  | doubleClick => exact absurd rfl single
  | keyDown => exact onKeyDown_stirs atWork e.key
  | formKeyDown =>
    unfold reactTo
    dsimp only
    split <;> exact .silent (.refl atWork.registered) rfl
  | formFocus =>
    unfold reactTo
    dsimp only
    split <;> exact .silent (.refl atWork.registered) rfl
  | scroll => exact onScroll_stirs atWork
  | editorKeyDown => exact onEditorKeyDown_stirs atWork e
  | editorBlur =>
    unfold reactTo
    rw [commitTextEdit_idle atWork]
    exact .silent (.refl atWork.registered) rfl

end Overlay

end Retouch

/-! ## Putting the overlay on -/

namespace Retouch

open Page (isReserved)

/-! ### Attributes -/

namespace Page

variable {κ : Type}

/-- The attributes of all elements. -/
def attributes (p : Page κ) : List (Table String String) := p.elements.map Element.attributes

theorem attributes_element (p : Page κ) (id : ElementId) :
    (p.element id).attributes = (p.attributes[id]?).getD [] := by
  unfold element attributes
  rw [List.getElem?_map]
  cases p.elements[id]? <;> rfl

theorem attributes_modify {p : Page κ} {id : ElementId} {f : Element → Element}
    (same : ∀ e, (f e).attributes = e.attributes) : (p.modify id f).attributes = p.attributes :=
  map_modify (same _)

theorem attributes_removeChild (p : Page κ) (parent child : ElementId) :
    (p.removeChild parent child).attributes = p.attributes := by
  have unfocused (q : Page κ) : (q.dropFocus child).attributes = q.attributes := by
    unfold dropFocus
    split
    · split <;> rfl
    · rfl
  unfold removeChild
  split
  · rw [unfocused]
    exact attributes_modify fun _ => rfl
  · rfl

theorem attributes_append (p : Page κ) (parent child : ElementId) :
    (p.append parent child).attributes = p.attributes := by
  have removed : (p.remove child).attributes = p.attributes := by
    unfold remove
    split
    · exact attributes_removeChild p _ child
    · rfl
  unfold append
  refine Eq.trans (attributes_modify ?_) removed
  exact fun _ => rfl

theorem attributes_create (p : Page κ) (e : Element) :
    (p.create e).1.attributes = p.attributes ++ [e.attributes] := List.map_append

theorem attributes_listen (p : Page Hook) (rs : List (Registration Hook)) :
    (rs.foldl (fun p r => p.listen r) p).attributes = p.attributes := by
  induction rs generalizing p with
  | nil => rfl
  | cons r rs ih =>
    rw [List.foldl_cons, ih]
    unfold listen
    split <;> rfl

end Page

namespace Overlay

theorem attributes_addElement (o : Overlay) (parent : ElementId) (e : Element) :
    (o.addElement parent e).1.page.attributes = o.page.attributes ++ [e.attributes] :=
  (Page.attributes_append _ _ _).trans (Page.attributes_create o.page e)

theorem addElement_snd (o : Overlay) (parent : ElementId) (e : Element) :
    (o.addElement parent e).2 = o.page.attributes.length := (List.length_map ..).symm

theorem length_addElement (o : Overlay) (parent : ElementId) (e : Element) :
    (o.addElement parent e).1.page.attributes.length = o.page.attributes.length + 1 := by
  rw [attributes_addElement, List.length_append]
  rfl

/-- The overlay adds three elements of its own, and draws on two of them. -/
theorem install_attributes {o : Overlay} (bare : o.session.isInstalled = false) :
    o.install.page.attributes = o.page.attributes ++
        [[("id", sheetId)], [("id", highlightId)], [("id", selectionId)]] ∧
      o.install.session.highlight? = some (o.page.attributes.length + 1) ∧
      o.install.session.selection? = some (o.page.attributes.length + 2) := by
  unfold install
  rw [if_neg (by simp [bare])]
  dsimp only
  refine ⟨?_, ?_, ?_⟩
  · refine Eq.trans (Page.attributes_modify ?_) ?_
    · exact fun _ => rfl
    · rw [Page.attributes_listen, attributes_addElement, attributes_addElement, attributes_addElement,
        List.append_assoc, List.append_assoc]
      rfl
  · exact congrArg some ((addElement_snd _ _ _).trans (length_addElement _ _ _))
  · refine congrArg some ((addElement_snd _ _ _).trans ((length_addElement _ _ _).trans ?_))
    exact congrArg (· + 1) (length_addElement _ _ _)

/-- Putting the overlay on leaves the registry and what was told alone, and nothing is shown or edited
yet. -/
theorem install_rest {o : Overlay} (bare : o.session.isInstalled = false) :
    o.install.registry = o.registry ∧ o.install.session.saved = o.session.saved ∧
      o.install.session.textEdit? = o.session.textEdit? ∧ o.install.sent = o.sent := by
  unfold install
  rw [if_neg (by simp [bare])]
  exact ⟨rfl, rfl, rfl, rfl⟩

/-- **A new session is at work from the start**, on a page without marks. -/
theorem install_atWork {o : Overlay} (unmarked : ∀ e ∈ o.page.elements,
      (e.attribute? Page.trackingAttribute).getD "" = "")
    (elements : o.registry.elements = []) (selectors : o.registry.selectors = []) :
    AtWork o.renew.install := by
  obtain ⟨attributes, highlight, selection⟩ := install_attributes (o := o.renew) rfl
  obtain ⟨registry, saved, idle, -⟩ := install_rest (o := o.renew) rfl
  have own (id : ElementId) : (o.renew.install.page.element id).attributes =
      ((o.renew.page.attributes ++
        [[("id", sheetId)], [("id", highlightId)], [("id", selectionId)]])[id]?).getD [] := by
    rw [Page.attributes_element, attributes]
  refine ⟨?_, ?_, ?_, idle⟩
  · refine .start (fun id => ?_) (registry ▸ elements) (registry ▸ selectors)
    unfold Page.tracking Element.attribute?
    rw [own]
    cases there : (o.renew.page.attributes ++
        [[("id", sheetId)], [("id", highlightId)], [("id", selectionId)]])[id]? with
    | none => rfl
    | some attributes =>
      obtain old | new := List.mem_append.mp (List.mem_of_getElem? there)
      · obtain ⟨e, he, rfl⟩ := List.mem_map.mp old
        exact unmarked e he
      · simp only [List.mem_cons, List.not_mem_nil, or_false] at new
        obtain rfl | rfl | rfl := new <;> rfl
  · intro id isFrame
    unfold Element.id Element.attribute?
    rw [own]
    obtain first | second := isFrame
    · obtain rfl := Option.some.inj (highlight.symm.trans first)
      rw [List.getElem?_append_right (Nat.le_add_right _ 1), Nat.add_sub_cancel_left]
      exact (by decide +kernel : isReserved highlightId = true)
    · obtain rfl := Option.some.inj (selection.symm.trans second)
      rw [List.getElem?_append_right (Nat.le_add_right _ 2), Nat.add_sub_cancel_left]
      exact (by decide +kernel : isReserved selectionId = true)
  · intro id _
    rw [saved]
    rfl

end Overlay

end Retouch
