import Retouch.Proofs.Overlay.Reacting

/-!
# Putting the overlay on and taking it off

Putting the overlay on adds a style sheet, two frames and listeners to a page, and sets the cursor of the
body (`Uncovered.install`). Taking it off takes all this away again, closes the editor and gives all looks
back (`Covers.teardown`): afterwards no overlay lies over the page (`Uncovered`). The cursor that the body
had is gone, if it had one: it was not saved.
-/

namespace Retouch

open Page (Hosts Leaves)

namespace Overlay

/-! ### A page without the overlay -/

/-- No overlay lies over a page whose elements looked like `before`, apart from the styles that were
`shown` on them. -/
structure Uncovered (base : Page Hook) (before : ElementId → Element) (shown : ElementId → String → Prop)
    (p : Page Hook) : Prop where
  /-- The page has a body. -/
  there : Page.body < base.elements.length
  /-- It has no guests. -/
  hosts : Hosts base (fun _ => []) p
  /-- Its elements look as they did. -/
  worn : ∀ id < base.elements.length, Worn (before id) (ownLook (p.element id)) (shown id) (p.element id)
  /-- The listeners are the page's own. -/
  registrations : p.registrations = base.registrations

/-- The listeners of a page are its own. -/
def IsOwn (p : Page Hook) : Prop := ∀ r ∈ p.registrations, ∃ l, r.listener = .own l

variable {base : Page Hook} {before : ElementId → Element} {shown shown' : ElementId → String → Prop}
  {rs : List (Registration Hook)} {o : Overlay} {p p' : Page Hook}

namespace Uncovered

/-- At first. -/
theorem start (closed : p.IsClosed) (there : Page.body < p.elements.length) :
    Uncovered p p.element (fun _ _ => False) p :=
  ⟨there, .start closed, fun _ _ => .start _, rfl⟩

theorem congr (uncovered : Uncovered base before shown p) (elements : p'.elements = p.elements)
    (registrations : p'.registrations = p.registrations) : Uncovered base before shown p' := by
  have same := Page.element_congr elements
  refine ⟨uncovered.there, uncovered.hosts.congr (congrArg List.length elements) fun id => by rw [same],
    fun id within => ?_, registrations.trans uncovered.registrations⟩
  rw [same]
  exact uncovered.worn id within

theorem congr_shown (uncovered : Uncovered base before shown p)
    (same : ∀ id name, shown id name ↔ shown' id name) : Uncovered base before shown' p :=
  (funext fun id => funext fun name => propext (same id name) : shown = shown') ▸ uncovered

end Uncovered

/-! ### Putting the overlay on -/

/-- What is on the whole page belongs to the session. -/
theorem own_pageListeners (own : IsOwn base) (k : Nat) :
    ∀ r ∈ base.registrations ++ pageListeners k, ∀ h, r.listener = .tool h → r.place? = none ∧ h.session = k := by
  intro r mem h tool
  obtain old | new := List.mem_append.mp mem
  · obtain ⟨l, eq⟩ := own r old
    cases eq.symm.trans tool
  · obtain ⟨⟨type, isCapturing, trigger⟩, -, rfl⟩ := List.mem_map.mp new
    cases tool
    exact ⟨rfl, rfl⟩

theorem nodup_pageListeners (k : Nat) : (pageListeners k).Nodup := by
  simp [pageListeners, pageTriggers]

/-- An overlay's listener is none of the page's own. -/
theorem pageListener_not_mem (own : IsOwn base) (k : Nat) : ∀ r ∈ pageListeners k, r ∉ base.registrations := by
  intro r mem old
  obtain ⟨l, eq⟩ := own r old
  obtain ⟨_, -, rfl⟩ := List.mem_map.mp mem
  cases eq

/-- The style sheet that is put on. -/
def sheet : Element := { Element.ofTag "style" [("id", sheetId)] with children := [.text sheetText] }

/-- The frame that is put on for what is hovered. -/
def highlightFrame : Element := newFrame highlightId "2px dashed #3b82f6"

/-- The frame that is put on for what is selected. -/
def selectionFrame : Element := newFrame selectionId "2px solid #3b82f6"

theorem bare_sheet (child : ElementId) : .element child ∉ sheet.children :=
  fun mem => nomatch List.mem_singleton.mp mem

theorem bare_highlightFrame (child : ElementId) : .element child ∉ highlightFrame.children := List.not_mem_nil

theorem bare_selectionFrame (child : ElementId) : .element child ∉ selectionFrame.children := List.not_mem_nil

/-- A page with the style sheet. -/
def withSheet (p : Page Hook) : Page Hook := p.add Page.head sheet

/-- The first frame is put on as well. -/
def withHighlight (p : Page Hook) : Page Hook := (withSheet p).add Page.body highlightFrame

/-- So is the second one. -/
def withSelection (p : Page Hook) : Page Hook := (withHighlight p).add Page.body selectionFrame

/-- What is remembered of what was put on. -/
def newSession (p : Page Hook) : OverlaySession where
  sheet? := some p.elements.length
  highlight? := some (withSheet p).elements.length
  selection? := some (withHighlight p).elements.length
  isInstalled := true

/-- What it does to put the overlay on: elements are added, listeners registered, and the body gets a
cross-hair. -/
theorem install_eq (new : o.session = {}) :
    o.install = { o with
      page := ((pageListeners o.sessionNumber).foldl (fun p r => p.listen r) (withSelection o.page)).modify
        Page.body (·.setStyle "cursor" "crosshair" false)
      session := newSession o.page } := by
  obtain ⟨page, registry, sources, session, retired, sent⟩ := o
  cases new
  rfl

/-- Listeners do not matter to what is there. -/
theorem length_install (new : o.session = {}) :
    o.install.page.elements.length = (withSelection o.page).elements.length := by
  rw [install_eq new]
  exact (Page.length_modify ..).trans (congrArg List.length (Page.elements_listen ..))

theorem registrations_withSelection (p : Page Hook) : (withSelection p).registrations = p.registrations :=
  (Page.registrations_add ..).trans ((Page.registrations_add ..).trans (Page.registrations_add ..))

theorem leaves_withSelection {n : Nat} (within : n ≤ p.elements.length) : Leaves n p (withSelection p) := by
  have first : Leaves n p (withSheet p) := .add within _ _
  have second : Leaves n p (withHighlight p) := first.trans (.add (Nat.le_trans within first.longer) _ _)
  exact second.trans (.add (Nat.le_trans within second.longer) _ _)

/-- A style sheet and two frames become guests. -/
theorem hosts_withSelection (hosts : Hosts base (fun _ => []) p) (there : Page.body < base.elements.length) :
    Hosts base (newSession p).guests (withSelection p) := by
  have body : Page.body < p.elements.length := Nat.lt_of_lt_of_le there hosts.longer
  have body₁ : Page.body < (withSheet p).elements.length := Nat.lt_trans body (Page.lt_length_add ..)
  have body₂ : Page.body < (withHighlight p).elements.length := Nat.lt_trans body₁ (Page.lt_length_add ..)
  have all := ((hosts.add bare_sheet (Nat.lt_trans (by decide) body)).add bare_highlightFrame body₁).add
    bare_selectionFrame body₂
  refine all.congr_guests fun id _ => ?_
  unfold OverlaySession.guests
  by_cases isHead : id = Page.head
  · rw [isHead]
    rfl
  · by_cases isBody : id = Page.body
    · rw [isBody]
      rfl
    · rw [if_neg isHead, if_neg isBody, Function.update_of_ne isBody, Function.update_of_ne isBody,
        Function.update_of_ne isHead]

/-- They are told apart, and they are new. -/
theorem added_newSession (p : Page Hook) : (newSession p).added.Nodup ∧
    ∀ id ∈ (newSession p).added, p.elements.length ≤ id ∧ id < (withSelection p).elements.length := by
  have first : p.elements.length < (withSheet p).elements.length := Page.lt_length_add ..
  have second : (withSheet p).elements.length < (withHighlight p).elements.length := Page.lt_length_add ..
  have third : (withHighlight p).elements.length < (withSelection p).elements.length := Page.lt_length_add ..
  have all : (newSession p).added =
      [p.elements.length, (withSheet p).elements.length, (withHighlight p).elements.length] := rfl
  rw [all]
  constructor
  · simp [Nat.ne_of_lt first, Nat.ne_of_lt second, Nat.ne_of_lt (Nat.lt_trans first second)]
  · simp only [List.forall_mem_cons]
    exact ⟨⟨Nat.le_refl _, Nat.lt_trans first (Nat.lt_trans second third)⟩,
      ⟨Nat.le_of_lt first, Nat.lt_trans second third⟩, ⟨Nat.le_of_lt (Nat.lt_trans first second), third⟩,
      List.forall_mem_nil _⟩

/-- **The overlay is put on.** -/
theorem Uncovered.install (uncovered : Uncovered base before shown o.page) (own : IsOwn base)
    (new : o.session = {}) :
    Covers base (Function.update before Page.body ((before Page.body).setStyle "cursor" "crosshair" false))
      shown (base.registrations ++ pageListeners o.sessionNumber) o.install := by
  obtain ⟨there, hosts, worn, registrations⟩ := uncovered
  obtain ⟨distinct, added⟩ := added_newSession o.page
  have longer := hosts.longer
  -- the page with what is put on, and with the listeners
  obtain ⟨p₄, fourth⟩ : ∃ p₄ : Page Hook, p₄ = { withSelection o.page with
    registrations := base.registrations ++ pageListeners o.sessionNumber } := ⟨_, rfl⟩
  have elements : p₄.elements = (withSelection o.page).elements := by rw [fourth]
  have listened : (pageListeners o.sessionNumber).foldl (fun p r => p.listen r) (withSelection o.page) = p₄ := by
    have registrations₃ := (registrations_withSelection o.page).trans registrations
    rw [fourth, ← registrations₃]
    refine Page.listen_all _ ?_ (nodup_pageListeners _)
    rw [registrations₃]
    exact pageListener_not_mem own _
  have hosts₄ := (hosts_withSelection hosts there).congr (congrArg List.length elements) fun id => by
    rw [Page.element_congr elements]
  have leaves₄ := (leaves_withSelection longer).trans (.congr elements)
  rw [install_eq new, listened]
  refine ⟨there, rfl, hosts₄.modify (f := (·.setStyle "cursor" "crosshair" false)) rfl, fun id mem => ?_, distinct,
    (fun _ none => nomatch none), fun id within => ?_, ?_, own_pageListeners own _⟩
  · refine ⟨Nat.le_trans longer (added id mem).1, Nat.lt_of_lt_of_eq (added id mem).2 ?_⟩
    rw [Page.length_modify, elements]
  · have same := leaves₄.elements id within
    have worn₄ := (worn id within).congr_children same
    rw [show ownLook (o.page.element id) = ownLook (p₄.element id) from (congrArg ownLook same :).symm] at worn₄
    show Worn _ (ownLook ((p₄.modify Page.body _).element id)) _ ((p₄.modify Page.body _).element id)
    by_cases isBody : id = Page.body
    · rw [isBody] at worn₄ ⊢
      rw [Page.element_modify_self p₄ (Nat.lt_of_lt_of_le there hosts₄.longer), Function.update_self]
      exact worn₄.setStyle _ _
    · rw [Page.element_modify_ne p₄ isBody, Function.update_of_ne isBody]
      exact worn₄
  · show p₄.registrations = _
    rw [fourth]
    exact (List.append_nil _).symm

/-! ### Taking the overlay off -/

/-- The first guest of an element is dropped. -/
theorem hosts_drop {guests : ElementId → List ElementId} (hosts : Hosts base guests o.page)
    {parent : ElementId} (within : parent < base.elements.length) (id? : Option ElementId)
    (rest : List ElementId) (first : guests parent = id?.toList ++ rest)
    (new : ∀ id ∈ id?.toList, base.elements.length ≤ id)
    (only : ∀ child ∈ id?.toList, ∀ id < base.elements.length, child ∈ guests id → id = parent) :
    Hosts base (Function.update guests parent rest) (o.dropElement id?).page := by
  cases id? with
  | none =>
    rw [← show guests parent = rest from first, Function.update_eq_self]
    exact hosts
  | some child =>
    have mem : child ∈ (some child).toList := List.mem_singleton_self child
    have left := hosts.remove (new child mem) within (by rw [first]; exact List.mem_cons_self ..) (only child mem)
    rwa [first, Option.toList_some, List.singleton_append, List.erase_cons_head] at left

theorem leaves_drop (n : Nat) (o : Overlay) (id? : Option ElementId) :
    Leaves n o.page (o.dropElement id?).page ∧ (o.dropElement id?).page.registrations = o.page.registrations ∧
      (o.dropElement id?).session = o.session := by
  cases id? with
  | none => exact ⟨.refl n o.page, rfl, rfl⟩
  | some id => exact ⟨.remove n o.page id, Page.registrations_remove o.page id, rfl⟩

/-- The overlay without its style sheet and its frames. -/
def stripped (o : Overlay) : Overlay :=
  ((o.dropElement o.session.highlight?).dropElement o.session.selection?).dropElement o.session.sheet?

/-- Without its style sheet and its frames, the overlay has no guests on the page. -/
theorem Covers.stripped (covers : Covers base before shown rs o) (idle : o.session.textEdit? = none) :
    Hosts base (fun _ => []) o.stripped.page := by
  have guest : ∀ id ∈ o.session.added, base.elements.length ≤ id := fun id mem => (covers.added id mem).1
  have body : o.session.bodyGuests = o.session.highlight?.toList ++ (o.session.selection?.toList ++ []) := by
    unfold OverlaySession.bodyGuests
    rw [idle, List.append_assoc]
    rfl
  have inBody : ∀ child ∈ o.session.bodyGuests, ∀ id, child ∈ o.session.guests id → id = Page.body :=
    fun child mem id there => OverlaySession.eq_body_of_mem covers.distinct mem there
  have highlight : ∀ id ∈ o.session.highlight?.toList, id ∈ o.session.bodyGuests := fun id mem => by
    rw [body]
    exact List.mem_append_left _ mem
  have selection : ∀ id ∈ o.session.selection?.toList, id ∈ o.session.bodyGuests := fun id mem => by
    rw [body]
    exact List.mem_append_right _ (List.mem_append_left _ mem)
  have first := hosts_drop covers.hosts covers.there _ _ body
    (fun id mem => guest id (List.mem_append_right _ (highlight id mem)))
    fun child mem id _ => inBody child (highlight child mem) id
  have second := hosts_drop first covers.there _ _ (Function.update_self ..)
    (fun id mem => guest id (List.mem_append_right _ (selection id mem))) fun child mem id _ there => by
      by_contra ne
      rw [Function.update_of_ne ne] at there
      exact ne (inBody child (selection child mem) id there)
  have head : Page.head < base.elements.length := Nat.lt_trans (by decide) covers.there
  have third := hosts_drop second head o.session.sheet? [] (List.append_nil _).symm
    (fun id mem => guest id (List.mem_append_left _ mem)) fun child mem id _ there => by
      by_cases isBody : id = Page.body
      · rw [isBody, Function.update_self] at there
        cases there
      · rw [Function.update_of_ne isBody, Function.update_of_ne isBody] at there
        exact OverlaySession.eq_head_of_mem covers.distinct mem there
  refine third.congr_guests fun id _ => ?_
  by_cases isHead : id = Page.head
  · rw [isHead, Function.update_self]
  · rw [Function.update_of_ne isHead]
    by_cases isBody : id = Page.body
    · rw [isBody, Function.update_self]
    · rw [Function.update_of_ne isBody, Function.update_of_ne isBody]
      unfold OverlaySession.guests
      rw [if_neg isHead, if_neg isBody]

theorem stripped_rest (n : Nat) (o : Overlay) :
    Leaves n o.page o.stripped.page ∧ o.stripped.page.registrations = o.page.registrations ∧
      o.stripped.session = o.session := by
  obtain ⟨leaves₁, registrations₁, session₁⟩ := leaves_drop n o o.session.highlight?
  obtain ⟨leaves₂, registrations₂, session₂⟩ := leaves_drop n (o.dropElement o.session.highlight?)
    o.session.selection?
  obtain ⟨leaves₃, registrations₃, session₃⟩ := leaves_drop n
    ((o.dropElement o.session.highlight?).dropElement o.session.selection?) o.session.sheet?
  exact ⟨leaves₁.trans (leaves₂.trans leaves₃), registrations₃.trans (registrations₂.trans registrations₁),
    session₃.trans (session₂.trans session₁)⟩

/-- When all looks are given back, none is saved. -/
theorem saved_clearPreview (o : Overlay) (id : ElementId) :
    Table.get? (o.clearPreview none).session.saved id = none := by
  unfold clearPreview
  rw [saved_foldl_restore]
  split
  · rfl
  · rename_i missing
    exact Table.get?_eq_none_iff.mpr missing

/-- Nothing else of the session changes. -/
theorem textEdit_clearPreview (o : Overlay) :
    (o.clearPreview none).session.textEdit? = o.session.textEdit? := by
  unfold clearPreview
  refine List.foldlRecOn (motive := fun o' : Overlay => o'.session.textEdit? = o.session.textEdit?) _ _ rfl
    fun o' same id _ => ?_
  unfold restore
  split <;> exact same

/-- The overlay without its listeners on the whole page. -/
def muted (o : Overlay) : Overlay :=
  { o with page := (pageListeners o.sessionNumber).foldl (fun p r => p.unlisten r) o.page }

/-- The overlay without these, with the editor closed and all looks given back. -/
def cleared (o : Overlay) : Overlay := o.muted.closeTextEdit.1.clearPreview none

/-- What it does to take the overlay off. -/
theorem teardown_eq (installed : o.session.isInstalled = true) :
    o.teardown.page = o.cleared.stripped.page.modify Page.body (·.removeStyle "cursor") ∧
      o.teardown.session.textEdit? = o.cleared.stripped.session.textEdit? := by
  unfold Overlay.teardown
  rw [installed, if_neg (by decide)]
  exact ⟨rfl, rfl⟩

theorem Covers.muted (covers : Covers base before shown (base.registrations ++ pageListeners o.sessionNumber) o)
    (own : IsOwn base) : Covers base before shown base.registrations o.muted := by
  unfold Overlay.muted
  rw [Page.unlisten_all o.page covers.registrations (pageListener_not_mem own _)]
  refine covers.rehost rfl rfl (covers.hosts.congr rfl fun _ => rfl) (.congr rfl) covers.added covers.distinct
    covers.input rfl fun r mem h tool => ?_
  obtain ⟨l, eq⟩ := own r mem
  cases eq.symm.trans tool

/-- **The overlay is taken off.** -/
theorem Covers.teardown (covers : Covers base before shown (base.registrations ++ pageListeners o.sessionNumber) o)
    (own : IsOwn base) :
    Uncovered base (Function.update before Page.body ((before Page.body).removeStyle "cursor")) shown
        o.teardown.page ∧ o.teardown.session.textEdit? = none := by
  obtain ⟨closed, idle⟩ := (covers.muted own).closeTextEdit
  have cleared : Covers base before shown base.registrations o.cleared := closed.clearPreview none
  have still : o.cleared.session.textEdit? = none := (textEdit_clearPreview _).trans idle
  have hosts := cleared.stripped still
  obtain ⟨leaves, registrations, session⟩ := stripped_rest base.elements.length o.cleared
  obtain ⟨page, textEdit⟩ := teardown_eq covers.installed
  refine ⟨?_, textEdit.trans ((congrArg _ session).trans still)⟩
  rw [page]
  refine ⟨covers.there, hosts.modify (f := (·.removeStyle "cursor")) rfl, fun id within => ?_, ?_⟩
  · have same := leaves.elements id within
    have worn := (cleared.worn id within).congr_children same
    have look : o.cleared.look id = ownLook (o.cleared.stripped.page.element id) := by
      unfold Overlay.look
      rw [show Table.get? o.cleared.session.saved id = none from saved_clearPreview _ id]
      exact (congrArg ownLook same :).symm
    rw [look] at worn
    by_cases isBody : id = Page.body
    · rw [isBody] at worn ⊢
      rw [Page.element_modify_self _ (Nat.lt_of_lt_of_le covers.there hosts.longer), Function.update_self]
      exact worn.removeStyle _
    · rw [Page.element_modify_ne _ isBody, Function.update_of_ne isBody]
      exact worn
  · refine registrations.trans (cleared.registrations.trans ?_)
    rw [editors, still, List.append_nil]

end Overlay

end Retouch
