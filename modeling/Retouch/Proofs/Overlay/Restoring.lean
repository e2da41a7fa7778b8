import Retouch.Proofs.Overlay.Uncovering
import Retouch.Proofs.Page.Dispatching

/-!
# A page after the overlay

Design mode is switched on and off again, and in between the user and the host do what they like (`Act`).
All the while the overlay covers the page, or no overlay lies over it (`Visited`). In the end the page has
the listeners that it had, and it is as it was found (`Restored`) exactly if its texts are, the body had no
cursor of its own, and no property that was shown on an element for the time being was an important one
there (`Frame.restored_pageAfter_iff`).
-/

namespace Retouch

open Overlay (Alike Covers IsOwn Uncovered cssText pageListeners)

/-- A page is as another one was: the same tree, elements that look alike, and the same listeners. What
was added and taken away again is not counted. -/
structure Restored (p p' : Page Hook) : Prop where
  /-- Elements hold what they held. -/
  children : ∀ id < p.elements.length, (p'.element id).children = (p.element id).children
  /-- Elements look as they did. -/
  alike : ∀ id < p.elements.length, Alike (p.element id) (p'.element id)
  /-- The listeners are the same. -/
  registrations : p'.registrations = p.registrations

/-- From every element of a page that is as it was, the same elements are reached in the same order. -/
theorem Restored.subtreeWithin {p p' : Page Hook} (restored : Restored p p') (closed : p.IsClosed) (n : Nat)
    {id : ElementId} (within : id < p.elements.length) : p'.subtreeWithin n id = p.subtreeWithin n id := by
  induction n generalizing id with
  | zero => rfl
  | succ n ih =>
    unfold Page.subtreeWithin Element.elements
    rw [restored.children id within]
    exact congrArg (id :: ·) (List.flatMap_congr fun child mem =>
      ih (closed id child (Element.mem_elements_iff.mp mem)))

/-! ### What happens to a frame -/

/-- What a user or a host does with a frame. -/
inductive Act where
  /-- An event is sent. -/
  | event (e : Event)
  /-- An element is given the focus. -/
  | focus (id : ElementId)
  /-- The focus is taken away from an element. -/
  | blur (id : ElementId)
  /-- A text is typed into the open editor. -/
  | type (text : String)
  /-- The host sends a message. -/
  | message (m : HostMessage)

namespace Frame

/-- A frame after something was done with it. -/
def perform (f : Frame) : Act → Frame
  | .event e => { f with overlay := (Overlay.reactor.dispatch e f.overlay).world }
  | .focus id => { f with overlay := (Overlay.reactor.focus id f.overlay).1 }
  | .blur id => { f with overlay := (Overlay.reactor.blur id f.overlay).1 }
  | .type text =>
    match f.overlay.session.textEdit? with
    | some edit =>
      { f with overlay := { f.overlay with page := f.overlay.page.setText edit.input text } }
    | none => f
  | .message m => (f.obey m).1

/-- A property, by its name in an inline style, that is shown on an element when something is done. -/
def Shows (f : Frame) (a : Act) (id : ElementId) (name : String) : Prop :=
  match a with
  | .message (.previewStyle selector styles) =>
    f.isActive = true ∧ f.overlay.registry.resolve? f.overlay.page selector = some id ∧
      ∃ s ∈ styles, cssText s.1 = name
  | _ => False

/-- A frame after all that was done with it. -/
def run (f : Frame) (acts : List Act) : Frame := acts.foldl perform f

/-- The page after design mode was switched on, things were done, and it was switched off again. -/
def pageAfter (f : Frame) (acts : List Act) : Page Hook := (f.enable.run acts).disable.overlay.page

/-- The properties that are shown on an element in the course of time. -/
def ShowsIn (f : Frame) : List Act → ElementId → String → Prop
  | [], _, _ => False
  | a :: acts, id, name => f.Shows a id name ∨ (f.perform a).ShowsIn acts id name

end Frame

/-! ### What remains of the page -/

namespace Overlay

/-- The elements of a page, with a cross-hair over the body. -/
def crossed (base : Page Hook) : ElementId → Element :=
  Function.update base.element Page.body ((base.element Page.body).setStyle "cursor" "crosshair" false)

/-- The elements of a page, without a cursor of the body. -/
def uncrossed (base : Page Hook) : ElementId → Element :=
  Function.update base.element Page.body ((base.element Page.body).removeStyle "cursor")

variable {base : Page Hook} {before : ElementId → Element} {shown : ElementId → String → Prop} {k : Nat}

theorem uncrossed_crossed (base : Page Hook) :
    Function.update (crossed base) Page.body ((crossed base Page.body).removeStyle "cursor") = uncrossed base := by
  unfold crossed
  rw [Function.update_idem, Function.update_self, removeStyle_setStyle]
  rfl

theorem alike_crossed (base : Page Hook) (id : ElementId) :
    Alike (Function.update (uncrossed base) Page.body
      ((uncrossed base Page.body).setStyle "cursor" "crosshair" false) id) (crossed base id) := by
  unfold uncrossed crossed
  rw [Function.update_idem, Function.update_self]
  by_cases isBody : id = Page.body
  · rw [isBody, Function.update_self, Function.update_self]
    exact alike_setStyle ..
  · rw [Function.update_of_ne isBody, Function.update_of_ne isBody]
    exact .refl _

/-- The number of the session that the listeners on the whole page belong to. -/
theorem Covers.sessionNumber {o : Overlay} (covers : Covers base before shown (base.registrations ++ pageListeners k) o) :
    o.sessionNumber = k :=
  (covers.own _ (List.mem_append_right _ (List.mem_cons_self ..)) _ rfl).2.symm

/-- What is heard is heard in this session. -/
theorem Covers.react_eq {o : Overlay} (covers : Covers base before shown (base.registrations ++ pageListeners k) o)
    {h : Hook} (session : h.session = k) (e : Event) : o.react h e = o.reactTo h.trigger e := by
  have current : o.retired[h.session]? = none := by
    rw [session, ← covers.sessionNumber]
    exact List.getElem?_eq_none (Nat.le_refl _)
  unfold react
  rw [current]

/-- **Under the overlay**, every listener leaves it in its place. -/
theorem Covers.stands (base : Page Hook) (before : ElementId → Element) (shown : ElementId → String → Prop) (k : Nat) :
    reactor.Stands (fun h => h.session = k) (Covers base before shown (base.registrations ++ pageListeners k)) where
  registered o covers g mem h tool := by
    rw [← covers.sessionNumber]
    rw [show (reactor.page o).registrations = _ from covers.registrations] at mem
    obtain old | new := List.mem_append.mp mem
    · exact (covers.own g old h tool).2
    · unfold editors at new
      split at new
      · obtain ⟨-, trigger, eq⟩ := editor_of_mem new
        cases eq.symm.trans tool
        rfl
      · cases new
  react o covers h session e := by
    show Covers _ _ _ _ (o.react h e).1
    rw [covers.react_eq session e]
    exact covers.reactTo h.trigger e
  heard o covers _ := covers.rearrange (covers.hosts.congr rfl fun _ => rfl) (.congr rfl) rfl
  active o covers _ := covers.rearrange (covers.hosts.congr rfl fun _ => rfl) (.congr rfl) rfl

/-- Without the overlay, only the page's own listeners hear anything. -/
theorem Uncovered.stands (before : ElementId → Element) (shown : ElementId → String → Prop) (own : IsOwn base) :
    reactor.Stands (fun _ => False)
      (fun o => o.session.textEdit? = none ∧ Uncovered base before shown o.page) where
  registered o holds g mem h tool := by
    rw [show (reactor.page o).registrations = _ from holds.2.registrations] at mem
    obtain ⟨l, eq⟩ := own g mem
    cases eq.symm.trans tool
  react _ _ _ none := none.elim
  heard o holds _ := ⟨holds.1, holds.2.congr rfl rfl⟩
  active o holds _ := ⟨holds.1, holds.2.congr rfl rfl⟩

end Overlay

/-! ### Step by step -/

namespace Frame

/-- A frame that was visited: either the overlay covers the page, or no overlay lies over it. -/
inductive Visited (base : Page Hook) (shown : ElementId → String → Prop) (f : Frame) : Prop where
  /-- Design mode is on. -/
  | on (active : f.isActive = true) (covers : Covers base (Overlay.crossed base) shown
      (base.registrations ++ pageListeners f.overlay.sessionNumber) f.overlay)
  /-- Design mode is off. -/
  | off (inactive : f.isActive = false) (idle : f.overlay.session.textEdit? = none)
    (uncovered : Uncovered base (Overlay.uncrossed base) shown f.overlay.page)

variable {base : Page Hook} {shown shown' : ElementId → String → Prop} {f : Frame}

theorem Visited.congr_shown (visited : f.Visited base shown) (same : ∀ id name, shown id name ↔ shown' id name) :
    f.Visited base shown' :=
  (funext fun id => funext fun name => propext (same id name) : shown = shown') ▸ visited

/-- Most of what is done shows nothing. -/
theorem Visited.silent {f' : Frame} {a : Act} (visited : f'.Visited base shown)
    (quiet : ∀ id name, ¬ f.Shows a id name) :
    f'.Visited base fun id name => shown id name ∨ f.Shows a id name :=
  visited.congr_shown fun id name => (or_iff_left (quiet id name)).symm

/-- The overlay goes on in its session. -/
theorem Visited.goOn {o : Overlay} (active : f.isActive = true) {k : Nat}
    (covers : Covers base (Overlay.crossed base) shown (base.registrations ++ pageListeners k) o) :
    ({ f with overlay := o } : Frame).Visited base shown :=
  .on active (covers.sessionNumber.symm ▸ covers)

theorem Visited.enable (visited : f.Visited base shown) (own : IsOwn base) : f.enable.Visited base shown := by
  unfold Frame.enable
  cases visited with
  | on active covers =>
    rw [if_pos active]
    exact .on active covers
  | off inactive idle uncovered =>
    rw [if_neg (by simp [inactive])]
    have installed := Uncovered.install (o := f.overlay.renew) uncovered own rfl
    exact .goOn (f := { f with isActive := true }) rfl (installed.congr_before (Overlay.alike_crossed base))

theorem Visited.disable (visited : f.Visited base shown) (own : IsOwn base) :
    f.disable.Visited base shown ∧ f.disable.isActive = false := by
  unfold Frame.disable
  cases visited with
  | on active covers =>
    rw [if_pos active]
    obtain ⟨uncovered, idle⟩ := covers.teardown own
    rw [Overlay.uncrossed_crossed] at uncovered
    exact ⟨.off rfl idle uncovered, rfl⟩
  | off inactive idle uncovered =>
    rw [if_neg (by simp [inactive])]
    exact ⟨.off inactive idle uncovered, inactive⟩

/-- While design mode is off, the host can switch it on and no more. -/
theorem obey_of_inactive (inactive : f.isActive = false) {m : HostMessage} (other : m ≠ .enable) :
    (f.obey m).1 = f := by
  cases m with
  | enable => exact absurd rfl other
  | disable => exact if_neg (by simp [inactive])
  | _ =>
    unfold Frame.obey
    simp [inactive]

theorem obey_previewStyle (active : f.isActive = true) (selector : String) (styles : Table String String) :
    (f.obey (.previewStyle selector styles)).1 =
      { f with overlay := (f.overlay.applyPreview selector styles).1 } := by
  unfold Frame.obey
  simp [active]

theorem obey_clearPreview (active : f.isActive = true) (selector? : Option String) :
    (f.obey (.clearPreview selector?)).1 = { f with overlay := f.overlay.clearPreview selector? } := by
  unfold Frame.obey
  simp [active]

theorem obey_selectElement (active : f.isActive = true) {selector : String} {id : ElementId}
    (found : f.overlay.registry.resolve? f.overlay.page selector = some id) :
    (f.obey (.selectElement selector)).1 = { f with overlay := (f.overlay.select id false).1 } := by
  unfold Frame.obey
  simp [active, found]

theorem obey_selectElement_of_missing (active : f.isActive = true) {selector : String}
    (missing : f.overlay.registry.resolve? f.overlay.page selector = none) :
    (f.obey (.selectElement selector)).1 = f := by
  unfold Frame.obey
  simp [active, missing]

/-- A text is set, and if it was, the host is told. -/
theorem obey_updateText (active : f.isActive = true) (selector text : String) :
    ∃ sent, (f.obey (.updateText selector text)).1 =
      { f with overlay := { (f.overlay.updateText selector text).1 with sent } } := by
  unfold Frame.obey
  simp only [active]
  generalize f.overlay.updateText selector text = out
  obtain ⟨o, texts?⟩ := out
  cases texts? with
  | none => exact ⟨o.sent, rfl⟩
  | some texts => exact ⟨_, rfl⟩

/-- To show styles on an element adds them to what was shown on it. -/
theorem Visited.previewStyle (active : f.isActive = true) {k : Nat}
    (covers : Covers base (Overlay.crossed base) shown (base.registrations ++ pageListeners k) f.overlay)
    (selector : String) (styles : Table String String) :
    (f.obey (.previewStyle selector styles)).1.Visited base fun id name =>
      shown id name ∨ f.Shows (.message (.previewStyle selector styles)) id name := by
  rw [obey_previewStyle active]
  unfold Overlay.applyPreview
  cases found : f.overlay.registry.resolve? f.overlay.page selector with
  | none => exact (Visited.goOn active covers).congr_shown fun id name => by simp [Shows, found]
  | some id =>
    exact (Visited.goOn active (covers.showStyles id styles)).congr_shown fun other name => by
      simp [Shows, found, active, eq_comm]

/-- **A message of the host** is obeyed. -/
theorem Visited.obey (visited : f.Visited base shown) (own : IsOwn base) (m : HostMessage) :
    (f.obey m).1.Visited base fun id name => shown id name ∨ f.Shows (.message m) id name := by
  by_cases enables : m = .enable
  · subst enables
    exact (visited.enable own).silent fun _ _ => not_false
  · cases visited with
    | off inactive idle uncovered =>
      rw [obey_of_inactive inactive enables]
      refine (Visited.off inactive idle uncovered).silent fun id name => ?_
      cases m with
      | previewStyle selector styles => simp [Shows, inactive]
      | _ => exact not_false
    | on active covers =>
      cases m with
      | enable => exact absurd rfl enables
      | disable => exact ((Visited.on active covers).disable own).1.silent fun _ _ => not_false
      | previewStyle selector styles => exact Visited.previewStyle active covers selector styles
      | clearPreview selector? =>
        rw [obey_clearPreview active]
        exact (Visited.goOn active (covers.clearPreview selector?)).silent fun _ _ => not_false
      | selectElement selector =>
        cases found : f.overlay.registry.resolve? f.overlay.page selector with
        | none =>
          rw [obey_selectElement_of_missing active found]
          exact (Visited.on active covers).silent fun _ _ => not_false
        | some id =>
          rw [obey_selectElement active found]
          exact (Visited.goOn active (covers.select id false)).silent fun _ _ => not_false
      | updateText selector text =>
        obtain ⟨sent, updated⟩ := obey_updateText active selector text
        rw [updated]
        have covers := (covers.updateText selector text).say (f.overlay.updateText selector text).1.registry sent
        exact (Visited.goOn active covers).silent fun _ _ => not_false

/-- **Whatever is done with a frame**, it was visited. -/
theorem Visited.perform (visited : f.Visited base shown) (own : IsOwn base) (a : Act) :
    (f.perform a).Visited base fun id name => shown id name ∨ f.Shows a id name := by
  cases a with
  | message m => exact visited.obey own m
  | event e =>
    refine Visited.silent ?_ fun _ _ => not_false
    cases visited with
    | on active covers => exact .goOn active ((Overlay.Covers.stands ..).dispatch covers e)
    | off inactive idle uncovered =>
      obtain ⟨idle, uncovered⟩ := (Uncovered.stands _ _ own).dispatch (w := f.overlay) ⟨idle, uncovered⟩ e
      exact .off inactive idle uncovered
  | focus id =>
    refine Visited.silent ?_ fun _ _ => not_false
    cases visited with
    | on active covers => exact .goOn active ((Overlay.Covers.stands ..).focus covers id)
    | off inactive idle uncovered =>
      obtain ⟨idle, uncovered⟩ := (Uncovered.stands _ _ own).focus (w := f.overlay) ⟨idle, uncovered⟩ id
      exact .off inactive idle uncovered
  | blur id =>
    refine Visited.silent ?_ fun _ _ => not_false
    cases visited with
    | on active covers => exact .goOn active ((Overlay.Covers.stands ..).blur covers id)
    | off inactive idle uncovered =>
      obtain ⟨idle, uncovered⟩ := (Uncovered.stands _ _ own).blur (w := f.overlay) ⟨idle, uncovered⟩ id
      exact .off inactive idle uncovered
  | type text =>
    refine Visited.silent ?_ fun _ _ => not_false
    unfold Frame.perform
    dsimp only
    split
    · rename_i edit editing
      cases visited with
      | on active covers => exact .goOn active (covers.type editing text)
      | off inactive idle uncovered => cases idle.symm.trans editing
    · exact visited

/-- By induction on all that is done. -/
theorem Visited.run (visited : f.Visited base shown) (own : IsOwn base) (acts : List Act) :
    (f.run acts).Visited base fun id name => shown id name ∨ f.ShowsIn acts id name := by
  induction acts generalizing f shown with
  | nil => exact visited.congr_shown fun id name => (or_iff_left not_false).symm
  | cons a acts ih => exact (ih (visited.perform own a)).congr_shown fun id name => or_assoc

/-- Design mode is switched on. -/
theorem Visited.enabled {f : Frame} (off : f.isActive = false) (own : IsOwn f.overlay.page)
    (closed : f.overlay.page.IsClosed) (there : Page.body < f.overlay.page.elements.length) :
    f.enable.Visited f.overlay.page fun _ _ => False := by
  have installed := Uncovered.install (o := f.overlay.renew) (.start closed there) own rfl
  unfold Frame.enable
  rw [if_neg (by simp [off])]
  exact .goOn (f := { f with isActive := true }) rfl installed

/-- Design mode is switched on, things are done, and it is switched off again. -/
theorem uncovered_pageAfter {f : Frame} (off : f.isActive = false) (own : IsOwn f.overlay.page)
    (closed : f.overlay.page.IsClosed) (there : Page.body < f.overlay.page.elements.length)
    (acts : List Act) :
    Uncovered f.overlay.page (Overlay.uncrossed f.overlay.page) (f.enable.ShowsIn acts)
      (f.pageAfter acts) := by
  have enabled := Visited.enabled off own closed there
  obtain ⟨visited, inactive⟩ := (enabled.run own acts).disable own
  cases visited with
  | on active => cases inactive.symm.trans active
  | off _ _ uncovered => exact uncovered.congr_shown fun id name => or_iff_right not_false

/-- **When the page is as it was found**: design mode is switched on, the user and the host do what they
like, and it is switched off again. Then the page is as it was exactly if its texts are, the body had no
cursor of its own, and no property that was shown on an element was important there. -/
theorem restored_pageAfter_iff {f : Frame} (off : f.isActive = false) (own : IsOwn f.overlay.page)
    (closed : f.overlay.page.IsClosed) (there : Page.body < f.overlay.page.elements.length)
    (acts : List Act) :
    Restored f.overlay.page (f.pageAfter acts) ↔
      (∀ id < f.overlay.page.elements.length,
        ((f.pageAfter acts).element id).texts = (f.overlay.page.element id).texts) ∧
      (Table.get? (f.overlay.page.element Page.body).style "cursor" = none ∧
        "cursor" ∉ (f.overlay.page.element Page.body).important) ∧
      ∀ id < f.overlay.page.elements.length, ∀ name, f.enable.ShowsIn acts id name →
        name ∉ (f.overlay.page.element id).important := by
  obtain ⟨-, hosts, worn, registrations⟩ := uncovered_pageAfter off own closed there acts
  generalize f.pageAfter acts = p' at *
  generalize f.overlay.page = p at *
  have elsewhere (id : ElementId) (within : id < p.elements.length) (ne : id ≠ Page.body) :
      Alike (p.element id) (p'.element id) ↔
        ∀ name, f.enable.ShowsIn acts id name → name ∉ (p.element id).important := by
    have worn := worn id within
    rw [Overlay.uncrossed, Function.update_of_ne ne] at worn
    exact worn.alike_iff
  have ofBody : Alike (p.element Page.body) (p'.element Page.body) ↔
      (Table.get? (p.element Page.body).style "cursor" = none ∧ "cursor" ∉ (p.element Page.body).important) ∧
        ∀ name, f.enable.ShowsIn acts Page.body name → name ∉ (p.element Page.body).important := by
    have worn := worn Page.body there
    rw [Overlay.uncrossed, Function.update_self] at worn
    exact worn.alike_iff_of_removeStyle
  constructor
  · rintro ⟨children, alike, -⟩
    obtain ⟨cursor, shown⟩ := ofBody.mp (alike Page.body there)
    refine ⟨fun id within => congrArg (List.filterMap Node.text?) (children id within), cursor,
      fun id within => ?_⟩
    by_cases isBody : id = Page.body
    · rw [isBody]
      exact shown
    · exact (elsewhere id within isBody).mp (alike id within)
  · rintro ⟨texts, cursor, unimportant⟩
    refine ⟨fun id within => hosts.children_eq within (texts id within), fun id within => ?_, registrations⟩
    by_cases isBody : id = Page.body
    · rw [isBody]
      exact ofBody.mpr ⟨cursor, unimportant Page.body there⟩
    · exact (elsewhere id within isBody).mpr (unimportant id within)

/-- A frame with a page of one paragraph, with an inline style of the body and important properties of the
paragraph. -/
def greeting (body : Table String String) (important : List String) : Frame where
  overlay := { page := { elements := [
    { tag := "html", children := [.element Page.head, .element Page.body] }, { tag := "head" },
    { tag := "body", style := body, children := [.element 3] },
    { tag := "p", attributes := [("id", "a")], style := [("color", "blue"), ("margin", "0")], important,
      children := [.text "Hello"] }] } }

/-- A colour is shown on the paragraph, and the paragraph is clicked. -/
def visit : List Act :=
  [.message (.previewStyle "#a" [("color", "red")]), .event { type := "click", target? := some 3 }]

/-- A page whose body has no cursor, and whose paragraph has no important colour, is as it was. -/
theorem greeting_restored :
    Restored (greeting [("margin", "0")] ["margin"]).overlay.page
      ((greeting [("margin", "0")] ["margin"]).pageAfter visit) := by
  refine (restored_pageAfter_iff (f := greeting [("margin", "0")] ["margin"]) rfl (List.forall_mem_nil _)
    (Page.isClosed_of_forall (by decide)) (by decide) visit).mpr ⟨by decide +kernel, by decide, ?_⟩
  have unimportant : ∀ id < 4, cssText "color" ∉
      ((greeting [("margin", "0")] ["margin"]).overlay.page.element id).important := by decide
  rintro id within name (⟨-, -, s, mem, rfl⟩ | none | none)
  · rw [List.mem_singleton.mp mem]
    exact unimportant id within
  · exact none.elim
  · exact none.elim

/-- The cursor of a body and the mark of an important colour are lost, though no text is changed. -/
theorem greeting_lost :
    (∀ id < 4, (((greeting [("cursor", "pointer")] ["color"]).pageAfter visit).element id).texts =
        ((greeting [("cursor", "pointer")] ["color"]).overlay.page.element id).texts) ∧
      ¬ Restored (greeting [("cursor", "pointer")] ["color"]).overlay.page
        ((greeting [("cursor", "pointer")] ["color"]).pageAfter visit) := by
  have cursor : Table.get? (((greeting [("cursor", "pointer")] ["color"]).pageAfter visit).element
      Page.body).style "cursor" = none := by decide +kernel
  refine ⟨by decide +kernel, fun restored => ?_⟩
  have kept := (restored.alike Page.body (by decide)).style "cursor"
  rw [cursor] at kept
  cases kept

end Frame

end Retouch
