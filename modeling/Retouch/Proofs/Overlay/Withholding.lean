import Retouch.Proofs.Overlay.Restoring

/-!
# Events that never get to the page

While design mode is on, clicks and double clicks are the overlay's, wherever they go, and so are keys that
are pressed in form controls, except for the escape key. None of the page's listeners hears such an event,
unless it listens on the whole page on the way down (`Frame.withheld`). The page may do what it likes with
its tree and with its own listeners meanwhile.
-/

namespace Retouch

open Overlay (Covers IsOwn editors pageListeners pageTriggers)

/-! ### The overlay's listeners -/

namespace Listener

variable {κ : Type}

/-- The listener is a tool's. -/
def isTool : Listener κ → Bool
  | .own _ => false
  | .tool _ => true

end Listener

namespace Page

variable {κ : Type}

/-- The listeners of a tool, in order of registration. -/
def toolRegistrations (p : Page κ) : List (Registration κ) := p.registrations.filter (·.listener.isTool)

/-- No listener of the page's own hears events on the way down before they get to the root. -/
def LeavesWayDown (p : Page κ) : Prop :=
  ∀ g ∈ p.registrations, g.place? = none → g.isCapturing = true → g.listener.isTool = true

instance (p : Page κ) : Decidable p.LeavesWayDown :=
  inferInstanceAs (Decidable (∀ g ∈ p.registrations, _ → _ → _))

/-- Then all those that hear them there are the tool's. -/
theorem listeners_of_leavesWayDown {p : Page κ} (leaves : p.LeavesWayDown) (type : String) :
    p.listeners none type true =
      (p.toolRegistrations.filter fun g => g.place? == none && g.type == type && g.isCapturing == true).map
        (·.listener) := by
  unfold listeners toolRegistrations
  rw [List.filter_filter]
  refine congrArg _ (List.filter_congr fun g mem => ?_)
  cases there : g.place? == none && g.type == type && g.isCapturing == true with
  | false => rfl
  | true =>
    obtain ⟨place, capturing⟩ := Bool.and_eq_true_iff.mp there
    obtain ⟨place, -⟩ := Bool.and_eq_true_iff.mp place
    rw [leaves g mem (eq_of_beq place) (eq_of_beq capturing)]
    rfl

end Page

namespace Overlay

variable {base : Page Hook} {before : ElementId → Element} {shown : ElementId → String → Prop} {o : Overlay}

/-- The listeners of the open editor are a tool's, on an element. -/
theorem tool_of_mem_editors {g : Registration Hook} (mem : g ∈ editors o) :
    (∃ input, g.place? = some input) ∧ ∃ h, g.listener = .tool h := by
  unfold editors at mem
  split at mem
  · obtain ⟨place, trigger, tool⟩ := editor_of_mem mem
    exact ⟨⟨_, place⟩, _, tool⟩
  · cases mem

/-- Under the overlay, the tool's listeners are those of the session on the whole page, and the editor's. -/
theorem Covers.toolRegistrations (own : IsOwn base)
    (covers : Covers base before shown (base.registrations ++ pageListeners o.sessionNumber) o) :
    o.page.toolRegistrations = pageListeners o.sessionNumber ++ editors o := by
  have others : base.registrations.filter (·.listener.isTool) = [] := by
    refine List.filter_eq_nil_iff.mpr fun g mem => ?_
    obtain ⟨l, eq⟩ := own g mem
    rw [eq]
    exact Bool.false_ne_true
  have tools : (pageListeners o.sessionNumber ++ editors o).filter (·.listener.isTool) =
      pageListeners o.sessionNumber ++ editors o := by
    refine List.filter_eq_self.mpr fun g mem => ?_
    obtain mem | mem := List.mem_append.mp mem
    · obtain ⟨t, -, rfl⟩ := List.mem_map.mp mem
      rfl
    · obtain ⟨-, h, eq⟩ := tool_of_mem_editors mem
      rw [eq]
      rfl
  unfold Page.toolRegistrations
  rw [covers.registrations, List.append_assoc, List.filter_append, others, List.nil_append, tools]

/-- What the session hears on the way down. -/
theorem Covers.listeners (own : IsOwn base)
    (covers : Covers base before shown (base.registrations ++ pageListeners o.sessionNumber) o) {p : Page Hook}
    (same : p.toolRegistrations = o.page.toolRegistrations) (leaves : p.LeavesWayDown) (type : String) :
    p.listeners none type true =
      (pageTriggers.filter fun t => t.1 == type && t.2.1).map fun t => .tool ⟨o.sessionNumber, t.2.2⟩ := by
  have inside : (editors o).filter (fun g => g.place? == none && g.type == type && g.isCapturing == true) = [] := by
    refine List.filter_eq_nil_iff.mpr fun g mem => ?_
    obtain ⟨⟨input, place⟩, -⟩ := tool_of_mem_editors mem
    simp [place]
  rw [Page.listeners_of_leavesWayDown leaves, same, covers.toolRegistrations own, List.filter_append, inside,
    List.append_nil, pageListeners, List.filter_map, List.map_map]
  refine congrArg _ (List.filter_congr fun t _ => ?_)
  simp

/-- An event that the overlay keeps from the page: a click, a double click, or a key that is pressed in a form
control and is not the escape key. -/
def Withholds (o : Overlay) (e : Event) : Prop :=
  e.type = "click" ∨ e.type = "dblclick" ∨
    e.type = "keydown" ∧ e.key ≠ "Escape" ∧ (o.formControl? e.target?).isSome = true

instance (o : Overlay) (e : Event) : Decidable (o.Withholds e) := inferInstanceAs (Decidable (_ ∨ _ ∨ _))

/-! ### Events that are stopped -/

/-- What is heard in the session that is on is heard in the overlay as it is. -/
theorem react_current (o : Overlay) (t : Trigger) (e : Event) : o.react ⟨o.sessionNumber, t⟩ e = o.reactTo t e := by
  unfold react
  rw [show o.retired[o.sessionNumber]? = none from List.getElem?_eq_none (Nat.le_refl _)]

/-- A listener of the session that is on has stopped the event when it returns, if it stops it at all. -/
theorem isOver_call {next : Reaction → Overlay → Overlay × Option PositionFault} (o : Overlay) (t : Trigger)
    {e : Event} (stops : (o.reactTo t e).2.1.isStopped = true) :
    Reactor.IsOver (reactor.call next ⟨o, e, none⟩ (.tool ⟨o.sessionNumber, t⟩)) := by
  left
  show ((o.react ⟨o.sessionNumber, t⟩ e).2.1).isStopped = true
  rw [react_current]
  exact stops

/-- A key other than escape means nothing to the overlay while no text is edited. -/
theorem call_keyDown {next : Reaction → Overlay → Overlay × Option PositionFault}
    (settles : ∀ o, next .settled o = (o, none)) (o : Overlay) {e : Event} (other : e.key ≠ "Escape") :
    reactor.call next ⟨o, e, none⟩ (.tool ⟨o.sessionNumber, .keyDown⟩) = ⟨o, e, none⟩ := by
  have quiet : o.onKeyDown e.key = o := if_pos (by simpa using other)
  have reacted : reactor.react ⟨o.sessionNumber, .keyDown⟩ e o = (o, e, .settled) := by
    show o.react _ e = _
    rw [react_current]
    show (o.onKeyDown e.key, e, Reaction.settled) = _
    rw [quiet]
  unfold Reactor.call
  simp only [Option.isSome_none, Bool.false_eq_true, if_false, reacted, settles]

/-- **An event that is withheld** is over when the session has heard it. -/
theorem Covers.isOver (own : IsOwn base)
    (covers : Covers base before shown (base.registrations ++ pageListeners o.sessionNumber) o) {p : Page Hook}
    (same : p.toolRegistrations = o.page.toolRegistrations) (leaves : p.LeavesWayDown) {e : Event}
    (withholds : ({ o with page := p } : Overlay).Withholds e)
    {next : Reaction → Overlay → Overlay × Option PositionFault} (settles : ∀ o, next .settled o = (o, none)) :
    Reactor.IsOver (reactor.fireNoted next (⟨{ o with page := p }, e, none⟩, []) (none, true)).1 := by
  let o' : Overlay := { o with page := p }
  have heard : p.listeners none e.type true = _ := covers.listeners own same leaves e.type
  rw [Reactor.fst_fireNoted]
  show Reactor.IsOver ((p.listeners none e.type true).foldl (reactor.call next) ⟨o', e, none⟩)
  rw [heard]
  obtain click | double | ⟨key, other, control⟩ := withholds
  · rw [click]
    exact isOver_call o' .click rfl
  · rw [double]
    exact isOver_call o' .doubleClick rfl
  · rw [key]
    have stops : (o'.reactTo .formKeyDown e).2.1.isStopped = true := by
      have inside : ((o'.formControl? e.target?).isSome && e.key != "Escape") = true := by
        rw [control, Bool.true_and, bne_iff_ne]
        exact other
      rw [show o'.reactTo .formKeyDown e = (o', e.prevent.stop, .settled) from if_pos inside]
      rfl
    show Reactor.IsOver (reactor.call next (reactor.call next ⟨o', e, none⟩ (.tool ⟨o'.sessionNumber, .keyDown⟩))
      (.tool ⟨o'.sessionNumber, .formKeyDown⟩))
    rw [call_keyDown settles o' other]
    exact isOver_call o' .formKeyDown stops

end Overlay

namespace Frame

/-- **Events that are withheld from the page**: design mode is switched on, and things are done, by the user, by
the host, and by the page with its tree and its own listeners. As long as design mode is on, none of the
page's own listeners hears a click, a double click, or a key other than escape in a form control, unless it
listens on the whole page on the way down. -/
theorem withheld {f : Frame} (off : f.isActive = false) (own : IsOwn f.overlay.page)
    (closed : f.overlay.page.IsClosed) (there : Page.body < f.overlay.page.elements.length) (acts : List Act)
    (on : (f.enable.run acts).isActive = true) (p : Page Hook)
    (same : p.toolRegistrations = (f.enable.run acts).overlay.page.toolRegistrations)
    (leaves : p.LeavesWayDown) (e : Event)
    (withholds : ({ (f.enable.run acts).overlay with page := p } : Overlay).Withholds e) :
    ∀ l ∈ Overlay.reactor.hearers e { (f.enable.run acts).overlay with page := p }, l.isTool = true := by
  cases (Visited.enabled off own closed there).run own acts with
  | off inactive => cases inactive.symm.trans on
  | on active covers =>
    generalize (f.enable.run acts).overlay = o at *
    intro l mem
    unfold Reactor.hearers at mem
    by_cases stopped : e.isStopped = true
    · rw [Reactor.dispatchNoted_of_isStopped stopped] at mem
      cases mem
    · have settles (o : Overlay) : Overlay.reactor.follow Reactor.depth .settled o = (o, none) := rfl
      have isOver := covers.isOver own same leaves withholds settles
      rw [Reactor.dispatchNoted_of_isOver (by simpa using stopped) isOver] at mem
      obtain none | registered := Reactor.mem_fireNoted mem
      · cases none
      · obtain ⟨g, found, rfl⟩ := List.mem_map.mp registered
        obtain ⟨mem, here⟩ := List.mem_filter.mp found
        obtain ⟨place, capturing⟩ := Bool.and_eq_true_iff.mp here
        obtain ⟨place, -⟩ := Bool.and_eq_true_iff.mp place
        exact leaves g mem (eq_of_beq place) (eq_of_beq capturing)

/-- A frame with a page of a form control and a paragraph. -/
def form : Frame where
  overlay := { page := { elements := [
    { tag := "html", children := [.element Page.head, .element Page.body] }, { tag := "head" },
    { tag := "body", children := [.element 3, .element 4] }, { tag := "input" },
    { tag := "p", children := [.text "Hello"] }] } }

/-- The paragraph is being edited when the page begins to listen to keys: on the form control, and as a whole. -/
def listening : Overlay :=
  let o := (form.enable.run [.event { type := "dblclick", target? := some 4 }]).overlay
  let onControl : Registration Hook :=
    { place? := some 3, type := "keydown", isCapturing := true, listener := .own ⟨"control", .nothing⟩ }
  let onPage : Registration Hook :=
    { place? := none, type := "keydown", isCapturing := false, listener := .own ⟨"page", .nothing⟩ }
  { o with page := (o.page.listen onControl).listen onPage }

/-- The page hears no letters that are typed into the form control, but it hears the escape key. -/
theorem listening_withheld :
    (∀ l ∈ Overlay.reactor.hearers { type := "keydown", target? := some 3, key := "a" } listening, l.isTool = true) ∧
      (Overlay.reactor.hearers { type := "keydown", target? := some 3, key := "Escape" } listening).map
        (·.isTool) = [true, true, false, false] :=
  ⟨withheld (f := form) rfl (List.forall_mem_nil _) (Page.isClosed_of_forall (by decide)) (by decide)
    [.event { type := "dblclick", target? := some 4 }] (by decide +kernel) listening.page (by decide +kernel)
    (by decide +kernel) _ (by decide +kernel), by decide +kernel⟩

end Frame

end Retouch
