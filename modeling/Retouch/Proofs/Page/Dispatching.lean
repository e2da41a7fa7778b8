import Mathlib.Data.List.Basic
import Retouch.Page.Event

/-!
# What events leave standing

An event calls the listeners that are registered where it gets to, and these may send further events. So
what every listener leaves standing, and no move of the focus touches, stands when the event is over, and
when the focus was moved (`Stands.dispatch`, `Stands.focus`, `Stands.blur`).

A listener is called even if it was taken off a moment ago by another one in the same place. So listeners
are asked what they leave standing by what they are, not by whether they are registered still.

What the listeners of a tool hear in the course of an event can be noted beside the state (`Reactor.noting`).
The notes change nothing: without them, the state is what it is otherwise (`Views.dispatch`, `Views.focus` and
`Views.blur`, with `views_noting`). In the same way, the listeners that an event is handed to are noted on its way
(`hearers`, with `fst_dispatchNoted`); events that listeners send meanwhile are other events. If the listeners on
the whole page, which come first, stop the event or fail, then no others hear it (`dispatchNoted_of_isOver`).
-/

namespace Retouch

/-- An event on its way, with the state seen through a view. -/
def Course.through {W W' : Type} (view : W' → W) (c : Course W') : Course W := ⟨view c.world, c.event, c.fault?⟩

namespace Reactor

variable {κ W : Type}

/-- What every listener of a kind leaves standing, where no others of the tool are registered. -/
structure Stands (r : Reactor κ W) (isKind : κ → Prop) (P : W → Prop) : Prop where
  /-- Only listeners of this kind are registered. -/
  registered : ∀ w, P w → ∀ g ∈ (r.page w).registrations, ∀ k, g.listener = .tool k → isKind k
  /-- They leave it standing. -/
  react : ∀ w, P w → ∀ k, isKind k → ∀ e, P (r.react k e w).1
  /-- It does not matter what the page's own listeners have heard. -/
  heard : ∀ w, P w → ∀ heard, P (r.setPage { r.page w with heard } w)
  /-- It does not matter where the focus is. -/
  active : ∀ w, P w → ∀ active?, P (r.setPage { r.page w with active? } w)

namespace Stands

variable {r : Reactor κ W} {isKind : κ → Prop} {P : W → Prop}
  {next : Reaction → W → W × Option PositionFault}

theorem reactOwn (stands : r.Stands isKind P) {w : W} (holds : P w) (l : OwnListener) (e : Event) :
    P (r.reactOwn l e w).1 := by
  unfold Reactor.reactOwn
  dsimp only
  split <;> exact stands.heard w holds _

theorem call (stands : r.Stands isKind P) (follows : ∀ reaction w, P w → P (next reaction w).1)
    {c : Course W} (holds : P c.world) {l : Listener κ} (kind : ∀ k, l = .tool k → isKind k) :
    P (r.call next c l).world := by
  unfold Reactor.call
  split
  · exact holds
  · cases l with
    | own l => exact follows _ _ (stands.reactOwn holds l c.event)
    | tool k => exact follows _ _ (stands.react c.world holds k (kind k rfl) c.event)

/-- The listeners in one place are those that are registered when the event gets there. -/
theorem fire (stands : r.Stands isKind P) (follows : ∀ reaction w, P w → P (next reaction w).1)
    {c : Course W} (holds : P c.world) (place : Option ElementId × Bool) :
    P (r.fire next place c).world := by
  unfold Reactor.fire
  have kinds : ∀ l ∈ (r.page c.world).listeners place.1 c.event.type place.2, ∀ k, l = .tool k → isKind k := by
    intro l mem k tool
    obtain ⟨g, registered, rfl⟩ := List.mem_map.mp mem
    exact stands.registered c.world holds g (List.mem_filter.mp registered).1 k tool
  generalize (r.page c.world).listeners place.1 c.event.type place.2 = ls at kinds
  induction ls generalizing c with
  | nil => exact holds
  | cons l ls ih =>
    obtain ⟨kind, kinds⟩ := List.forall_mem_cons.mp kinds
    exact ih (stands.call follows holds kind) kinds

theorem dispatchWith (stands : r.Stands isKind P) (follows : ∀ reaction w, P w → P (next reaction w).1)
    {w : W} (holds : P w) (e : Event) : P (r.dispatchWith next e w).world := by
  unfold Reactor.dispatchWith
  refine List.foldlRecOn (motive := fun c : Course W => P c.world) _ _ holds fun c holds group _ => ?_
  split
  · exact holds
  · exact List.foldlRecOn (motive := fun c : Course W => P c.world) group _ holds fun c holds place _ =>
      stands.fire follows holds place

theorem blurWith (stands : r.Stands isKind P) (follows : ∀ reaction w, P w → P (next reaction w).1)
    {w : W} (holds : P w) (id : ElementId) : P (r.blurWith next id w).1 := by
  unfold Reactor.blurWith
  dsimp only
  split
  · exact stands.dispatchWith follows (stands.active w holds none) _
  · exact holds

theorem focusWith (stands : r.Stands isKind P) (follows : ∀ reaction w, P w → P (next reaction w).1)
    {w : W} (holds : P w) (id : ElementId) : P (r.focusWith next id w).1 := by
  unfold Reactor.focusWith
  dsimp only
  split
  · exact holds
  · cases (r.page w).active? with
    | none => exact stands.dispatchWith follows (stands.active w holds (some id)) _
    | some previous =>
      have left := stands.blurWith follows holds previous
      dsimp only
      generalize r.blurWith next previous w = blurred at left ⊢
      obtain ⟨w', fault?⟩ := blurred
      cases fault? with
      | some fault => exact left
      | none => exact stands.dispatchWith follows (stands.active w' left (some id)) _

/-- By induction on how deep events follow from events. -/
theorem follow (stands : r.Stands isKind P) (n : Nat) (reaction : Reaction) (w : W) (holds : P w) :
    P (r.follow n reaction w).1 := by
  induction n generalizing reaction w with
  | zero => cases reaction <;> exact holds
  | succ n ih =>
    cases reaction with
    | settled => exact holds
    | failed f => exact holds
    | focus id => exact stands.focusWith ih holds id
    | blur id => exact stands.blurWith ih holds id

/-- **An event** from outside. -/
theorem dispatch (stands : r.Stands isKind P) {w : W} (holds : P w) (e : Event) :
    P (r.dispatch e w).world := stands.dispatchWith (stands.follow depth) holds e

/-- The focus given from outside. -/
theorem focus (stands : r.Stands isKind P) {w : W} (holds : P w) (id : ElementId) : P (r.focus id w).1 :=
  stands.follow depth (.focus id) w holds

/-- The focus taken away from outside. -/
theorem blur (stands : r.Stands isKind P) {w : W} (holds : P w) (id : ElementId) : P (r.blur id w).1 :=
  stands.follow depth (.blur id) w holds

end Stands

/-! ### Notes of what is heard -/

/-- What happens to a state is, through a view, what happens to the state that is seen. -/
structure Views {W' : Type} (r' : Reactor κ W') (r : Reactor κ W) (view : W' → W) : Prop where
  /-- The page is the one that is seen. -/
  page : ∀ w, r'.page w = r.page (view w)
  /-- It is changed as it is seen to change. -/
  setPage : ∀ p w, r.setPage p (view w) = view (r'.setPage p w)
  /-- Listeners do what they are seen to do. -/
  react : ∀ k e w, r.react k e (view w) = (r'.react k e w).map view id

/-- A state, and notes of what the listeners of the tool hear. -/
def noting {M : Type} (r : Reactor κ W) (note : κ → Event → W → M → M) : Reactor κ (W × M) where
  page w := r.page w.1
  setPage p w := (r.setPage p w.1, w.2)
  react k e w := (r.react k e w.1).map (·, note k e w.1 w.2) id

theorem views_noting {M : Type} (r : Reactor κ W) (note : κ → Event → W → M → M) :
    (r.noting note).Views r Prod.fst := ⟨fun _ => rfl, fun _ _ => rfl, fun _ _ _ => rfl⟩

namespace Views

variable {W' : Type} {r' : Reactor κ W'} {r : Reactor κ W} {view : W' → W}
  {next : Reaction → W → W × Option PositionFault} {next' : Reaction → W' → W' × Option PositionFault}

theorem reactOwn (views : r'.Views r view) (l : OwnListener) (e : Event) (w : W') :
    r.reactOwn l e (view w) = (r'.reactOwn l e w).map view id := by
  unfold Reactor.reactOwn
  dsimp only
  rw [views.page, views.setPage]
  split <;> rfl

theorem call (views : r'.Views r view)
    (follows : ∀ reaction w, next reaction (view w) = (next' reaction w).map view id) (c : Course W')
    (l : Listener κ) : r.call next (c.through view) l = (r'.call next' c l).through view := by
  unfold Reactor.call Course.through
  dsimp only
  split
  · rfl
  · cases l with
    | own l =>
      dsimp only
      rw [views.reactOwn]
      exact congrArg (fun out : W × Option PositionFault => (⟨out.1, _, out.2⟩ : Course W)) (follows ..)
    | tool k =>
      dsimp only
      rw [views.react]
      exact congrArg (fun out : W × Option PositionFault => (⟨out.1, _, out.2⟩ : Course W)) (follows ..)

theorem fire (views : r'.Views r view)
    (follows : ∀ reaction w, next reaction (view w) = (next' reaction w).map view id)
    (place : Option ElementId × Bool) (c : Course W') :
    r.fire next place (c.through view) = (r'.fire next' place c).through view := by
  unfold Reactor.fire
  rw [show (c.through view).event = c.event from rfl, show (c.through view).world = view c.world from rfl,
    ← views.page]
  generalize (r'.page c.world).listeners place.1 c.event.type place.2 = ls
  induction ls generalizing c with
  | nil => rfl
  | cons l ls ih =>
    rw [List.foldl_cons, List.foldl_cons, views.call follows]
    exact ih _

theorem dispatchWith (views : r'.Views r view)
    (follows : ∀ reaction w, next reaction (view w) = (next' reaction w).map view id) (e : Event) (w : W') :
    r.dispatchWith next e (view w) = (r'.dispatchWith next' e w).through view := by
  have group (places : List (Option ElementId × Bool)) (c : Course W') :
      places.foldl (fun c place => r.fire next place c) (c.through view) =
        (places.foldl (fun c place => r'.fire next' place c) c).through view := by
    induction places generalizing c with
    | nil => rfl
    | cons place places ih =>
      rw [List.foldl_cons, List.foldl_cons, views.fire follows]
      exact ih _
  unfold Reactor.dispatchWith
  rw [← views.page]
  generalize e.route (r'.page w) = route
  have start : (⟨view w, e, none⟩ : Course W) = (⟨w, e, none⟩ : Course W').through view := rfl
  rw [start]
  generalize (⟨w, e, none⟩ : Course W') = c
  induction route generalizing c with
  | nil => rfl
  | cons places route ih =>
    rw [List.foldl_cons, List.foldl_cons, ← ih]
    refine congrArg (fun c => route.foldl _ c) ?_
    rw [show (c.through view).event = c.event from rfl]
    split
    · rfl
    · exact group places c

theorem blurWith (views : r'.Views r view)
    (follows : ∀ reaction w, next reaction (view w) = (next' reaction w).map view id)
    (element : ElementId) (w : W') :
    r.blurWith next element (view w) = (r'.blurWith next' element w).map view id := by
  unfold Reactor.blurWith
  dsimp only
  rw [← views.page, views.setPage]
  split
  · rw [views.dispatchWith follows]
    rfl
  · rfl

theorem focusWith (views : r'.Views r view)
    (follows : ∀ reaction w, next reaction (view w) = (next' reaction w).map view id)
    (element : ElementId) (w : W') :
    r.focusWith next element (view w) = (r'.focusWith next' element w).map view id := by
  have give (w : W') :
      (let c := r.dispatchWith next { type := "focus", target? := some element }
        (r.setPage { r.page (view w) with active? := some element } (view w))
      (c.world, c.fault?)) =
      (let c := r'.dispatchWith next' { type := "focus", target? := some element }
        (r'.setPage { r'.page w with active? := some element } w)
      (c.world, c.fault?)).map view id := by
    rw [← views.page, views.setPage, views.dispatchWith follows]
    rfl
  unfold Reactor.focusWith
  dsimp only
  rw [show (r.page (view w)).active? = (r'.page w).active? by rw [views.page]]
  split
  · rfl
  · cases (r'.page w).active? with
    | none => exact give w
    | some previous =>
      dsimp only
      rw [views.blurWith follows]
      obtain ⟨w', fault?⟩ := r'.blurWith next' previous w
      cases fault? with
      | some fault => rfl
      | none => exact give w'

/-- By induction on how deep events follow from events. -/
theorem follow (views : r'.Views r view) (n : Nat) (reaction : Reaction) (w : W') :
    r.follow n reaction (view w) = (r'.follow n reaction w).map view id := by
  induction n generalizing reaction w with
  | zero => cases reaction <;> rfl
  | succ n ih =>
    cases reaction with
    | settled => rfl
    | failed f => rfl
    | focus element => exact views.focusWith ih element w
    | blur element => exact views.blurWith ih element w

/-- **An event** from outside. -/
theorem dispatch (views : r'.Views r view) (e : Event) (w : W') :
    r.dispatch e (view w) = (r'.dispatch e w).through view := views.dispatchWith (views.follow depth) e w

/-- The focus given from outside. -/
theorem focus (views : r'.Views r view) (element : ElementId) (w : W') :
    r.focus element (view w) = (r'.focus element w).map view id := views.follow depth (.focus element) w

/-- The focus taken away from outside. -/
theorem blur (views : r'.Views r view) (element : ElementId) (w : W') :
    r.blur element (view w) = (r'.blur element w).map view id := views.follow depth (.blur element) w

end Views

/-! ### Listeners that hear an event -/

/-- A listener called and noted. -/
def callNoted (r : Reactor κ W) (next : Reaction → W → W × Option PositionFault)
    (c : Course W × List (Listener κ)) (l : Listener κ) : Course W × List (Listener κ) :=
  (r.call next c.1 l, if c.1.fault?.isSome then c.2 else c.2 ++ [l])

/-- The listeners in one place called and noted. -/
def fireNoted (r : Reactor κ W) (next : Reaction → W → W × Option PositionFault)
    (c : Course W × List (Listener κ)) (place : Option ElementId × Bool) : Course W × List (Listener κ) :=
  ((r.page c.1.world).listeners place.1 c.1.event.type place.2).foldl (r.callNoted next) c

/-- One group of places on the way of an event. -/
def groupNoted (r : Reactor κ W) (next : Reaction → W → W × Option PositionFault)
    (c : Course W × List (Listener κ)) (group : List (Option ElementId × Bool)) :
    Course W × List (Listener κ) :=
  if c.1.event.isStopped then c else group.foldl (r.fireNoted next) c

/-- An event sent on its way, and the listeners that it is handed to, in order. -/
def dispatchNoted (r : Reactor κ W) (next : Reaction → W → W × Option PositionFault) (e : Event) (w : W) :
    Course W × List (Listener κ) :=
  (e.route (r.page w)).foldl (r.groupNoted next) (⟨w, e, none⟩, [])

/-- The listeners that an event sent from outside is handed to, in order. -/
def hearers (r : Reactor κ W) (e : Event) (w : W) : List (Listener κ) := (r.dispatchNoted (r.follow depth) e w).2

variable {r : Reactor κ W} {next : Reaction → W → W × Option PositionFault}
  {c : Course W × List (Listener κ)}

theorem fst_fireNoted (c : Course W × List (Listener κ)) (place : Option ElementId × Bool) :
    (r.fireNoted next c place).1 = r.fire next place c.1 :=
  (List.foldl_hom Prod.fst fun _ _ => rfl).symm

/-- **Notes change nothing**: the event goes the way that it goes without them. -/
theorem fst_dispatchNoted (e : Event) (w : W) : (r.dispatchNoted next e w).1 = r.dispatchWith next e w := by
  have group (c : Course W × List (Listener κ)) (group : List (Option ElementId × Bool)) :
      (if c.1.event.isStopped then c.1 else group.foldl (fun c place => r.fire next place c) c.1) =
        (r.groupNoted next c group).1 := by
    unfold groupNoted
    split
    · rfl
    · exact List.foldl_hom Prod.fst fun c place => (fst_fireNoted c place).symm
  exact (List.foldl_hom Prod.fst group).symm

/-- Those that are noted in a place are registered there. -/
theorem mem_fireNoted {place : Option ElementId × Bool} {l : Listener κ} (mem : l ∈ (r.fireNoted next c place).2) :
    l ∈ c.2 ∨ l ∈ (r.page c.1.world).listeners place.1 c.1.event.type place.2 := by
  unfold fireNoted at mem
  generalize (r.page c.1.world).listeners place.1 c.1.event.type place.2 = called at mem ⊢
  induction called generalizing c with
  | nil => exact .inl mem
  | cons l' called ih =>
    obtain noted | later := ih mem
    · unfold callNoted at noted
      split at noted
      · exact .inl noted
      · obtain old | new := List.mem_append.mp noted
        · exact .inl old
        · exact .inr (List.mem_singleton.mp new ▸ List.mem_cons_self ..)
    · exact .inr (List.mem_cons_of_mem _ later)

/-! ### Events that are over -/

/-- The event goes no further: it was stopped, or a listener has failed. -/
def IsOver (c : Course W) : Prop := c.event.isStopped = true ∨ c.fault?.isSome = true

theorem fireNoted_of_failed (failed : c.1.fault?.isSome = true) (place : Option ElementId × Bool) :
    r.fireNoted next c place = c := by
  have called (l : Listener κ) : r.callNoted next c l = c := by
    unfold callNoted call
    rw [if_pos failed, if_pos failed]
  exact List.foldl_fixed' called _

theorem groupNoted_of_isOver (isOver : IsOver c.1) (group : List (Option ElementId × Bool)) :
    r.groupNoted next c group = c := by
  unfold groupNoted
  split
  · rfl
  · rename_i going
    have failed := isOver.resolve_left going
    exact List.foldl_fixed' (fireNoted_of_failed failed) _

/-- **An event that is over after the listeners on the whole page** is handed to these only. -/
theorem dispatchNoted_of_isOver {e : Event} {w : W} (going : e.isStopped = false)
    (isOver : IsOver (r.fireNoted next (⟨w, e, none⟩, []) (none, true)).1) :
    r.dispatchNoted next e w = r.fireNoted next (⟨w, e, none⟩, []) (none, true) := by
  have first : r.groupNoted next (⟨w, e, none⟩, []) [(none, true)] =
      r.fireNoted next (⟨w, e, none⟩, []) (none, true) := if_neg (by simp [going])
  unfold dispatchNoted Event.route
  simp only [List.cons_append, List.foldl_cons]
  rw [first]
  exact List.foldl_fixed' (groupNoted_of_isOver isOver) _

/-- An event that was stopped before is handed to no listener. -/
theorem dispatchNoted_of_isStopped {e : Event} (stopped : e.isStopped = true) (w : W) :
    r.dispatchNoted next e w = (⟨w, e, none⟩, []) :=
  List.foldl_fixed' (groupNoted_of_isOver (.inl stopped)) _

end Reactor

end Retouch
