import Mathlib.Data.List.Basic
import Mathlib.Data.List.Induction
import Retouch.Host.EventBus
import Retouch.Wire.Channel

/-!
# Listeners registered and taken back

Whoever registers a listener gets a function that takes it back, on the event bus as on a port of the message
channel. The function does not know its own registration: it takes out the first place of the listener, if
there is one. So an event never calls a listener more often than registrations of it stand, that is, than there
are whose own function has not been called. It calls it exactly as often as long as no function of it is called
a further time; when none of its registrations is left, that does no harm, and all is in order again
(`IsUndisturbed`, `calls_standing_iff`).

What is registered is a listener with the type of event it waits for on the bus, and the listener alone on a
port. The part that both share is about any state that holds a list of registrations (`Holder`).
-/

namespace Retouch.Listening

/-! ### Registrations -/

/-- What is done with registrations of `α`. -/
inductive Deed (α : Type) where
  /-- One more registration. -/
  | register (x : α)
  /-- The function that registration number `n` gave is called. -/
  | withdraw (n : Nat)
  deriving DecidableEq

variable {α κ σ ε τ : Type}

/-- The registrations in order, each with whether its own function has not been called yet. -/
def noted (book : List (α × Bool)) : Deed α → List (α × Bool)
  | .register x => book ++ [(x, true)]
  | .withdraw n => book.modify n fun e => (e.1, false)

/-- What is noted after some deeds. -/
def book (deeds : List (Deed α)) : List (α × Bool) := deeds.foldl noted []

/-- How many registrations of `x` stand. -/
def standing [BEq α] (x : α) (deeds : List (Deed α)) : Nat := (book deeds).count (x, true)

/-- After some deeds, a function of a registration of `x` is called a further time. -/
def Repeats (x : α) (deeds : List (Deed α)) (d : Deed α) : Prop :=
  ∃ n, d = .withdraw n ∧ (book deeds)[n]? = some (x, false)

/-- Since some moment at which no registration of `x` stood, no function of one has been called a further
time. -/
inductive IsUndisturbed [BEq α] (x : α) : List (Deed α) → Prop where
  /-- No registration of `x` stands. -/
  | none {deeds : List (Deed α)} : standing x deeds = 0 → IsUndisturbed x deeds
  /-- Nothing is called a further time. -/
  | concat {deeds : List (Deed α)} {d : Deed α} : IsUndisturbed x deeds → ¬ Repeats x deeds d →
      IsUndisturbed x (deeds ++ [d])

section Standing

variable {x y : α} {deeds : List (Deed α)} {d : Deed α} {n : Nat}

theorem book_concat (deeds : List (Deed α)) (d : Deed α) : book (deeds ++ [d]) = noted (book deeds) d :=
  List.foldl_concat ..

variable [BEq α]

theorem isUndisturbed_concat_iff :
    IsUndisturbed x (deeds ++ [d]) ↔
      standing x (deeds ++ [d]) = 0 ∨ IsUndisturbed x deeds ∧ ¬ Repeats x deeds d := by
  constructor
  · intro undisturbed
    generalize whole : deeds ++ [d] = all at undisturbed
    cases undisturbed with
    | none zero => exact .inl zero
    | concat before once =>
      obtain ⟨rfl, same⟩ := List.append_inj' whole rfl
      obtain rfl := List.singleton_inj.mp same
      exact .inr ⟨before, once⟩
  · rintro (zero | ⟨before, once⟩)
    · exact .none zero
    · exact .concat before once

/-- An entry of the notes is one of those that stand. -/
theorem entry_beq (flag : Bool) : ((y, flag) == (x, true)) = (flag && y == x) := by
  cases flag
  · exact Bool.and_false _
  · exact Bool.and_true _

/-- A function of a registration that was never made does nothing. -/
theorem standing_withdraw_none (none : (book deeds)[n]? = none) :
    standing x (deeds ++ [.withdraw n]) = standing x deeds := by
  rw [standing, book_concat, noted, List.modify_eq_self (List.getElem?_eq_none_iff.mp none)]
  rfl

theorem standing_register : standing x (deeds ++ [.register y]) = standing x deeds + if y == x then 1 else 0 := by
  rw [standing, book_concat, noted, List.count_append, List.count_singleton, entry_beq, Bool.true_and]
  rfl

variable [LawfulBEq α]

/-- A function that has not been called takes one registration away, a further call takes none. -/
theorem standing_withdraw {flag : Bool} (given : (book deeds)[n]? = some (y, flag)) :
    standing x deeds = standing x (deeds ++ [.withdraw n]) + if flag && y == x then 1 else 0 := by
  obtain ⟨short, entry⟩ := List.getElem?_eq_some_iff.mp given
  have changed : noted (book deeds) (.withdraw n) = (book deeds).set n (y, false) := by
    rw [noted, List.modify_eq_set_getElem?, given]
    rfl
  rw [standing, standing, book_concat, changed, List.count_set short, entry, entry_beq, entry_beq,
    Bool.false_and, if_neg Bool.false_ne_true, Nat.add_zero]
  split
  · rename_i stands
    have mem : (y, flag) ∈ book deeds := entry ▸ List.getElem_mem short
    obtain ⟨rfl, same⟩ := Bool.and_eq_true_iff.mp stands
    obtain rfl := eq_of_beq same
    exact (Nat.sub_add_cancel (List.count_pos_iff.mpr mem)).symm
  · rfl

end Standing

/-! ### Places and registrations -/

/-- So many places as there are go with the deeds: never more than registrations stand, and as many exactly
if nothing was disturbed. -/
structure Tallies [BEq α] (x : α) (deeds : List (Deed α)) (places : Nat) : Prop where
  le : places ≤ standing x deeds
  eq_iff : places = standing x deeds ↔ IsUndisturbed x deeds

section Tallies

variable {x y : α} {deeds : List (Deed α)} {n places : Nat} [BEq α]

theorem tallies_nil (x : α) : Tallies x [] 0 :=
  ⟨Nat.zero_le _, ⟨fun _ => .none rfl, fun _ => rfl⟩⟩

/-- A registration has a place. -/
theorem Tallies.register (tallies : Tallies x deeds places) (y : α) :
    Tallies x (deeds ++ [.register y]) (places + if y == x then 1 else 0) := by
  have once : ¬ Repeats x deeds (.register y) := by
    rintro ⟨n, ⟨⟩, -⟩
  refine ⟨?_, ?_⟩
  · rw [standing_register]
    exact Nat.add_le_add_right tallies.le _
  · rw [isUndisturbed_concat_iff, ← tallies.eq_iff, standing_register]
    have := tallies.le
    constructor
    · exact fun same => .inr ⟨by omega, once⟩
    · rintro (zero | ⟨same, -⟩) <;> omega

/-- A function of a registration that was never made takes nothing out. -/
theorem Tallies.withdraw_none (tallies : Tallies x deeds places) (none : (book deeds)[n]? = none) :
    Tallies x (deeds ++ [.withdraw n]) places := by
  have once : ¬ Repeats x deeds (.withdraw n) := by
    rintro ⟨m, ⟨⟩, again⟩
    cases none.symm.trans again
  have stands : standing x (deeds ++ [.withdraw n]) = standing x deeds := standing_withdraw_none none
  refine ⟨stands ▸ tallies.le, ?_⟩
  rw [isUndisturbed_concat_iff, ← tallies.eq_iff, stands]
  have := tallies.le
  constructor
  · exact fun same => .inr ⟨same, once⟩
  · rintro (zero | ⟨same, -⟩) <;> omega

variable [LawfulBEq α]

/-- A function takes a place out, if there is one. -/
theorem Tallies.withdraw {flag : Bool} (tallies : Tallies x deeds places)
    (given : (book deeds)[n]? = some (y, flag)) :
    Tallies x (deeds ++ [.withdraw n]) (places - if y == x then 1 else 0) := by
  have stands : standing x deeds = standing x (deeds ++ [.withdraw n]) + if flag && y == x then 1 else 0 :=
    standing_withdraw given
  have repeats : Repeats x deeds (.withdraw n) ↔ flag = false ∧ (y == x) = true := by
    constructor
    · rintro ⟨m, ⟨⟩, again⟩
      obtain ⟨rfl, rfl⟩ := Prod.mk.inj (Option.some.inj (given.symm.trans again))
      exact ⟨rfl, beq_self_eq_true _⟩
    · rintro ⟨rfl, same⟩
      exact ⟨n, rfl, eq_of_beq same ▸ given⟩
  have le := tallies.le
  refine ⟨?_, ?_⟩
  · generalize (y == x) = same at *
    cases flag <;> cases same <;> simp at stands ⊢ <;> omega
  · rw [isUndisturbed_concat_iff, ← tallies.eq_iff, repeats]
    generalize (y == x) = same at *
    cases flag <;> cases same <;> simp at stands ⊢ <;> omega

end Tallies

/-! ### What is held, and what is called -/

/-- A state that holds places for registrations: a new one comes last, and the first place of one can be taken
out. -/
structure Holder (σ α : Type) [BEq α] where
  /-- The places in order. -/
  listed : σ → List α
  /-- One more place. -/
  add : σ → α → σ
  /-- The first place of a registration taken out. -/
  remove : σ → α → σ
  listed_add : ∀ s x, listed (add s x) = listed s ++ [x]
  listed_remove : ∀ s x, listed (remove s x) = (listed s).erase x
  remove_of_not_mem : ∀ s x, x ∉ listed s → remove s x = s

/-- What was called for an event. -/
structure Dispatch (ε α κ : Type) where
  /-- The event. -/
  event : ε
  /-- What had been done with registrations before. -/
  deeds : List (Deed α)
  /-- The listeners that were called, in order. -/
  called : List κ

/-- A state that holds registrations, under watch. -/
structure Watched (σ ε α κ : Type) where
  /-- The state. -/
  held : σ
  /-- What was done with registrations. -/
  deeds : List (Deed α) := []
  /-- What was called, the latest event first. -/
  log : List (Dispatch ε α κ) := []

/-- What listeners do with registrations when they are called, after what was done before. -/
abbrev Reactions (α κ : Type) := κ → List (Deed α) → List (Deed α)

namespace Watched

variable [BEq α] (h : Holder σ α) (reacts : Reactions α κ)

/-- A deed is done. A function that a registration gave takes out what was registered. -/
def perform (w : Watched σ ε α κ) (d : Deed α) : Watched σ ε α κ :=
  { w with
    held := match d with
      | .register x => h.add w.held x
      | .withdraw n =>
        match (book w.deeds)[n]? with
        | some (x, _) => h.remove w.held x
        | none => w.held
    deeds := w.deeds ++ [d] }

/-- An event comes. -/
def opened (w : Watched σ ε α κ) (event : ε) : Watched σ ε α κ :=
  { w with log := ⟨event, w.deeds, []⟩ :: w.log }

/-- A listener is called for the event that came last. -/
def call (k : κ) (w : Watched σ ε α κ) : Watched σ ε α κ :=
  (reacts k w.deeds).foldl (perform h)
    { w with log := w.log.modifyHead fun e => { e with called := e.called ++ [k] } }

/-- The places go with what was done. -/
def IsTallied (w : Watched σ ε α κ) : Prop := ∀ x, Tallies x w.deeds ((h.listed w.held).count x)

variable {h reacts} {w : Watched σ ε α κ}

section

variable {P : σ → Prop}

/-- What no registration and no removal changes stays. -/
theorem perform_keeps (adds : ∀ s x, P s → P (h.add s x)) (removes : ∀ s x, P s → P (h.remove s x))
    (holds : P w.held) (d : Deed α) : P (w.perform h d).held := by
  cases d with
  | register x => exact adds _ _ holds
  | withdraw n =>
    unfold perform
    dsimp only
    split
    · exact removes _ _ holds
    · exact holds

theorem performs_keep (adds : ∀ s x, P s → P (h.add s x)) (removes : ∀ s x, P s → P (h.remove s x))
    (holds : P w.held) (ds : List (Deed α)) : P (ds.foldl (perform h) w).held := by
  induction ds generalizing w with
  | nil => exact holds
  | cons d ds ih => exact ih (perform_keeps adds removes holds d)

theorem calls_keep (adds : ∀ s x, P s → P (h.add s x)) (removes : ∀ s x, P s → P (h.remove s x))
    (holds : P w.held) (ks : List κ) : P (ks.foldl (fun w k => w.call h reacts k) w).held := by
  induction ks generalizing w with
  | nil => exact holds
  | cons k ks ih =>
    have noted : P ({ w with log := w.log.modifyHead fun e => { e with called := e.called ++ [k] } } :
        Watched σ ε α κ).held := holds
    exact ih (performs_keep adds removes noted _)

end

theorem performs_log (ds : List (Deed α)) : (ds.foldl (perform h) w).log = w.log := by
  induction ds generalizing w with
  | nil => rfl
  | cons d ds ih => exact ih

/-- Listeners that are called are noted for the event that came last. -/
theorem calls_log {e : Dispatch ε α κ} {before : List (Dispatch ε α κ)} (log : w.log = e :: before)
    (ks : List κ) :
    (ks.foldl (fun w k => w.call h reacts k) w).log = { e with called := e.called ++ ks } :: before := by
  induction ks generalizing w e with
  | nil => rw [List.append_nil]; exact log
  | cons k ks ih =>
    have next : (w.call h reacts k).log = { e with called := e.called ++ [k] } :: before := by
      rw [call, performs_log, log]
      rfl
    rw [List.foldl_cons, ih next, List.append_assoc, List.singleton_append]

variable [LawfulBEq α]

/-- **A deed keeps places and registrations together.** -/
theorem IsTallied.perform (tallied : w.IsTallied h) (d : Deed α) : (w.perform h d).IsTallied h := by
  intro x
  have here := tallied x
  cases d with
  | register y =>
    have places : (h.listed (w.perform h (.register y)).held).count x =
        (h.listed w.held).count x + if y == x then 1 else 0 := by
      rw [← List.count_singleton, ← List.count_append, ← h.listed_add]
      rfl
    rw [places]
    exact here.register y
  | withdraw n =>
    cases given : (book w.deeds)[n]? with
    | none =>
      have same : (w.perform h (.withdraw n)).held = w.held := by
        simp only [Watched.perform, given]
      rw [same]
      exact here.withdraw_none given
    | some entry =>
      obtain ⟨y, flag⟩ := entry
      have same : (w.perform h (.withdraw n)).held = h.remove w.held y := by
        simp only [Watched.perform, given]
      rw [same, h.listed_remove, List.count_erase]
      exact here.withdraw given

theorem IsTallied.performs (tallied : w.IsTallied h) (ds : List (Deed α)) :
    (ds.foldl (Watched.perform h) w).IsTallied h := by
  induction ds generalizing w with
  | nil => exact tallied
  | cons d ds ih => exact ih (tallied.perform d)

theorem IsTallied.calls (tallied : w.IsTallied h) (ks : List κ) :
    (ks.foldl (fun w k => w.call h reacts k) w).IsTallied h := by
  induction ks generalizing w with
  | nil => exact tallied
  | cons k ks ih =>
    have noted : IsTallied h { w with log := w.log.modifyHead fun e => { e with called := e.called ++ [k] } } :=
      tallied
    exact ih (noted.performs _)

/-- A function that takes out `x` changes nothing exactly if `x` has no place. -/
theorem withdraw_eq_self_iff {n : Nat} {x : α} {flag : Bool} (given : (book w.deeds)[n]? = some (x, flag)) :
    (w.perform h (.withdraw n)).held = w.held ↔ (h.listed w.held).count x = 0 := by
  have removed : (w.perform h (.withdraw n)).held = h.remove w.held x := by simp only [perform, given]
  rw [removed, List.count_eq_zero]
  refine ⟨fun same mem => ?_, h.remove_of_not_mem w.held x⟩
  have shorter := List.length_erase_of_mem mem
  rw [← h.listed_remove, same] at shorter
  have := List.length_pos_of_mem mem
  omega

end Watched

/-! ### The event bus -/

section Bus

variable [DecidableEq τ] [DecidableEq κ]

/-- The bus holds listeners with the type of event they wait for. -/
def busHolder (τ κ : Type) [DecidableEq τ] [DecidableEq κ] : Holder (EventBus τ κ) (τ × κ) where
  listed b := b.typed
  add b x := b.subscribe x.1 x.2
  remove b x := b.unsubscribe x.1 x.2
  listed_add _ _ := rfl
  listed_remove _ _ := rfl
  remove_of_not_mem b x noPlace := by rw [EventBus.unsubscribe, List.erase_of_not_mem noPlace]

/-- A bus under watch. -/
abbrev WatchedBus (τ κ : Type) := Watched (EventBus τ κ) τ (τ × κ) κ

/-- What happens on a bus. -/
inductive BusStep (τ κ : Type) where
  /-- A subscription, or a call of the function that one gave. -/
  | deed (d : Deed (τ × κ))
  /-- An event of a type. -/
  | emit (type : τ)

variable (reacts : τ → Reactions (τ × κ) κ)

/-- One step. -/
def busStep (w : WatchedBus τ κ) : BusStep τ κ → WatchedBus τ κ
  | .deed d => w.perform (busHolder τ κ) d
  | .emit type => EventBus.emit Watched.held (Watched.call (busHolder τ κ) (reacts type)) type (w.opened type)

/-- A new bus after some steps. -/
def busAfter (steps : List (BusStep τ κ)) : WatchedBus τ κ := steps.foldl (busStep reacts) { held := {} }

variable {reacts} {w : WatchedBus τ κ}

/-- The listeners of a type are those that have a place with it. -/
theorem count_listeners (b : EventBus τ κ) (type : τ) (k : κ) :
    (b.listeners type).count k = b.typed.count (type, k) := by
  rw [EventBus.listeners, List.count_eq_countP, List.countP_map, List.countP_filter, List.count_eq_countP]
  refine List.countP_congr fun e _ => ?_
  obtain ⟨t, l⟩ := e
  simp [and_comm]

/-- Without listeners of all events, an event goes to those of its type. -/
theorem emit_eq (quiet : w.held.catchAll = []) (type : τ) :
    busStep reacts w (.emit type) = (w.held.listeners type).foldl
      (fun w k => w.call (busHolder τ κ) (reacts type) k) (w.opened type) := by
  have first : (Watched.held (w.opened type)).catchAll = [] := quiet
  rw [busStep, EventBus.emit, first]
  rfl

/-- The listeners of its type are called for an event. -/
theorem emit_log (quiet : w.held.catchAll = []) (type : τ) :
    (busStep reacts w (.emit type)).log = ⟨type, w.deeds, w.held.listeners type⟩ :: w.log := by
  rw [emit_eq quiet, Watched.calls_log (w := w.opened type) rfl]
  rfl

/-- After any steps, places and registrations go together, and nobody listens to all events. -/
theorem busAfter_tallied (reacts : τ → Reactions (τ × κ) κ) (steps : List (BusStep τ κ)) :
    (busAfter reacts steps).IsTallied (busHolder τ κ) ∧ (busAfter reacts steps).held.catchAll = [] := by
  induction steps using List.reverseRecOn with
  | nil => exact ⟨tallies_nil, rfl⟩
  | append_singleton steps step ih =>
    obtain ⟨tallied, quiet⟩ := ih
    rw [busAfter, List.foldl_concat, ← busAfter]
    let P : EventBus τ κ → Prop := fun b => b.catchAll = []
    cases step with
    | deed d =>
      have quiet := Watched.perform_keeps (h := busHolder τ κ) (P := P) (fun _ _ h => h) (fun _ _ h => h) quiet d
      exact ⟨tallied.perform d, quiet⟩
    | emit type =>
      have opened : ((busAfter reacts steps).opened type).IsTallied (busHolder τ κ) := tallied
      have quiet' : P ((busAfter reacts steps).opened type).held := quiet
      rw [emit_eq quiet]
      exact ⟨opened.calls _, Watched.calls_keep (P := P) (fun _ _ h => h) (fun _ _ h => h) quiet' _⟩

end Bus

/-! ### A port -/

section Port

theorem port_update (c : Channel κ) (side : Side) (f : Port κ → Port κ) :
    (c.update side f).port side = f (c.port side) := by
  cases side <;> rfl

variable [DecidableEq κ]

/-- A port holds listeners. -/
def portHolder (κ : Type) [DecidableEq κ] (side : Side) : Holder (Channel κ) κ where
  listed c := (c.port side).listeners
  add c k := c.listen side k
  remove c k := c.unlisten side k
  listed_add c k := by rw [Channel.listen, port_update]
  listed_remove c k := by rw [Channel.unlisten, port_update]
  remove_of_not_mem c k noPlace := by
    have same : ∀ p : Port κ, k ∉ p.listeners → { p with listeners := p.listeners.erase k } = p :=
      fun p noPlace => by rw [List.erase_of_not_mem noPlace]
    cases side with
    | host => exact congrArg (fun p => { c with host := p }) (same c.host noPlace)
    | frame => exact congrArg (fun p => { c with frame := p }) (same c.frame noPlace)

/-- A channel under watch; what counts is what happens on one side of it. -/
abbrev WatchedPort (κ : Type) := Watched (Channel κ) Json κ κ

/-- What happens on a port. -/
inductive PortStep (κ : Type) where
  /-- A listener is added, or a function is called that takes one away. -/
  | deed (d : Deed κ)
  /-- A message is posted on the other side. -/
  | post (data : Json)
  /-- What waits is delivered. -/
  | pump

variable (reacts : Json → Reactions κ κ) (side : Side)

/-- Deliveries under watch: a message that is taken off is an event. -/
def watching : Delivery κ (WatchedPort κ) where
  channel := Watched.held
  setChannel c w := { w.opened ((w.held.port side).inbox.headD .null) with held := c }
  call _ k data w := (w.call (portHolder κ side) (reacts data) k, data)

/-- One step. -/
def portStep (w : WatchedPort κ) : PortStep κ → WatchedPort κ
  | .deed d => w.perform (portHolder κ side) d
  | .post data => { w with held := w.held.post side.other data }
  | .pump => ((watching reacts side).pump side w).1

/-- A new channel after some steps on one of its sides. -/
def portAfter (steps : List (PortStep κ)) : WatchedPort κ :=
  steps.foldl (portStep reacts side) { held := {} }

variable {reacts side} {w : WatchedPort κ}

/-- A message goes to all listeners. -/
theorem deliver_eq (ks : List κ) (data : Json) :
    (watching reacts side).deliver side ks data w =
      ks.foldl (fun w k => w.call (portHolder κ side) (reacts data) k) w := by
  have pairs : ∀ (w : WatchedPort κ), ks.foldl (fun (sd : WatchedPort κ × Json) k =>
      if (watching reacts side).isBroken sd.1 then sd else (watching reacts side).call side k sd.2 sd.1) (w, data) =
        (ks.foldl (fun w k => w.call (portHolder κ side) (reacts data) k) w, data) := by
    induction ks with
    | nil => exact fun _ => rfl
    | cons k ks ih => exact fun w => ih _
  rw [Delivery.deliver, pairs]

/-- The channel when a message was taken off. -/
def taken (side : Side) (data : Json) (rest : List Json) (w : WatchedPort κ) : WatchedPort κ :=
  { w.opened data with held := w.held.update side fun p => { p with inbox := rest } }

/-- A message that waits is taken off and goes to all listeners there are. -/
theorem drain_succ {data : Json} {rest : List Json} (inbox : (w.held.port side).inbox = data :: rest)
    (isOpen : (w.held.port side).closed = false) (n : Nat) :
    ((watching reacts side).drain side (n + 1) w).1 =
      ((watching reacts side).drain side n ((w.held.port side).listeners.foldl
        (fun w k => w.call (portHolder κ side) (reacts data) k) (taken side data rest w))).1 := by
  have goes : ((((watching reacts side).channel w).port side).closed || (watching reacts side).isBroken w) = false :=
    (Bool.or_false _).trans isOpen
  have begins : (watching reacts side).setChannel
      (((watching reacts side).channel w).update side fun p => { p with inbox := rest }) w = taken side data rest w := by
    show ({ w.opened ((w.held.port side).inbox.headD .null) with held := _ } : WatchedPort κ) = _
    rw [inbox]
    rfl
  rw [Delivery.drain]
  dsimp only
  rw [show (((watching reacts side).channel w).port side).inbox = data :: rest from inbox]
  dsimp only
  rw [goes, begins, deliver_eq]
  rfl

/-- The places go with what was done, and the port is open. -/
def IsReady (side : Side) (w : WatchedPort κ) : Prop :=
  w.IsTallied (portHolder κ side) ∧ (w.held.port side).closed = false

/-- What listeners are added and taken away leaves a port open, and its messages where they are. -/
theorem port_listen (c : Channel κ) (k : κ) : ((portHolder κ side).add c k).port side =
    { c.port side with listeners := (c.port side).listeners ++ [k] } := port_update ..

theorem port_unlisten (c : Channel κ) (k : κ) : ((portHolder κ side).remove c k).port side =
    { c.port side with listeners := (c.port side).listeners.erase k } := port_update ..

theorem IsReady.perform (ready : IsReady side w) (d : Deed κ) : IsReady side (w.perform (portHolder κ side) d) :=
  ⟨ready.1.perform d, Watched.perform_keeps (P := fun c : Channel κ => (c.port side).closed = false)
    (fun c k isOpen => by rw [port_listen]; exact isOpen) (fun c k isOpen => by rw [port_unlisten]; exact isOpen)
    ready.2 d⟩

/-- One message after the other is delivered to the listeners that there are when its turn comes. -/
theorem drain_log (reacts : Json → Reactions κ κ) (messages : List Json)
    (inbox : (w.held.port side).inbox = messages) (ready : IsReady side w) :
    IsReady side ((watching reacts side).drain side messages.length w).1 ∧
      ∃ news, ((watching reacts side).drain side messages.length w).1.log = news ++ w.log ∧
        news.map (·.event) = messages.reverse ∧
        ∀ entry ∈ news, ∀ k, Tallies k entry.deeds (entry.called.count k) := by
  induction messages generalizing w with
  | nil => exact ⟨ready, [], rfl, rfl, List.forall_mem_nil _⟩
  | cons data rest ih =>
    obtain ⟨tallied, isOpen⟩ := ready
    rw [List.length_cons, drain_succ inbox isOpen]
    -- taking a message off leaves the listeners as they are
    have port : ((taken side data rest w).held.port side) = { w.held.port side with inbox := rest } :=
      port_update ..
    have tallied' : (taken side data rest w).IsTallied (portHolder κ side) := by
      intro k
      have listeners : (portHolder κ side).listed (taken side data rest w).held = (w.held.port side).listeners := by
        show ((taken side data rest w).held.port side).listeners = _
        rw [port]
      rw [listeners]
      exact tallied k
    have kept := @Watched.calls_keep κ κ _ Json _ (portHolder κ side) (reacts data) (taken side data rest w)
      (fun c => (c.port side).closed = false ∧ (c.port side).inbox = rest)
      (fun c k holds => by rw [port_listen]; exact holds) (fun c k holds => by rw [port_unlisten]; exact holds)
      (by rw [port]; exact ⟨isOpen, rfl⟩) (w.held.port side).listeners
    obtain ⟨ready, news, log, events, all⟩ := ih kept.2 ⟨tallied'.calls _, kept.1⟩
    refine ⟨ready, news ++ [⟨data, w.deeds, (w.held.port side).listeners⟩], ?_, ?_, ?_⟩
    · rw [log, Watched.calls_log (w := taken side data rest w) rfl, List.append_assoc]
      rfl
    · rw [List.map_append, events, List.reverse_cons]
      rfl
    · exact List.forall_mem_append.mpr ⟨all, List.forall_mem_singleton.mpr tallied⟩

/-- After any steps, places and registrations go together, and the port is open. -/
theorem portAfter_ready (reacts : Json → Reactions κ κ) (side : Side) (steps : List (PortStep κ)) :
    IsReady side (portAfter reacts side steps) := by
  induction steps using List.reverseRecOn with
  | nil =>
    have empty : ∀ side : Side, ((({} : Channel κ)).port side) = {} := by
      rintro (_ | _) <;> rfl
    refine ⟨fun k => ?_, ?_⟩
    · show Tallies k [] (((({} : Channel κ)).port side).listeners.count k)
      rw [empty]
      exact tallies_nil k
    · show ((({} : Channel κ)).port side).closed = false
      rw [empty]
  | append_singleton steps step ih =>
    rw [portAfter, List.foldl_concat, ← portAfter]
    cases step with
    | deed d => exact ih.perform d
    | post data =>
      have stays : ∀ c : Channel κ, ((c.post side.other data).port side).listeners = (c.port side).listeners ∧
          ((c.post side.other data).port side).closed = (c.port side).closed := by
        intro c
        rw [Channel.post]
        split
        · exact ⟨rfl, rfl⟩
        · cases side <;> exact ⟨rfl, rfl⟩
      refine ⟨fun k => ?_, (stays _).2.trans ih.2⟩
      show Tallies k _ ((((portAfter reacts side steps).held.post side.other data).port side).listeners.count k)
      rw [(stays _).1]
      exact ih.1 k
    | pump => exact (drain_log reacts _ rfl ih).1

end Port

/-! ### Calls and registrations -/

/-- **An event calls a listener once for each of its registrations that stand**, never more often, and as often
exactly if nothing was disturbed: after any subscriptions to a bus, calls of the functions they gave and
events, whatever the listeners do with registrations in turn; and likewise for every message that is delivered
on a port. That a function is called again has no effect exactly if no place of the listener is left. -/
theorem calls_standing_iff [DecidableEq τ] [DecidableEq κ] :
    (∀ (reacts : τ → Reactions (τ × κ) κ) (steps : List (BusStep τ κ)) (type : τ),
      ∃ called, (busAfter reacts (steps ++ [.emit type])).log =
          ⟨type, (busAfter reacts steps).deeds, called⟩ :: (busAfter reacts steps).log ∧
        (∀ k, called.count k ≤ standing (type, k) (busAfter reacts steps).deeds ∧
          (called.count k = standing (type, k) (busAfter reacts steps).deeds ↔
            IsUndisturbed (type, k) (busAfter reacts steps).deeds)) ∧
        ∀ n k, (book (busAfter reacts steps).deeds)[n]? = some ((type, k), false) →
          ((busAfter reacts (steps ++ [.deed (.withdraw n)])).held = (busAfter reacts steps).held ↔
            called.count k = 0)) ∧
    ∀ (reacts : Json → Reactions κ κ) (side : Side) (steps : List (PortStep κ)),
      (∃ news, (portAfter reacts side (steps ++ [.pump])).log = news ++ (portAfter reacts side steps).log ∧
        news.map (·.event) = ((portAfter reacts side steps).held.port side).inbox.reverse ∧
        ∀ entry ∈ news, ∀ k, entry.called.count k ≤ standing k entry.deeds ∧
          (entry.called.count k = standing k entry.deeds ↔ IsUndisturbed k entry.deeds)) ∧
      ∀ n k, (book (portAfter reacts side steps).deeds)[n]? = some (k, false) →
        ((portAfter reacts side (steps ++ [.deed (.withdraw n)])).held = (portAfter reacts side steps).held ↔
          k ∉ ((portAfter reacts side steps).held.port side).listeners) := by
  constructor
  · intro reacts steps type
    obtain ⟨tallied, quiet⟩ := busAfter_tallied reacts steps
    have next : ∀ step, busAfter reacts (steps ++ [step]) = busStep reacts (busAfter reacts steps) step :=
      fun _ => List.foldl_concat ..
    refine ⟨_, (congrArg _ (next _)).trans (emit_log quiet type), fun k => ?_, fun n k again => ?_⟩
    · rw [count_listeners]
      exact ⟨(tallied (type, k)).le, (tallied (type, k)).eq_iff⟩
    · rw [next, count_listeners]
      exact Watched.withdraw_eq_self_iff (h := busHolder τ κ) again
  · intro reacts side steps
    have next : ∀ step, portAfter reacts side (steps ++ [step]) =
        portStep reacts side (portAfter reacts side steps) step := fun _ => List.foldl_concat ..
    constructor
    · obtain ⟨-, news, log, events, all⟩ :=
        drain_log reacts _ rfl (portAfter_ready reacts side steps)
      refine ⟨news, (congrArg _ (next _)).trans log, events, fun entry mem k => ?_⟩
      exact ⟨(all entry mem k).le, (all entry mem k).eq_iff⟩
    · intro n k again
      rw [next, ← List.count_eq_zero]
      exact Watched.withdraw_eq_self_iff (h := portHolder κ side) again

/-- A function that is called twice takes a second registration with it, on a bus as on a port. -/
theorem second_registration_lost :
    let selects : BusStep String String := .deed (.register ("selection", "panel"))
    let bus := busAfter (fun _ _ _ => [])
      [selects, selects, .deed (.withdraw 0), .deed (.withdraw 0), .emit "selection"]
    let port := portAfter (fun _ _ _ => []) .host
      [.deed (.register "panel"), .deed (.register "panel"), .deed (.withdraw 0), .deed (.withdraw 0),
        .post .null, .pump]
    (standing ("selection", "panel") bus.deeds = 1 ∧ bus.log.map (·.called) = [[]]) ∧
      standing "panel" port.deeds = 1 ∧ port.log.map (·.called) = [[]] := by
  decide

end Retouch.Listening
