import Retouch.Proofs.Host.Numbering

/-!
# What a command asks of the backend

To set values, to take the latest edit back and to make one again are done alike: an edit is shown, the
history is moved, and one request goes to the backend. `ask?` says for a command which edit that is, and
how the history is moved; `run_ask` is all that a command with such an ask does, and `run_unasked` is
all that one without it does.

A request is accepted if the link takes it and nothing that it delivers at once tells that an edit was
not written. Then nothing is taken back: of the edits, only what is waited for changes when the answers
are heard. So what an edit makes of a host when it is presented lasts (`Lasting.perform`).
-/

namespace Retouch.Host

variable {κ : Type}

/-! ### The history moved back and forth -/

/-- The edit that would be taken back stands right before the boundary. -/
theorem undoEntry?_eq {history : History} {e : HistoryEntry}
    (latest : history.undoEntry? = some e) :
    0 < history.applied ∧ history.entries[history.applied - 1]? = some e := by
  unfold History.undoEntry? at latest
  split at latest
  · rename_i canUndo
    exact ⟨of_decide_eq_true canUndo, latest⟩
  · cases latest

/-- An edit that can be made again stands right behind the boundary. -/
theorem canRedo_of_next {history : History} {e : HistoryEntry}
    (next : history.redoEntry? = some e) : history.canRedo = true := by
  obtain ⟨within, -⟩ := List.getElem?_eq_some_iff.mp next
  simpa [History.canRedo] using within

/-- One step back and one step forward lead nowhere. -/
theorem stepForward_stepBack {history : History} (some : 0 < history.applied)
    (within : history.applied ≤ history.entries.length) :
    history.stepBack.stepForward = history := by
  have canRedo : history.stepBack.canRedo = true := by
    refine decide_eq_true ?_
    show history.applied - 1 < history.entries.length
    omega
  have boundary : history.applied - 1 + 1 = history.applied := by omega
  unfold History.stepForward
  rw [if_pos canRedo]
  simp [History.stepBack, boundary]

/-- One step forward, where there is one, and one step back lead nowhere. -/
theorem stepBack_stepForward {history : History} (canRedo : history.canRedo = true) :
    history.stepForward.stepBack = history := by
  simp [History.stepForward, History.stepBack, canRedo]

/-- With one more behind them, a place in some edits is that one's, or one that they had before. -/
theorem split_concat {α : Type} {edits older newer : List α} {last e : α}
    (split : edits ++ [last] = older ++ e :: newer) :
    (older = edits ∧ e = last) ∨ ∃ newer', edits = older ++ e :: newer' := by
  rcases List.eq_nil_or_concat newer with rfl | ⟨newer', last', rfl⟩
  · obtain ⟨rfl, same⟩ := List.append_inj' split rfl
    cases same
    exact Or.inl ⟨rfl, rfl⟩
  · rw [List.concat_eq_append, ← List.cons_append, ← List.append_assoc] at split
    exact Or.inr ⟨newer', (List.append_inj' split rfl).1⟩

/-! ### Asking -/

/-- An edit that is asked of the backend. -/
structure Ask where
  /-- The edit, as it is shown and sent. -/
  shown : HistoryEntry
  /-- What is asked for it. -/
  step : EditStep
  /-- The history once it is asked for. -/
  history : History

/-- The request of an ask. -/
def Ask.request (a : Ask) : Request := .styles (styleRequest a.shown (stepDirection? a.step))

/-- What a command about edits asks of the backend; none if there is nothing to be set, to be taken back
or to be made again, and none for all other commands. -/
def ask? (h : Host κ) : Command → Option Ask
  | .applyStyles values usesInline =>
    match h.selected? with
    | none => none
    | some element =>
      if values.isEmpty then none
      else
        let e := h.nextEntry element values usesInline
        some ⟨e, .apply, h.history.push e⟩
  | .undo => h.history.undoEntry?.map fun e => ⟨e.inverted, .move .undo, h.history.stepBack⟩
  | .redo => h.history.redoEntry?.map fun e => ⟨e, .move .redo, h.history.stepForward⟩
  | _ => none

/-- The command that moves the history. -/
def Command.move : Direction → Command
  | .undo => .undo
  | .redo => .redo

/-- A command that edits. -/
def Command.isEdit : Command → Bool
  | .applyStyles _ _ | .undo | .redo => true
  | _ => false

/-- The host that is about to ask: for a new edit, it gives out an id and forgets what went wrong. -/
def readied (h : Host κ) : EditStep → Host κ
  | .apply => h.counted
  | .move _ => h

section Readied

variable (h : Host κ) (step : EditStep)

@[simp] theorem readied_history : (h.readied step).history = h.history := by cases step <;> rfl
@[simp] theorem readied_committed : (h.readied step).committed = h.committed := by cases step <;> rfl
@[simp] theorem readied_preview : (h.readied step).preview = h.preview := by cases step <;> rfl
@[simp] theorem readied_selected : (h.readied step).selected? = h.selected? := by cases step <;> rfl
@[simp] theorem readied_link : (h.readied step).link? = h.link? := by cases step <;> rfl

end Readied

/-- An ask to set values is one for the next edit of the selected element. -/
theorem ask?_applyStyles {h : Host κ} {values : List (String × String)} {usesInline : Bool} {a : Ask}
    (asks : h.ask? (.applyStyles values usesInline) = some a) :
    ∃ element, h.selected? = some element ∧ values ≠ [] ∧
      a = ⟨h.nextEntry element values usesInline, .apply,
        h.history.push (h.nextEntry element values usesInline)⟩ := by
  unfold ask? at asks
  dsimp only at asks
  split at asks
  · cases asks
  · rename_i element selected
    split at asks
    · cases asks
    · rename_i filled
      exact ⟨element, selected, by simpa using filled, (Option.some.inj asks).symm⟩

/-- An ask to take back is one for the inverse of the latest edit. -/
theorem ask?_undo {h : Host κ} {a : Ask} (asks : h.ask? .undo = some a) :
    ∃ e, h.history.undoEntry? = some e ∧ a = ⟨e.inverted, .move .undo, h.history.stepBack⟩ := by
  obtain ⟨e, latest, rfl⟩ := Option.map_eq_some_iff.mp asks
  exact ⟨e, latest, rfl⟩

/-- An ask to make again is one for the edit behind the boundary. -/
theorem ask?_redo {h : Host κ} {a : Ask} (asks : h.ask? .redo = some a) :
    ∃ e, h.history.redoEntry? = some e ∧ a = ⟨e, .move .redo, h.history.stepForward⟩ := by
  obtain ⟨e, next, rfl⟩ := Option.map_eq_some_iff.mp asks
  exact ⟨e, next, rfl⟩

/-- The edit that is asked for is in the history, on the same element, and its id was given out. -/
theorem ask?_found {h : Host κ} (numbered : h.IsNumbered) {c : Command} {a : Ask}
    (asks : h.ask? c = some a) :
    (∃ e, a.history.find? a.shown.id = some e ∧ e.selector = a.shown.selector) ∧
      ∃ n, a.shown.id = idText n := by
  cases c with
  | applyStyles values usesInline =>
    obtain ⟨element, -, -, rfl⟩ := ask?_applyStyles asks
    let e := h.nextEntry element values usesInline
    have pushed : e ∈ (h.history.push e).entries := by simp [History.push]
    exact ⟨⟨e, (numbered.push rfl).find?_of_mem pushed, rfl⟩, h.idsGiven + 1, rfl⟩
  | undo =>
    obtain ⟨e, latest, rfl⟩ := ask?_undo asks
    have mem : e ∈ h.history.entries := List.mem_of_getElem? (undoEntry?_eq latest).2
    obtain ⟨n, -, id⟩ := numbered.ids e mem
    exact ⟨⟨e, numbered.stepBack.find?_of_mem mem, rfl⟩, n, id⟩
  | redo =>
    obtain ⟨e, next, rfl⟩ := ask?_redo asks
    have mem : e ∈ h.history.entries := List.mem_of_getElem? next
    obtain ⟨n, -, id⟩ := numbered.ids e mem
    refine ⟨⟨e, numbered.stepForward.find?_of_mem ?_, rfl⟩, n, id⟩
    simpa [History.stepForward, canRedo_of_next next] using mem
  | _ => cases asks

section Running

variable [Link κ] {h : Host κ} {c : Command}

/-- **A command that asks** shows the edit, moves the history and sends the request. -/
theorem run_ask {a : Ask} (asks : h.ask? c = some a) :
    (h.run c).1 = ((h.readied a.step).perform a.shown a.step a.history).1 := by
  cases c with
  | applyStyles values usesInline =>
    obtain ⟨element, selected, filled, rfl⟩ := ask?_applyStyles asks
    exact congrArg Prod.fst (applyStyles_eq selected filled usesInline)
  | undo =>
    obtain ⟨e, latest, rfl⟩ := ask?_undo asks
    show h.undo.1 = _
    unfold undo
    rw [latest]
    rfl
  | redo =>
    obtain ⟨e, next, rfl⟩ := ask?_redo asks
    show h.redo.1 = _
    unfold redo
    rw [next]
    rfl
  | _ => cases asks

/-- A command about edits that has nothing to ask for does nothing. -/
theorem run_unasked (edits : c.isEdit = true) (asks : h.ask? c = none) : (h.run c).1 = h := by
  cases c with
  | applyStyles values usesInline =>
    show (h.applyStyles values usesInline).1 = h
    unfold ask? at asks
    unfold applyStyles
    split
    · rfl
    · rename_i element selected
      simp only [selected] at asks
      split at asks
      · rename_i empty
        rw [if_pos empty]
      · cases asks
  | undo =>
    show h.undo.1 = h
    unfold undo
    rw [Option.map_eq_none_iff.mp asks]
  | redo =>
    show h.redo.1 = h
    unfold redo
    rw [Option.map_eq_none_iff.mp asks]
  | _ => cases edits

end Running

/-! ## Requests that are accepted -/

/-- A message from the backend that does not tell that an edit was not written. -/
def Approves (v : Json) : Prop :=
  ∀ report, Response.read v = .ok (some (.styles report)) → report.success = true

/-- A message that refuses no edit leaves the edits alone or settles one. -/
theorem hear_approved (h : Host κ) {v : Json} (approves : Approves v) :
    SameEdits h (h.hear v).1 ∨ ∃ id, SameEdits (h.settle id) (h.hear v).1 := by
  unfold hear
  split
  · exact Or.inl (.refl h)
  · rename_i r read
    show SameEdits h (h.take r) ∨ ∃ id, SameEdits (h.settle id) (h.take r)
    cases r with
    | styles report => exact Or.inr ⟨_, take_written h (approves report read)⟩
    | _ => exact Or.inl (take_other h nofun)
  · exact Or.inl (.refl h)
  · exact Or.inl (.fail h _)
  · exact Or.inl (.refl h)

/-- A property of hosts that speaks of edits only, and does not mind that an edit is settled. -/
structure Lasting (P : Host κ → Prop) : Prop where
  /-- It speaks of edits only. -/
  same : ∀ {h h'}, SameEdits h h' → P h → P h'
  /-- It survives that an edit was written. -/
  settle : ∀ {h} (id : String), P h → P (h.settle id)

/-- What is said of the history lasts. -/
theorem Lasting.of_history (P : History → Prop) : Lasting fun h : Host κ => P h.history where
  same same holds := same.history.symm ▸ holds
  settle _ holds := holds

/-- A request is accepted: the link takes it, and what it delivers at once refuses no edit. -/
inductive Accepted [Link κ] (h : Host κ) (request : Request) : Prop where
  /-- The link delivers messages that refuse nothing. -/
  | delivered {link link' : κ} {messages : List Json} (linked : h.link? = some link)
      (sending : Link.send link request.toJson = (link', .ok messages))
      (approved : ∀ v ∈ messages, Approves v)

namespace Lasting

variable {P : Host κ → Prop} (lasting : Lasting P)

include lasting

theorem hear {h : Host κ} {v : Json} (approves : Approves v) (hP : P h) : P (h.hear v).1 := by
  obtain same | ⟨id, same⟩ := hear_approved h approves
  · exact lasting.same same hP
  · exact lasting.same same (lasting.settle id hP)

theorem hearAll {h : Host κ} {vs : List Json} (approved : ∀ v ∈ vs, Approves v) (hP : P h) :
    P (h.hearAll vs).1 := by
  induction vs generalizing h with
  | nil => exact hP
  | cons v rest ih =>
    have hv : P (h.hear v).1 := lasting.hear (approved v List.mem_cons_self) hP
    unfold Host.hearAll
    split
    · rename_i h' eq
      rw [eq] at hv
      exact ih (fun v' hv' => approved v' (List.mem_cons_of_mem v hv')) hv
    · exact hv

/-- An edit that is presented and accepted stays as it was presented. -/
theorem perform [Link κ] {h : Host κ} {shown : HistoryEntry} {step : EditStep} {history : History}
    (accepted : Accepted h (.styles (styleRequest shown (stepDirection? step))))
    (presented : P ((h.asked shown step history).present shown)) :
    P (h.perform shown step history).1 := by
  obtain @⟨_, link', messages, linked, sending, approved⟩ := accepted
  let request := Request.styles (styleRequest shown (stepDirection? step))
  have link := (present_link (h.asked shown step history) shown).trans linked
  have heard := lasting.hearAll approved
    (lasting.same (handed_edits ((h.asked shown step history).present shown) link' request) presented)
  obtain ⟨host, outcome⟩ := send_delivered link sending
  rw [perform_fst]
  dsimp only
  rw [host, outcome]
  split
  · rename_i refused
    split at refused <;> cases refused
  · exact heard

/-- What a command asks for and the link accepts stays as it was presented. -/
theorem run [Link κ] {h : Host κ} {c : Command} {a : Ask} (asks : h.ask? c = some a)
    (accepted : Accepted h a.request)
    (presented : P (((h.readied a.step).asked a.shown a.step a.history).present a.shown)) :
    P (h.run c).1 := by
  obtain ⟨linked, sending, approved⟩ := accepted
  rw [run_ask asks]
  exact lasting.perform (.delivered ((readied_link h a.step).trans linked) sending approved) presented

end Lasting

/-- After an accepted request, the history is where it was moved. -/
theorem run_accepted_history [Link κ] {h : Host κ} {c : Command} {a : Ask} (asks : h.ask? c = some a)
    (accepted : Accepted h a.request) : (h.run c).1.history = a.history := by
  exact (Lasting.of_history (· = a.history)).run asks accepted (present_committed _ a.shown).2.1

end Retouch.Host
