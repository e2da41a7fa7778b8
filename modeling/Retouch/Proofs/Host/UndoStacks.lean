import Mathlib.Data.List.Induction
import Retouch.Proofs.Host.Rollback

/-!
# A history as two stacks

A history is a list of edits with a boundary in it. What it stands for are two stacks: the edits in
effect, and the edits that were taken back, each with the edit that is next on top. Every step on the
list is one on the stacks (`History.IsOn.after`), as long as no id comes twice: to take an edit out of
the list may not move the boundary past another one. So after any run of steps the boundary lies within
the list, and the edits that can be taken back or made again are the tops of the stacks
(`History.run_isOn`).
-/

namespace Retouch

/-- A step on a history. -/
inductive HistoryStep where
  /-- A new edit is made. -/
  | push (e : HistoryEntry)
  /-- The latest edit in effect is taken back. -/
  | back
  /-- The edit that was taken back last is made again. -/
  | forward
  /-- An edit is taken out. -/
  | discard (id : String)
  deriving DecidableEq, Repr

/-- The edits that steps make, in order. -/
def pushed (steps : List HistoryStep) : List HistoryEntry :=
  steps.filterMap fun
    | .push e => some e
    | _ => none

/-! ### The two stacks -/

/-- Edits on two stacks, the top of each in front. -/
structure UndoStacks where
  /-- The edits in effect. -/
  done : List HistoryEntry := []
  /-- The edits that were taken back. -/
  undone : List HistoryEntry := []
  deriving DecidableEq, Repr

namespace UndoStacks

/-- What a step does to the stacks: a new edit comes on top of those in effect, and what was taken back
is gone; a move takes the top of one stack to the other, if there is one; and an edit is taken out of the
stack that it is on. -/
def after (s : UndoStacks) : HistoryStep → UndoStacks
  | .push e => ⟨e :: s.done, []⟩
  | .back =>
    match s.done with
    | [] => s
    | e :: rest => ⟨rest, e :: s.undone⟩
  | .forward =>
    match s.undone with
    | [] => s
    | e :: rest => ⟨e :: s.done, rest⟩
  | .discard id => ⟨s.done.filter fun e => !(e.id == id), s.undone.filter fun e => !(e.id == id)⟩

/-- The stacks after steps, from empty ones. -/
def run (steps : List HistoryStep) : UndoStacks := steps.foldl after {}

end UndoStacks

namespace History

/-- What a step does to a history. -/
def after (h : History) : HistoryStep → History
  | .push e => h.push e
  | .back => h.stepBack
  | .forward => h.stepForward
  | .discard id => h.discard id

/-- The history after steps, from an empty one. -/
def run (steps : List HistoryStep) : History := steps.foldl after {}

/-- The history stands for the two stacks: first the edits in effect, the oldest first, and then those
that were taken back, with the boundary between them. -/
structure IsOn (h : History) (s : UndoStacks) : Prop where
  /-- The edits are those of the stacks. -/
  entries : h.entries = s.done.reverse ++ s.undone
  /-- The boundary lies where one stack meets the other. -/
  applied : h.applied = s.done.length

variable {h : History} {s : UndoStacks}

/-! ### One step -/

/-- The edits before the boundary are those in effect. -/
theorem IsOn.entries_in_effect (on : h.IsOn s) : h.entries.take h.applied = s.done.reverse := by
  rw [on.entries, on.applied, ← List.length_reverse, List.take_left]

/-- The boundary lies within the edits. -/
theorem IsOn.applied_le (on : h.IsOn s) : h.applied ≤ h.entries.length := by
  rw [on.entries, on.applied, List.length_append, List.length_reverse]
  exact Nat.le_add_right ..

theorem IsOn.push (on : h.IsOn s) (e : HistoryEntry) : (h.push e).IsOn (s.after (.push e)) := by
  constructor
  · show h.entries.take h.applied ++ [e] = (e :: s.done).reverse ++ []
    rw [on.entries_in_effect, List.reverse_cons, List.append_nil]
  · show (h.entries.take h.applied ++ [e]).length = (e :: s.done).length
    rw [on.entries_in_effect, List.length_append, List.length_reverse, List.length_singleton, List.length_cons]

theorem IsOn.back (on : h.IsOn s) : h.stepBack.IsOn (s.after .back) := by
  obtain ⟨done, undone⟩ := s
  obtain ⟨entries, applied⟩ := on
  cases done with
  | nil => exact ⟨entries, by simp [stepBack, applied, UndoStacks.after]⟩
  | cons e rest =>
    constructor
    · show h.entries = rest.reverse ++ e :: undone
      rw [entries, List.reverse_cons, List.append_assoc, List.singleton_append]
    · show h.applied - 1 = rest.length
      rw [applied, List.length_cons, Nat.add_sub_cancel]

theorem IsOn.forward (on : h.IsOn s) : h.stepForward.IsOn (s.after .forward) := by
  obtain ⟨done, undone⟩ := s
  obtain ⟨entries, applied⟩ := on
  have length : h.entries.length = h.applied + undone.length := by
    rw [entries, List.length_append, List.length_reverse, applied]
  unfold stepForward canRedo
  cases undone with
  | nil =>
    rw [if_neg (by simp [length])]
    exact ⟨entries, applied⟩
  | cons e rest =>
    rw [if_pos (by simp [length])]
    constructor
    · show h.entries = (e :: done).reverse ++ rest
      rw [entries, List.reverse_cons, List.append_assoc, List.singleton_append]
    · show h.applied + 1 = (e :: done).length
      rw [applied, List.length_cons]

/-- Edits with other ids all stay. -/
theorem filter_of_apart {entries : List HistoryEntry} {id : String}
    (apart : ∀ e ∈ entries, (e.id == id) = false) : entries.filter (fun e => !(e.id == id)) = entries :=
  List.filter_eq_self.mpr fun e mem => by rw [apart e mem]; rfl

/-- Of edits of which one has an id, the others stay. -/
theorem filter_split {older newer : List HistoryEntry} {e : HistoryEntry}
    (apart : ∀ e' ∈ older ++ newer, (e'.id == e.id) = false) :
    (older ++ e :: newer).filter (fun e' => !(e'.id == e.id)) = older ++ newer := by
  rw [List.filter_append, List.filter_cons_of_neg (by simp), ← List.filter_append, filter_of_apart apart]

/-- An edit is taken out of a history without a repeated id: the others stay, in effect or not as they
were. -/
theorem discard_eq_filter (within : h.applied ≤ h.entries.length) (distinct : (h.entries.map (·.id)).Nodup)
    (id : String) :
    h.discard id = ⟨h.entries.filter fun e => !(e.id == id),
      ((h.entries.take h.applied).filter fun e => !(e.id == id)).length⟩ := by
  obtain ⟨entries, applied⟩ := h
  dsimp only at within distinct ⊢
  by_cases held : ∃ e ∈ entries, e.id = id
  · obtain ⟨e, mem, rfl⟩ := held
    obtain ⟨older, newer, rfl⟩ := List.append_of_mem mem
    have apart := Host.apart_of_distinct distinct
    rw [Host.discard_split distinct, filter_split apart]
    congr 1
    split
    · rename_i inEffect
      -- the boundary lies behind the edit and moves with those in effect
      obtain ⟨n, rfl⟩ := Nat.exists_eq_add_of_lt inEffect
      have front : (older ++ e :: newer).take (older.length + n + 1) = older ++ e :: newer.take n := by
        rw [Nat.add_assoc, List.take_length_add_append, List.take_succ_cons]
      rw [front, filter_split fun e' mem => apart e' (List.mem_append.mpr
        ((List.mem_append.mp mem).imp_right List.mem_of_mem_take))]
      simp only [List.length_append, List.length_cons] at within
      rw [Nat.add_sub_cancel, List.length_append, List.length_take_of_le (by omega)]
    · rename_i takenBack
      have le := Nat.not_lt.mp takenBack
      rw [List.take_append_of_le_length le, filter_of_apart fun e' mem =>
        apart e' (List.mem_append_left _ (List.mem_of_mem_take mem)), List.length_take_of_le le]
  · have others : ∀ e ∈ entries, (e.id == id) = false := fun e mem =>
      beq_false_of_ne fun same => held ⟨e, mem, same⟩
    have others' : ∀ e ∈ entries.take applied, (e.id == id) = false := fun e mem =>
      others e (List.mem_of_mem_take mem)
    unfold History.discard
    dsimp only
    rw [List.findIdx?_eq_none_iff.mpr others, filter_of_apart others, filter_of_apart others',
      List.length_take_of_le within]

/-- An edit that is taken out goes from the stack that it is on. -/
theorem IsOn.discard (on : h.IsOn s) (distinct : (h.entries.map (·.id)).Nodup) (id : String) :
    (h.discard id).IsOn (s.after (.discard id)) := by
  rw [discard_eq_filter on.applied_le distinct, on.entries_in_effect]
  constructor
  · show h.entries.filter _ = (s.done.filter _).reverse ++ s.undone.filter _
    rw [on.entries, List.filter_append, List.filter_reverse]
  · show (s.done.reverse.filter _).length = (s.done.filter _).length
    rw [List.filter_reverse, List.length_reverse]

/-- **One step** on a history without a repeated id is the step on the stacks. -/
theorem IsOn.after (on : h.IsOn s) (distinct : (h.entries.map (·.id)).Nodup) (step : HistoryStep) :
    (h.after step).IsOn (s.after step) := by
  cases step with
  | push e => exact on.push e
  | back => exact on.back
  | forward => exact on.forward
  | discard id => exact on.discard distinct id

/-! ### What the history offers -/

/-- The number of the latest edit in effect is one of an edit, or minus one. -/
theorem IsOn.index_within (on : h.IsOn s) : -1 ≤ h.index ∧ h.index < h.entries.length := by
  have le := on.applied_le
  unfold index
  omega

/-- The edit to be taken back is the top of those in effect. -/
theorem IsOn.undoEntry?_eq (on : h.IsOn s) : h.undoEntry? = s.done.head? := by
  obtain ⟨done, undone⟩ := s
  obtain ⟨entries, applied⟩ := on
  unfold undoEntry? canUndo
  rw [applied, entries]
  cases done with
  | nil => rfl
  | cons e rest => simp

/-- The edit to be made again is the top of those that were taken back. -/
theorem IsOn.redoEntry?_eq (on : h.IsOn s) : h.redoEntry? = s.undone.head? := by
  unfold redoEntry?
  rw [on.entries, on.applied, ← List.length_reverse, List.getElem?_append_right (Nat.le_refl _), Nat.sub_self,
    List.head?_eq_getElem?]

/-- Something can be taken back if anything is in effect. -/
theorem IsOn.canUndo_eq (on : h.IsOn s) : h.canUndo = s.done.head?.isSome := by
  unfold canUndo
  rw [on.applied]
  cases s.done <;> rfl

/-- Something can be made again if anything was taken back. -/
theorem IsOn.canRedo_eq (on : h.IsOn s) : h.canRedo = s.undone.head?.isSome := by
  unfold canRedo
  rw [on.entries, on.applied, List.length_append, List.length_reverse]
  cases s.undone <;> simp

/-! ### Runs -/

theorem run_concat (steps : List HistoryStep) (step : HistoryStep) :
    run (steps ++ [step]) = (run steps).after step := List.foldl_concat ..

/-- A step keeps edits in their order, and the only edit that comes in is the one that it makes. -/
theorem entries_after_sublist (h : History) (step : HistoryStep) :
    (h.after step).entries.Sublist (h.entries ++ pushed [step]) := by
  cases step with
  | push e => exact (List.take_sublist _ _).append_right [e]
  | back => exact List.sublist_append_left ..
  | forward =>
    show h.stepForward.entries.Sublist _
    unfold stepForward
    split <;> exact List.sublist_append_left ..
  | discard id =>
    show (h.discard id).entries.Sublist _
    unfold History.discard
    split
    · exact List.sublist_append_left ..
    · exact (List.eraseIdx_sublist _ _).trans (List.sublist_append_left ..)

/-- The edits of a history are among those that were made, in their order. -/
theorem entries_run_sublist (steps : List HistoryStep) : (run steps).entries.Sublist (pushed steps) := by
  induction steps using List.reverseRecOn with
  | nil => exact List.Sublist.slnil
  | append_singleton steps step ih =>
    have made : pushed (steps ++ [step]) = pushed steps ++ pushed [step] := List.filterMap_append ..
    rw [run_concat, made]
    exact (entries_after_sublist _ step).trans (ih.append_right _)

/-- **Histories are two stacks**: after any steps that make edits with ids of their own, the history
stands for the stacks that the same steps lead to. Its boundary lies within the edits; the edits that can
be taken back and made again are the tops of the stacks, and they are there whenever the history says
that there is one. -/
theorem run_isOn {steps : List HistoryStep} (distinct : ((pushed steps).map (·.id)).Nodup) :
    let h := run steps
    let s := UndoStacks.run steps
    h.IsOn s ∧ (-1 ≤ h.index ∧ h.index < h.entries.length) ∧
      (h.undoEntry? = s.done.head? ∧ h.undoEntry?.isSome = h.canUndo) ∧
      (h.redoEntry? = s.undone.head? ∧ h.redoEntry?.isSome = h.canRedo) := by
  intro h s
  have on : h.IsOn s := by
    unfold h s
    clear h s
    induction steps using List.reverseRecOn with
    | nil => exact ⟨rfl, rfl⟩
    | append_singleton steps step ih =>
      have made : pushed (steps ++ [step]) = pushed steps ++ pushed [step] := List.filterMap_append ..
      rw [made, List.map_append] at distinct
      have before := (List.nodup_append.mp distinct).1
      rw [run_concat, UndoStacks.run, List.foldl_concat]
      exact (ih before).after (before.sublist ((entries_run_sublist steps).map _)) step
  refine ⟨on, on.index_within, ⟨on.undoEntry?_eq, ?_⟩, on.redoEntry?_eq, ?_⟩
  · rw [on.undoEntry?_eq, on.canUndo_eq]
  · rw [on.redoEntry?_eq, on.canRedo_eq]

/-- Three edits, the second one of which is taken out while the last one is taken back. -/
def lostMiddle : List HistoryStep :=
  [.push ⟨"a", "p", [], none, none, none, none⟩, .push ⟨"b", "p", [], none, none, none, none⟩,
    .push ⟨"c", "p", [], none, none, none, none⟩, .back, .discard "b"]

/-- The first edit can be taken back, and the third one made again. -/
theorem run_lostMiddle :
    let h := run lostMiddle
    h.undoEntry?.map (·.id) = some "a" ∧ h.redoEntry?.map (·.id) = some "c" ∧ h.index = 0 := by
  intro h
  obtain ⟨on, -, ⟨undo, -⟩, redo, -⟩ := @run_isOn lostMiddle (by decide)
  refine ⟨?_, ?_, ?_⟩
  · rw [undo]
    decide
  · rw [redo]
    decide
  · rw [index, on.applied]
    decide

end History

end Retouch
