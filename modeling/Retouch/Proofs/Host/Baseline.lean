import Retouch.Host.Connection
import Retouch.Proofs.Host.Asking
import Retouch.Proofs.Table

/-!
# Committed styles as the history tells them

To take an edit back does not bring the styles from before back: it commits the old values that were
written down when the edit was made. These were committed values or computed ones, an empty value takes
a property away, and edits of several elements come in any order. Still, if every element that is
selected reports the values of one baseline, and every request is accepted, then at any time the
committed styles over that baseline are what the edits in effect make of it, one after the other
(`committed_eq_replay`). The invariant behind it is `Tracks`: besides that equation it says that each
edit has written down the values that the edits before it had left.
-/

namespace Retouch

/-! ### Values over a baseline -/

/-- A value over a baseline: an empty one goes back to the baseline. -/
def valueOr (base value : String) : String := if value.isEmpty then base else value

@[simp] theorem valueOr_empty (base : String) : valueOr base "" = base := rfl

theorem valueOr_filled (base : String) {value : String} (filled : value.isEmpty = false) :
    valueOr base value = value := by
  simp [valueOr, filled]

/-- What a change makes of the value of a property over a baseline. -/
def StyleChange.over (base property value : String) (c : StyleChange) : String :=
  if c.property = property then valueOr base c.newValue else value

/-- The values that the properties of elements have without edits, by selector and property. -/
abbrev Baseline := String → String → String

namespace Baseline

/-- What edits, the oldest first, make of the value of a property of an element. -/
def replay (baseline : Baseline) (edits : List HistoryEntry) (selector property : String) : String :=
  edits.foldl (fun value e =>
    if e.selector = selector then
      e.changes.foldl (StyleChange.over (baseline selector property) property) value
    else value) (baseline selector property)

/-- The value of a property of an element in a layer, or else in the baseline. -/
def seen (baseline : Baseline) (layer : Layer) (selector property : String) : String :=
  (Table.get? (layer.styles selector) property).getD (baseline selector property)

/-- One more edit counts for its own element. -/
theorem replay_concat (baseline : Baseline) (edits : List HistoryEntry) (e : HistoryEntry)
    (s p : String) :
    baseline.replay (edits ++ [e]) s p =
      if e.selector = s then e.changes.foldl (StyleChange.over (baseline s p) p) (baseline.replay edits s p)
      else baseline.replay edits s p := by
  simp [replay]

end Baseline

section Changes

variable {base property value : String} {changes : List StyleChange}

/-- Changes to other properties leave the value. -/
theorem foldl_over_untouched (untouched : ∀ c ∈ changes, c.property ≠ property) :
    changes.foldl (StyleChange.over base property) value = value := by
  induction changes with
  | nil => rfl
  | cons c changes ih =>
    obtain ⟨other, others⟩ := List.forall_mem_cons.mp untouched
    rw [List.foldl_cons, StyleChange.over, if_neg other]
    exact ih others

/-- Changes that agree on a property either touch it, and make it what they agree on, or do not. -/
theorem foldl_over_agreed (value : String) {agreed : String}
    (agree : ∀ c ∈ changes, c.property = property → valueOr base c.newValue = agreed) :
    changes.foldl (StyleChange.over base property) value = agreed ∨
      ∀ c ∈ changes, c.property ≠ property := by
  induction changes generalizing value with
  | nil => exact Or.inr nofun
  | cons c changes ih =>
    obtain ⟨first, rest⟩ := List.forall_mem_cons.mp agree
    rw [List.foldl_cons]
    obtain made | untouched := ih (StyleChange.over base property value c) rest
    · exact Or.inl made
    · by_cases touches : c.property = property
      · refine Or.inl ?_
        rw [foldl_over_untouched untouched, StyleChange.over, if_pos touches, first touches]
      · exact Or.inr (List.forall_mem_cons.mpr ⟨touches, untouched⟩)

/-- The inverse of an edit brings a value back, if the edit has written it down as the old one. -/
theorem foldl_over_inverted {e : HistoryEntry}
    (written : ∀ c ∈ e.changes, c.property = property → valueOr base c.oldValue = value) :
    e.inverted.changes.foldl (StyleChange.over base property)
      (e.changes.foldl (StyleChange.over base property) value) = value := by
  have agree : ∀ c ∈ e.inverted.changes, c.property = property → valueOr base c.newValue = value := by
    intro c hc
    obtain ⟨c', hc', rfl⟩ := List.mem_map.mp hc
    exact written c' hc'
  obtain back | untouched := foldl_over_agreed
    (e.changes.foldl (StyleChange.over base property) value) agree
  · exact back
  · have others : ∀ c ∈ e.changes, c.property ≠ property := fun c hc =>
      untouched c.inverted (List.mem_map_of_mem hc)
    rw [foldl_over_untouched untouched, foldl_over_untouched others]

end Changes

/-! ### Styles after changes -/

namespace Styles

theorem get?_apply (s : Styles) (c : StyleChange) (property : String) :
    Table.get? (s.apply c) property =
      if property = c.property then if c.newValue.isEmpty then none else some c.newValue
      else Table.get? s property := by
  unfold apply
  split
  · simp [Table.get?_erase]
  · simp [Table.get?_set]

/-- Over a baseline, styles follow the changes. -/
theorem getD_foldl_apply (s : Styles) (changes : List StyleChange) (property base : String) :
    (Table.get? (changes.foldl apply s) property).getD base =
      changes.foldl (StyleChange.over base property) ((Table.get? s property).getD base) := by
  induction changes generalizing s with
  | nil => rfl
  | cons c changes ih =>
    rw [List.foldl_cons, List.foldl_cons, ih, get?_apply]
    congr 1
    unfold StyleChange.over valueOr
    by_cases here : property = c.property
    · rw [if_pos here, if_pos here.symm]
      split <;> rfl
    · rw [if_neg here, if_neg (Ne.symm here)]

/-- No style has an empty value. -/
def Filled (s : Styles) : Prop := ∀ p v, Table.get? s p = some v → v.isEmpty = false

theorem Filled.foldl_apply {s : Styles} (filled : s.Filled) (changes : List StyleChange) :
    (changes.foldl apply s).Filled := by
  induction changes generalizing s with
  | nil => exact filled
  | cons c changes ih =>
    refine ih fun p v found => ?_
    rw [get?_apply] at found
    split at found
    · split at found
      · cases found
      · rename_i nonempty
        cases found
        simpa using nonempty
    · exact filled p v found

/-- What is computed for properties that are not committed is the baseline, or empty. -/
def Reports (base : String → String) (committed computed : Styles) : Prop :=
  ∀ p v, Table.get? committed p = none → Table.get? computed p = some v → valueOr (base p) v = base p

/-- A change that is committed and reported leaves what is reported in order. -/
theorem Reports.apply {base : String → String} {committed computed : Styles}
    (reports : Reports base committed computed) (c : StyleChange) :
    Reports base (committed.apply c) (Table.set computed c.property c.newValue) := by
  intro p v missing found
  rw [get?_apply] at missing
  rw [Table.get?_set] at found
  by_cases here : p = c.property
  · rw [if_pos here] at missing
    rw [if_pos (beq_iff_eq.mpr here)] at found
    cases found
    split at missing
    · rename_i empty
      simp [valueOr, empty]
    · cases missing
  · rw [if_neg here] at missing
    rw [if_neg (by simpa using here)] at found
    exact reports p v missing found

theorem Reports.foldl_apply {base : String → String} {committed computed : Styles}
    (reports : Reports base committed computed) (changes : List StyleChange) :
    Reports base (changes.foldl Styles.apply committed)
      (Table.merge computed (changes.map fun c => (c.property, c.newValue))) := by
  unfold Table.merge
  induction changes generalizing committed computed with
  | nil => exact reports
  | cons c changes ih => exact ih (reports.apply c)

end Styles

namespace Host

variable {κ : Type} {baseline : Baseline} {h : Host κ}

/-! ### What an edit has written down -/

/-- Each edit has written down the values that the edits before it had left. -/
def Recorded (baseline : Baseline) (entries : List HistoryEntry) : Prop :=
  ∀ older e newer, entries = older ++ e :: newer → ∀ c ∈ e.changes,
    valueOr (baseline e.selector c.property) c.oldValue = baseline.replay older e.selector c.property

/-- An edit made after others that has written down what they left. -/
theorem Recorded.concat {entries : List HistoryEntry} (recorded : Recorded baseline entries) (n : Nat)
    {e : HistoryEntry}
    (written : ∀ c ∈ e.changes, valueOr (baseline e.selector c.property) c.oldValue =
      baseline.replay (entries.take n) e.selector c.property) :
    Recorded baseline (entries.take n ++ [e]) := by
  intro older e' newer split
  obtain ⟨rfl, rfl⟩ | ⟨newer', split⟩ := split_concat split
  · exact written
  · refine recorded older e' (newer' ++ entries.drop n) ?_
    rw [← List.cons_append, ← List.append_assoc, ← split, List.take_append_drop]

/-- The edits up to one that stands at some place. -/
theorem take_of_getElem? {entries : List HistoryEntry} {i : Nat} {e : HistoryEntry}
    (at_i : entries[i]? = some e) : entries.take (i + 1) = entries.take i ++ [e] := by
  rw [List.take_add_one, at_i]
  rfl

theorem split_of_getElem? {entries : List HistoryEntry} {i : Nat} {e : HistoryEntry}
    (at_i : entries[i]? = some e) : entries = entries.take i ++ e :: entries.drop (i + 1) := by
  obtain ⟨within, rfl⟩ := List.getElem?_eq_some_iff.mp at_i
  rw [← List.drop_eq_getElem_cons within, List.take_append_drop]

/-! ### The invariant -/

/-- The committed styles of a host, over a baseline, are what the edits in effect make of it. -/
structure Tracks (baseline : Baseline) (h : Host κ) : Prop where
  /-- The committed styles are those that the history tells. -/
  seen : ∀ s p, baseline.seen h.committed s p =
    baseline.replay (h.history.entries.take h.history.applied) s p
  /-- No committed value is empty. -/
  filled : ∀ s, (h.committed.styles s).Filled
  /-- Each edit has written down what the edits before it had left. -/
  recorded : Recorded baseline h.history.entries
  /-- The selected element reports the baseline for what is not committed. -/
  reported : ∀ e, h.selected? = some e →
    Styles.Reports (baseline e.selector) (h.committed.styles e.selector) e.computedStyles

namespace Tracks

theorem lasting : Lasting (Tracks (κ := κ) baseline) where
  same same tracks := by
    obtain ⟨seen, filled, recorded, reported⟩ := tracks
    constructor
    · rw [same.committed, same.history]
      exact seen
    · rw [same.committed]
      exact filled
    · rw [same.history]
      exact recorded
    · rw [same.selected, same.committed]
      exact reported
  settle _ tracks := ⟨tracks.seen, tracks.filled, tracks.recorded, tracks.reported⟩

/-- An edit that is presented is tracked, if the history moves the way that the edit changes values. -/
theorem present (tracks : Tracks baseline h) {shown : HistoryEntry} (step : EditStep) {history : History}
    (recorded : Recorded baseline history.entries)
    (moved : ∀ s p, baseline.replay (history.entries.take history.applied) s p =
      if shown.selector = s then shown.changes.foldl (StyleChange.over (baseline s p) p)
        (baseline.replay (h.history.entries.take h.history.applied) s p)
      else baseline.replay (h.history.entries.take h.history.applied) s p) :
    Tracks baseline ((h.asked shown step history).present shown) := by
  obtain ⟨-, history', -⟩ := present_committed (h.asked shown step history) shown
  have styles (s : String) : ((h.asked shown step history).present shown).committed.styles s =
      if s = shown.selector then shown.changes.foldl Styles.apply (h.committed.styles s)
      else h.committed.styles s := present_styles (h.asked shown step history) shown s
  constructor
  · intro s p
    rw [history', Baseline.seen, styles]
    refine Eq.trans ?_ (moved s p).symm
    rw [← tracks.seen s p, Baseline.seen]
    by_cases here : s = shown.selector
    · rw [if_pos here, if_pos here.symm, Styles.getD_foldl_apply]
    · rw [if_neg here, if_neg (Ne.symm here)]
  · intro s
    rw [styles]
    split
    · exact (tracks.filled s).foldl_apply shown.changes
    · exact tracks.filled s
  · rw [history']
    exact recorded
  · intro e selected
    rw [present_selected] at selected
    obtain ⟨e₀, before, rfl⟩ := Option.map_eq_some_iff.mp selected
    have reports := tracks.reported e₀ before
    rw [styles]
    by_cases here : e₀.selector = shown.selector
    · simp only [here, beq_self_eq_true, if_true, Snapshot.withComputedStyles]
      rw [here] at reports
      exact reports.foldl_apply shown.changes
    · simp only [beq_iff_eq, here, if_false]
      exact reports

/-! ### Commands -/

/-- A new edit writes down what the edits in effect have left. -/
theorem written (tracks : Tracks baseline h) {element : Snapshot} (selected : h.selected? = some element)
    (values : List (String × String)) (usesInline : Bool) :
    ∀ c ∈ (h.nextEntry element values usesInline).changes,
      valueOr (baseline element.selector c.property) c.oldValue =
        baseline.replay (h.history.entries.take h.history.applied) element.selector c.property := by
  intro c hc
  obtain ⟨⟨property, value⟩, -, rfl⟩ := List.mem_map.mp hc
  rw [← tracks.seen, Baseline.seen]
  dsimp only
  cases committed : Table.get? (h.committed.styles element.selector) property with
  | some old => exact valueOr_filled _ (tracks.filled _ _ _ committed)
  | none =>
    cases computed : Table.get? element.computedStyles property with
    | none => rfl
    | some old => exact tracks.reported element selected property old committed computed

/-- What is asked for moves the history the way that it changes values. -/
theorem ask (tracks : Tracks baseline h) {c : Command} {a : Ask} (asks : h.ask? c = some a) :
    Tracks baseline (((h.readied a.step).asked a.shown a.step a.history).present a.shown) := by
  have readied : Tracks baseline (h.readied a.step) := by
    obtain ⟨seen, filled, recorded, reported⟩ := tracks
    constructor <;> simpa
  refine readied.present a.step ?_ ?_
  · cases c with
    | applyStyles values usesInline =>
      obtain ⟨element, selected, -, rfl⟩ := ask?_applyStyles asks
      exact tracks.recorded.concat _ (tracks.written selected values usesInline)
    | undo =>
      obtain ⟨e, -, rfl⟩ := ask?_undo asks
      exact tracks.recorded
    | redo =>
      obtain ⟨e, next, rfl⟩ := ask?_redo asks
      simpa [History.stepForward, canRedo_of_next next] using tracks.recorded
    | _ => cases asks
  · intro s p
    rw [readied_history]
    cases c with
    | applyStyles values usesInline =>
      obtain ⟨element, selected, -, rfl⟩ := ask?_applyStyles asks
      simp only [History.push, List.take_length]
      exact Baseline.replay_concat ..
    | undo =>
      obtain ⟨e, latest, rfl⟩ := ask?_undo asks
      obtain ⟨some, at_e⟩ := undoEntry?_eq latest
      obtain ⟨i, boundary⟩ := Nat.exists_eq_add_one_of_ne_zero (Nat.ne_of_gt some)
      rw [boundary, Nat.add_sub_cancel] at at_e
      -- the inverse takes the value that the latest edit made back to what that edit has written down
      have written := tracks.recorded _ _ _ (split_of_getElem? at_e)
      simp only [History.stepBack, boundary, Nat.add_sub_cancel, take_of_getElem? at_e,
        Baseline.replay_concat]
      by_cases here : e.selector = s
      · subst here
        simp only [HistoryEntry.inverted, if_true]
        refine (foldl_over_inverted fun c hc property => ?_).symm
        rw [← property]
        exact written c hc
      · simp [HistoryEntry.inverted, here]
    | redo =>
      obtain ⟨e, next, rfl⟩ := ask?_redo asks
      simp only [History.stepForward, canRedo_of_next next, if_true, take_of_getElem? next]
      exact Baseline.replay_concat ..
    | _ => cases asks

end Tracks

section Running

variable [Link κ]

/-- An accepted command about edits keeps the committed styles as the history tells them. -/
theorem Tracks.run_edit (tracks : Tracks baseline h) {c : Command} (edits : c.isEdit = true)
    (accepted : ∀ a, h.ask? c = some a → Accepted h a.request) : Tracks baseline (h.run c).1 := by
  cases asks : h.ask? c with
  | none =>
    rw [run_unasked edits asks]
    exact tracks
  | some a => exact lasting.run asks (accepted a asks) (tracks.ask asks)

/-- A command that sends nothing. -/
def Command.isLocal : Command → Bool
  | .enable | .disable | .toggle | .select _ | .previewStyle _ _ | .clearPreview | .clearSelection
  | .updateText _ => true
  | _ => false

/-- A command that sends nothing leaves the edits and the committed styles; it may give up the
selection. -/
theorem run_local {c : Command} (isLocal : c.isLocal = true) :
    (h.run c).1.history = h.history ∧ (h.run c).1.committed = h.committed ∧
      ((h.run c).1.selected? = h.selected? ∨ (h.run c).1.selected? = none) := by
  have cleared : h.clearPreview.history = h.history ∧ h.clearPreview.committed = h.committed ∧
      h.clearPreview.selected? = h.selected? := by
    unfold clearPreview
    split <;> exact ⟨rfl, rfl, rfl⟩
  cases c with
  | enable => exact ⟨rfl, rfl, Or.inl rfl⟩
  | disable => exact ⟨rfl, rfl, Or.inr rfl⟩
  | toggle =>
    show h.toggle.history = _ ∧ h.toggle.committed = _ ∧ (h.toggle.selected? = _ ∨ h.toggle.selected? = _)
    unfold toggle
    split
    · exact ⟨rfl, rfl, Or.inr rfl⟩
    · exact ⟨rfl, rfl, Or.inl rfl⟩
  | select selector => exact ⟨rfl, rfl, Or.inl rfl⟩
  | previewStyle property value =>
    show (h.previewStyle property value).history = _ ∧ (h.previewStyle property value).committed = _ ∧
      ((h.previewStyle property value).selected? = _ ∨ (h.previewStyle property value).selected? = _)
    unfold previewStyle
    split <;> exact ⟨rfl, rfl, Or.inl rfl⟩
  | clearPreview => exact ⟨cleared.1, cleared.2.1, Or.inl cleared.2.2⟩
  | clearSelection => exact ⟨cleared.1, cleared.2.1, Or.inr rfl⟩
  | updateText text =>
    show (h.updateText text).history = _ ∧ (h.updateText text).committed = _ ∧
      ((h.updateText text).selected? = _ ∨ (h.updateText text).selected? = _)
    unfold updateText
    split <;> exact ⟨rfl, rfl, Or.inl rfl⟩
  | _ => cases isLocal

theorem Tracks.run_local (tracks : Tracks baseline h) {c : Command} (isLocal : c.isLocal = true) :
    Tracks baseline (h.run c).1 := by
  obtain ⟨history, committed, selected⟩ := Host.run_local (h := h) isLocal
  obtain ⟨seen, filled, recorded, reported⟩ := tracks
  constructor
  · rwa [committed, history]
  · rwa [committed]
  · rwa [history]
  · intro e he
    rw [committed]
    obtain same | none := selected
    · exact reported e (same ▸ he)
    · rw [none] at he
      cases he

/-- A message that points at elements, and reports what is computed for them as the baseline has it. -/
def PointsOver (baseline : Baseline) : FrameMessage → Prop
  | .selected e => ∀ p v, Table.get? e.computedStyles p = some v → v = baseline e.selector p
  | .hovered _ | .deselected => True
  | _ => False

theorem Tracks.receive (tracks : Tracks baseline h) {v : Json} {m : FrameMessage}
    (read : FrameMessage.decode h.tag v = .ok (some m)) (points : PointsOver baseline m) :
    Tracks baseline (h.run (.receive v)).1 := by
  obtain ⟨seen, filled, recorded, reported⟩ := tracks
  have heeded : (h.run (.receive v)).1 = (h.heed m).1 := by
    show (h.receive v).1 = _
    unfold Host.receive
    rw [read]
  rw [heeded]
  cases m with
  | selected element =>
    refine ⟨seen, filled, recorded, fun e selected => ?_⟩
    obtain rfl : h.withCommitted element = e := Option.some.inj selected
    intro p v missing found
    -- what is committed is merged into what the element reports
    have reports : Table.get? element.computedStyles p = some v := by
      unfold withCommitted at missing found
      split at found
      · rename_i styles committed
        rw [committed] at missing
        have missing : Table.get? styles p = none := by
          change Table.get? (Layer.styles h.committed element.selector) p = none at missing
          rwa [Layer.styles, committed] at missing
        rwa [Snapshot.withComputedStyles, Table.get?_merge_of_none _ _ missing] at found
      · exact found
    have selector : (h.withCommitted element).selector = element.selector := by
      unfold withCommitted
      split <;> rfl
    rw [selector, points p v reports]
    unfold valueOr
    split <;> rfl
  | hovered element? => exact ⟨seen, filled, recorded, reported⟩
  | deselected =>
    refine ⟨seen, filled, recorded, fun e selected => ?_⟩
    cases selected
  | _ => exact points.elim

/-! ### Runs -/

/-- What a new host comes to while every request is accepted: it edits, hears messages that refuse
nothing, is told what is pointed at, with the baseline for what is computed, and does what sends nothing.
Meanwhile its link may become another one, and what it told the frame is read. -/
inductive AcceptedRun (baseline : Baseline) : Host κ → Prop where
  /-- A new host. -/
  | start (link? : Option κ) (tag : String) (opensCode : Bool) :
      AcceptedRun baseline { link?, tag, opensCode : Host κ }
  /-- A command about edits was done. -/
  | edit {h : Host κ} {c : Command} (run : AcceptedRun baseline h) (edits : c.isEdit = true)
      (accepted : ∀ a, h.ask? c = some a → Accepted h a.request) : AcceptedRun baseline (h.run c).1
  /-- An answer has come. -/
  | hear {h : Host κ} {v : Json} (run : AcceptedRun baseline h) (approves : Approves v) :
      AcceptedRun baseline (h.run (.hear v)).1
  /-- The frame has pointed at an element. -/
  | point {h : Host κ} {v : Json} {m : FrameMessage} (run : AcceptedRun baseline h)
      (read : FrameMessage.decode h.tag v = .ok (some m)) (points : PointsOver baseline m) :
      AcceptedRun baseline (h.run (.receive v)).1
  /-- Something was done that sends nothing. -/
  | stay {h : Host κ} {c : Command} (run : AcceptedRun baseline h) (isLocal : c.isLocal = true) :
      AcceptedRun baseline (h.run c).1
  /-- The link has changed. -/
  | relinked {h : Host κ} (link? : Option κ) (run : AcceptedRun baseline h) :
      AcceptedRun baseline { h with link? }
  /-- The frame has been told. -/
  | read {h : Host κ} (run : AcceptedRun baseline h) : AcceptedRun baseline { h with told := [] }

theorem AcceptedRun.tracks (run : AcceptedRun baseline h) : Tracks baseline h := by
  induction run with
  | start link? tag opensCode =>
    refine ⟨fun s p => rfl, fun s p v found => ?_, fun older e newer split => ?_, fun e selected => ?_⟩
    · cases found
    · simp at split
    · cases selected
  | edit _ edits accepted ih => exact ih.run_edit edits accepted
  | hear _ approves ih => exact Tracks.lasting.hear approves ih
  | point _ read points ih => exact ih.receive read points
  | stay _ isLocal ih => exact ih.run_local isLocal
  | relinked _ _ ih => exact ⟨ih.seen, ih.filled, ih.recorded, ih.reported⟩
  | read _ ih => exact ⟨ih.seen, ih.filled, ih.recorded, ih.reported⟩

/-- Edits are taken back and made again, every request accepted and every answer heard that comes. -/
inductive Walk (h : Host κ) : Host κ → Prop where
  /-- Nothing was done. -/
  | here : Walk h h
  /-- An edit was taken back or made again. -/
  | move {h' : Host κ} (d : Direction) (walk : Walk h h')
      (accepted : ∀ a, h'.ask? (.move d) = some a → Accepted h' a.request) :
      Walk h (h'.run (.move d)).1
  /-- An answer has come. -/
  | hear {h' : Host κ} {v : Json} (walk : Walk h h') (approves : Approves v) :
      Walk h (h'.run (.hear v)).1

/-- To take back and to make again leaves the edits. -/
theorem move_entries (d : Direction) (accepted : ∀ a, h.ask? (.move d) = some a → Accepted h a.request) :
    (h.run (.move d)).1.history.entries = h.history.entries := by
  cases asks : h.ask? (.move d) with
  | none => rw [run_unasked (by cases d <;> rfl) asks]
  | some a =>
    rw [run_accepted_history asks (accepted a asks)]
    cases d with
    | undo =>
      obtain ⟨e, -, rfl⟩ := ask?_undo asks
      rfl
    | redo =>
      obtain ⟨e, next, rfl⟩ := ask?_redo asks
      simp [History.stepForward, canRedo_of_next next]

/-- A walk leaves the edits, and the committed styles as the history tells them. -/
theorem Walk.tracks {h' : Host κ} (walk : Walk h h') (tracks : Tracks baseline h) :
    Tracks baseline h' ∧ h'.history.entries = h.history.entries := by
  induction walk with
  | here => exact ⟨tracks, rfl⟩
  | move d _ accepted ih =>
    exact ⟨ih.1.run_edit (by cases d <;> rfl) accepted, (move_entries d accepted).trans ih.2⟩
  | hear _ approves ih =>
    exact ⟨Tracks.lasting.hear approves ih.1,
      (Lasting.of_history fun history => history.entries = _).hear approves ih.2⟩

/-- **The history tells what is committed.** While every request is accepted and every selected element
reports one baseline, the committed styles over that baseline are what the edits in effect, and no
others, make of it, for every property of every element. So they depend on the place in the history
only: after any walk through the history that ends where it began, they are what they were. -/
theorem committed_eq_replay (run : AcceptedRun baseline h) :
    (∀ s p, baseline.seen h.committed s p =
      baseline.replay (h.history.entries.take h.history.applied) s p) ∧
    ∀ h', Walk h h' → h'.history.index = h.history.index →
      ∀ s p, baseline.seen h'.committed s p = baseline.seen h.committed s p := by
  have tracks := run.tracks
  refine ⟨tracks.seen, fun h' walk back s p => ?_⟩
  obtain ⟨tracks', entries⟩ := walk.tracks tracks
  have boundary : h'.history.applied = h.history.applied := by
    unfold History.index at back
    omega
  rw [tracks'.seen, tracks.seen, entries, boundary]

/-- A text is black by itself. -/
def inkBaseline : Baseline := fun _ property => if property = "color" then "black" else ""

/-- The frame tells that a black paragraph is selected. -/
def blackParagraph : Json :=
  Wire.envelope Wire.defaultTag "element_selected"
    [("element", .obj [("selector", .str "p"), ("tagName", .str "p"),
      ("computedStyles", .obj [("color", .str "black")])])]

/-- The paragraph is selected, over a link that accepts everything. -/
def inked : Host ScriptedLink :=
  (({ link? := some ⟨[]⟩ } : Host ScriptedLink).run (.receive blackParagraph)).1

/-- Its color is set, given up again, and that is taken back. -/
def recolored : Host ScriptedLink :=
  (((inked.run (.applyStyles [("color", "red")] false)).1.run
    (.applyStyles [("color", "")] false)).1.run .undo).1

theorem recolored_run : AcceptedRun inkBaseline recolored := by
  have selected : AcceptedRun inkBaseline inked := by
    refine .point (.start _ _ _) rfl fun p v found => ?_
    have there : (p, v) ∈ [("color", "black")] := Table.mem_of_get? found
    obtain ⟨rfl, rfl⟩ := Prod.mk.inj (List.mem_singleton.mp there)
    rfl
  refine .edit (.edit (.edit selected rfl ?_) rfl ?_) rfl ?_
  all_goals exact fun a _ => .delivered (show _ = some (⟨[]⟩ : ScriptedLink) from rfl) rfl nofun

/-- The color that the history tells is the one that is committed. -/
theorem recolored_red :
    inkBaseline.seen recolored.committed "p" "color" =
        inkBaseline.replay (recolored.history.entries.take recolored.history.applied) "p" "color" ∧
      inkBaseline.seen recolored.committed "p" "color" = "red" :=
  ⟨(committed_eq_replay recolored_run).1 "p" "color", by decide⟩

end Running

end Host

end Retouch
