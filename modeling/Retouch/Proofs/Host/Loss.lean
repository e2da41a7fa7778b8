import Retouch.Proofs.Host.Asking
import Retouch.Proofs.Host.Rollback
import Retouch.Proofs.Wire.Styles

/-!
# Commands whose request is lost

A command about edits changes the layers and the history before it sends its request. If the request is
lost, it is taken back. For the history this is a step the other way, so to take back or to make again
leaves the host where it was (`move_lost`). For the committed styles it is what they were before
(`perform_lost_edits`). But the styles that are only shown were not kept: the properties of the edit
have left them, and nothing brings them back. So what the user tries out survives a request that cannot
be sent exactly if none of it is a property of the edit (`unsent_keeps_preview_iff`).
-/

namespace Retouch.Host

variable {κ : Type}

/-! ### What is only shown -/

/-- The styles without the properties of some changes are those under other keys. -/
theorem without_eq_filter (styles : Styles) (changes : List StyleChange) :
    Styles.without styles changes =
      styles.filter fun e => changes.all fun c => !(e.1 == c.property) := by
  unfold Styles.without
  induction changes generalizing styles with
  | nil => exact (List.filter_eq_self.mpr fun _ _ => rfl).symm
  | cons c changes ih =>
    rw [List.foldl_cons, ih, Table.erase, List.filter_filter]
    simp [Bool.and_comm]

/-- Styles lose nothing exactly if none of the properties is among them. -/
theorem without_eq_self_iff (styles : Styles) (changes : List StyleChange) :
    Styles.without styles changes = styles ↔
      ∀ c ∈ changes, Table.contains styles c.property = false := by
  rw [without_eq_filter, List.filter_eq_self]
  simp only [Table.contains, List.all_eq_true, List.any_eq_false, Bool.not_eq_true']
  constructor
  · intro apart c hc e he
    simpa using apart e he c hc
  · intro apart e he c hc
    simpa using apart c hc e he

/-- To present an edit takes its properties out of what is only shown on its element. -/
theorem present_preview (h : Host κ) (entry : HistoryEntry) (s : String) :
    (h.present entry).preview.styles s =
      if s = entry.selector then Styles.without (h.preview.styles s) entry.changes
      else h.preview.styles s := by
  unfold present
  dsimp only
  split
  · rename_i styles shown
    replace shown : Table.get? h.preview entry.selector = some styles := shown
    change Layer.styles (Table.set h.preview entry.selector _) s = _
    unfold Layer.styles
    rw [Table.get?_set]
    by_cases here : s = entry.selector
    · subst here
      simp [shown]
    · simp [here]
  · rename_i hidden
    replace hidden : Table.get? h.preview entry.selector = none := hidden
    change h.preview.styles s = _
    split
    · rename_i here
      subst here
      simp [Layer.styles, hidden, without_eq_filter]
    · rfl

/-- Answers leave what is only shown. -/
theorem kept_preview (l : Layer) : Kept fun g : Host κ => g.preview = l where
  same same eq := same.preview.trans eq
  settle _ eq := eq
  rollBack id eq := by
    unfold rollBack
    split
    · exact eq
    · dsimp only
      split <;> exact eq

section Lost

variable [Link κ] {h : Host κ}

/-- What an edit takes out of what is only shown stays out, whatever becomes of the request. -/
theorem perform_preview (shown : HistoryEntry) (step : EditStep) (history : History) (s : String) :
    (h.perform shown step history).1.preview.styles s =
      if s = shown.selector then Styles.without (h.preview.styles s) shown.changes
      else h.preview.styles s := by
  have presented := present_preview (h.asked shown step history) shown s
  rw [(kept_preview ((h.asked shown step history).present shown).preview).perform rfl, presented]
  rfl

/-- An edit whose request is lost leaves the committed styles as they were; the history is moved back,
and the edit is not waited for any more. -/
theorem perform_lost_edits {shown e : HistoryEntry} {n : Nat} (id : shown.id = idText n)
    {step : EditStep} {history : History} (found : history.find? shown.id = some e)
    (same : e.selector = shown.selector)
    (lost : Lost h (.styles (styleRequest shown (stepDirection? step))) shown.id) :
    let h' := (h.perform shown step history).1
    (∀ s, h'.committed.styles s = h.committed.styles s) ∧
      h'.history = unstep history shown.id step ∧ Table.get? h'.awaiting shown.id = none := by
  intro h'
  obtain ⟨h₁, presented, after⟩ := perform_lost id step history lost
  obtain ⟨committed, moved, settled⟩ := rollBack_presented found same presented
  refine ⟨fun s => ?_, after.history.trans moved, ?_⟩
  · rw [after.committed]
    exact committed s
  · rw [after.awaiting]
    exact settled

/-! ### Requests that cannot be sent -/

/-- A request cannot be sent: there is no link, or the link refuses it. -/
inductive Unsent (h : Host κ) (request : Request) : Prop where
  /-- There is no link. -/
  | unlinked (unlinked : h.link? = none)
  /-- The link refuses the request. -/
  | refused {link link' : κ} {reason : String} (linked : h.link? = some link)
      (sending : Link.send link request.toJson = (link', .error reason))

/-- What cannot be sent is lost. -/
theorem Unsent.lost {request : Request} (unsent : Unsent h request) (id : String) :
    Lost h request id := by
  cases unsent with
  | unlinked unlinked => exact .unlinked unlinked
  | refused linked sending => exact .refused linked sending

/-- A command whose request is lost leaves the committed styles as they were; the history is moved
back, and the edit is not waited for any more. -/
theorem run_lost (numbered : h.IsNumbered) {c : Command} {a : Ask} (asks : h.ask? c = some a)
    (lost : Lost h a.request a.shown.id) :
    let h' := (h.run c).1
    (∀ s, h'.committed.styles s = h.committed.styles s) ∧
      h'.history = unstep a.history a.shown.id a.step ∧
        Table.get? h'.awaiting a.shown.id = none := by
  obtain ⟨⟨e, found, same⟩, n, id⟩ := ask?_found numbered asks
  have performed := perform_lost_edits (h := h.readied a.step) id found same
    (Lost.of_link (readied_link h a.step) lost)
  rw [run_ask asks]
  simpa using performed

/-- **What is tried out, when a request cannot be sent.** In every state that a host reaches, a command
about edits whose request cannot be sent leaves the committed styles of every element as they were. It
leaves what is only shown as it was exactly if no property of the edit is shown on its element. -/
theorem unsent_keeps_preview_iff (reached : Reachable h) {c : Command} {a : Ask}
    (asks : h.ask? c = some a) (unsent : Unsent h a.request) :
    let h' := (h.run c).1
    (∀ s, h'.committed.styles s = h.committed.styles s) ∧
      ((∀ s, h'.preview.styles s = h.preview.styles s) ↔
        ∀ change ∈ a.shown.changes,
          Table.contains (h.preview.styles a.shown.selector) change.property = false) := by
  intro h'
  have shows (s : String) : h'.preview.styles s =
      if s = a.shown.selector then Styles.without (h.preview.styles s) a.shown.changes
      else h.preview.styles s := by
    show (h.run c).1.preview.styles s = _
    rw [run_ask asks, perform_preview, readied_preview]
  refine ⟨(run_lost reached.numbered asks (unsent.lost _)).1, ?_⟩
  rw [← without_eq_self_iff]
  constructor
  · intro kept
    have here := shows a.shown.selector
    rw [if_pos rfl, kept] at here
    exact here.symm
  · intro kept s
    rw [shows]
    split
    · rename_i here
      rw [here, kept]
    · rfl

/-- A host without a link; a color is tried out on a paragraph. -/
def tryingOut : Host ScriptedLink :=
  ((({ link? := none } : Host ScriptedLink).run (.receive paragraphSelected)).1.run
    (.previewStyle "color" "blue")).1

theorem tryingOut_reachable : Reachable tryingOut := .run _ (.run _ (.start none _ _))

/-- A size that cannot be sent leaves the color that is tried out. -/
theorem tryingOut_keeps_color :
    let h := (tryingOut.run (.applyStyles [("fontSize", "20px")] false)).1
    (∀ s, h.committed.styles s = tryingOut.committed.styles s) ∧
      ∀ s, h.preview.styles s = tryingOut.preview.styles s := by
  obtain ⟨committed, preview⟩ := unsent_keeps_preview_iff tryingOut_reachable
    (c := .applyStyles [("fontSize", "20px")] false) rfl (.unlinked rfl)
  exact ⟨committed, preview.mpr (by decide)⟩

/-- A color that cannot be sent takes away the color that is tried out. -/
theorem unsent_color_drops_preview :
    ∃ h : Host ScriptedLink, Reachable h ∧
      ∃ a, h.ask? (.applyStyles [("color", "red")] false) = some a ∧ Unsent h a.request ∧
        h.preview.styles "p" = [("color", "blue")] ∧
        (h.run (.applyStyles [("color", "red")] false)).1.preview.styles "p" = [] :=
  ⟨tryingOut, tryingOut_reachable, _, rfl, .unlinked rfl, by decide, by decide⟩

/-! ### Steps in the history -/

/-- **A step that is lost.** In every state that a host reaches, to take an edit back or to make it
again, when there is no link, the link refuses the request, or the answer is that nothing was written,
leaves the history and the committed styles of every element as they were; and the edit is not waited
for any more. -/
theorem move_lost (reached : Reachable h) (d : Direction) {a : Ask}
    (asks : h.ask? (.move d) = some a) (lost : Lost h a.request a.shown.id) :
    let h' := (h.run (.move d)).1
    h'.history = h.history ∧ (∀ s, h'.committed.styles s = h.committed.styles s) ∧
      Table.get? h'.awaiting a.shown.id = none := by
  intro h'
  obtain ⟨committed, moved, settled⟩ := run_lost reached.numbered asks lost
  refine ⟨moved.trans ?_, committed, settled⟩
  cases d with
  | undo =>
    obtain ⟨e, latest, rfl⟩ := ask?_undo asks
    exact stepForward_stepBack (undoEntry?_eq latest).1 reached.numbered.applied_le
  | redo =>
    obtain ⟨e, next, rfl⟩ := ask?_redo asks
    exact stepBack_stepForward (canRedo_of_next next)

/-- A host with one edit, over a link that will not write that it is taken back. -/
def edited : Host ScriptedLink :=
  ((({ link? := some ⟨[.ok [], .ok [(Response.styles (reply 1 false)).toJson]]⟩ } : Host ScriptedLink).run
    (.receive paragraphSelected)).1.run (.applyStyles [("color", "red")] false)).1

/-- To take the edit of this host back is answered by a refusal, and leaves it with its edit. -/
theorem edited_keeps_edit :
    let h := (edited.run (.move .undo)).1
    h.history = edited.history ∧ (∀ s, h.committed.styles s = edited.committed.styles s) ∧
      Table.get? h.awaiting (idText 1) = none :=
  move_lost (.run _ (.run _ (.start _ _ _))) .undo rfl
    (.unwritten rfl rfl (Response.read_report (reply 1 false)) rfl rfl)

end Lost

end Retouch.Host
