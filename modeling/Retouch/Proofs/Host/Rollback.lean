import Mathlib.Data.List.Nodup
import Mathlib.Data.List.TakeDrop
import Retouch.Host.Connection
import Retouch.Proofs.Host.Numbering

/-!
# An edit that was not written

An edit is pushed into the history, committed and shown before it is known whether the backend writes
it. If the request is lost, the edit is taken back: its entry leaves the history and the committed
styles are what they were. But a push drops the edits that could be made again, and taking the entry
out does not bring them back. So the host is exactly where it was if nothing could be made again, and
only then (`applyStyles_lost`).
-/

namespace Retouch.Host

variable {κ : Type}

/-! ### The history after a push that is taken back -/

/-- If no id comes twice, the others have other ids. -/
theorem apart_of_distinct {older newer : List HistoryEntry} {e : HistoryEntry}
    (distinct : ((older ++ e :: newer).map (·.id)).Nodup) :
    ∀ e' ∈ older ++ newer, (e'.id == e.id) = false := by
  rw [List.map_append, List.map_cons, List.nodup_middle, List.nodup_cons, ← List.map_append] at distinct
  intro e' he'
  exact beq_false_of_ne fun same => distinct.1 (List.mem_map.mpr ⟨e', he', same⟩)

/-- An edit taken out of a history; the others stay in effect or not, as they were. -/
theorem discard_split {older newer : List HistoryEntry} {e : HistoryEntry}
    (distinct : ((older ++ e :: newer).map (·.id)).Nodup) (applied : Nat) :
    (⟨older ++ e :: newer, applied⟩ : History).discard e.id =
      ⟨older ++ newer, if older.length < applied then applied - 1 else applied⟩ := by
  have others : ∀ e' ∈ older, (e'.id == e.id) = false := fun e' he' =>
    apart_of_distinct distinct e' (List.mem_append_left newer he')
  have found : (older ++ e :: newer).findIdx? (fun e' => e'.id == e.id) = some older.length := by
    rw [List.findIdx?_append, List.findIdx?_eq_none_iff.mpr others]
    simp [List.findIdx?_cons]
  unfold History.discard
  dsimp only
  rw [found]
  dsimp only
  rw [List.eraseIdx_append_of_length_le (Nat.le_refl _), Nat.sub_self]
  rfl

/-- A new edit taken out again: what could be made again is gone, the rest is as it was. -/
theorem discard_push {history : History} {given : Nat} (numbered : Numbered history given)
    {e : HistoryEntry} (id : e.id = idText (given + 1)) :
    (history.push e).discard e.id = ⟨history.entries.take history.applied, history.applied⟩ := by
  have length : (history.entries.take history.applied).length = history.applied :=
    List.length_take_of_le numbered.applied_le
  have distinct : ((history.entries.take history.applied ++ [e]).map (·.id)).Nodup :=
    (numbered.push id).distinct
  unfold History.push
  dsimp only
  rw [discard_split distinct]
  simp [length]

/-- The entry of a push is found in the history. -/
theorem find_push {history : History} {given : Nat} (numbered : Numbered history given)
    {e : HistoryEntry} (id : e.id = idText (given + 1)) : (history.push e).find? e.id = some e := by
  unfold History.find? History.push
  dsimp only
  rw [List.find?_append, List.find?_eq_none.mpr]
  · simp
  · intro e' he' same
    exact numbered.fresh (List.mem_of_mem_take he') (id ▸ eq_of_beq same)

/-! ### What taking an edit back restores -/

/-- To take back an edit that is waited for moves the history back, brings the committed styles from
before back, and shows that. -/
theorem rollBack_found {h : Host κ} {id : String} {pending : PendingEdit} {e : HistoryEntry}
    (waits : Table.get? h.awaiting id = some pending) (found : h.history.find? id = some e) :
    h.rollBack id = (({ h with
      awaiting := Table.erase h.awaiting id
      history := unstep h.history id pending.step
      committed := h.committed.put e.selector pending.before } : Host κ).display
        e.selector).announceHistory := by
  unfold rollBack
  rw [waits]
  dsimp only
  rw [found]

/-- An edit of the history that is asked for, shown and then taken back leaves the committed styles as
they were; the history is moved back, and the edit is not waited for any more. -/
theorem rollBack_presented {h h' : Host κ} {shown e : HistoryEntry} {step : EditStep}
    {history : History} (found : history.find? shown.id = some e) (same : e.selector = shown.selector)
    (presented : SameEdits ((h.asked shown step history).present shown) h') :
    (∀ s, (h'.rollBack shown.id).committed.styles s = h.committed.styles s) ∧
      (h'.rollBack shown.id).history = unstep history shown.id step ∧
      Table.get? (h'.rollBack shown.id).awaiting shown.id = none := by
  obtain ⟨-, moved, awaiting, -⟩ := present_committed (h.asked shown step history) shown
  have waits : Table.get? h'.awaiting shown.id = some ⟨step, h.committed.styles shown.selector⟩ := by
    rw [presented.awaiting, awaiting]
    simp [asked, Table.get?_set]
  have asked : h'.history = history := presented.history.trans moved
  rw [rollBack_found waits (asked.symm ▸ found), asked]
  refine ⟨fun s => ?_, rfl, ?_⟩
  · change (h'.committed.put e.selector (h.committed.styles shown.selector)).styles s = _
    rw [Layer.styles_put, presented.committed, present_styles, same]
    by_cases here : s = shown.selector
    · rw [if_pos (beq_iff_eq.mpr here), here]
    · rw [if_neg (by simpa using here), if_neg here]
      rfl
  · change Table.get? (Table.erase h'.awaiting shown.id) shown.id = none
    rw [Table.get?_erase, if_pos (beq_self_eq_true shown.id)]

/-- A new edit that is asked for and then taken back leaves the committed styles as they were, and the
history without what could be made again. -/
theorem rollBack_asked {h h' : Host κ} {e : HistoryEntry} {given : Nat}
    (numbered : Numbered h.history given) (id : e.id = idText (given + 1))
    (presented : SameEdits ((h.asked e .apply (h.history.push e)).present e) h') :
    (∀ s, (h'.rollBack e.id).committed.styles s = h.committed.styles s) ∧
      (h'.rollBack e.id).history =
        ⟨h.history.entries.take h.history.applied, h.history.applied⟩ := by
  obtain ⟨committed, moved, -⟩ := rollBack_presented (find_push numbered id) rfl presented
  exact ⟨committed, moved.trans (discard_push numbered id)⟩

/-! ### Requests that are lost -/

variable [Link κ]

/-- A request for an edit is lost: there is no link, the link refuses it, or what it delivers at once
is the answer that the edit was not written. -/
inductive Lost (h : Host κ) (request : Request) (id : String) : Prop where
  /-- There is no link. -/
  | unlinked (unlinked : h.link? = none)
  /-- The link refuses the request. -/
  | refused {link link' : κ} {reason : String} (linked : h.link? = some link)
      (sending : Link.send link request.toJson = (link', .error reason))
  /-- The edit was not written. -/
  | unwritten {link link' : κ} {v : Json} {r : StyleReport} (linked : h.link? = some link)
      (sending : Link.send link request.toJson = (link', .ok [v]))
      (read : Response.read v = .ok (some (.styles r))) (failed : r.success = false)
      (named : r.entryId? = some id)

/-- Whether a request is lost is a matter of the link. -/
theorem Lost.of_link {h h' : Host κ} {request : Request} {id : String} (link : h'.link? = h.link?)
    (lost : Lost h request id) : Lost h' request id := by
  cases lost with
  | unlinked unlinked => exact .unlinked (link.trans unlinked)
  | refused linked sending => exact .refused (link.trans linked) sending
  | unwritten linked sending read failed named =>
    exact .unwritten (link.trans linked) sending read failed named

/-- An edit whose request is lost is taken back right after it was presented. -/
theorem perform_lost {h : Host κ} {shown : HistoryEntry} {n : Nat} (id : shown.id = idText n)
    (step : EditStep) (history : History)
    (lost : Lost h (.styles (styleRequest shown (stepDirection? step))) shown.id) :
    ∃ h', SameEdits ((h.asked shown step history).present shown) h' ∧
      SameEdits (h'.rollBack shown.id) (h.perform shown step history).1 := by
  have link : ((h.asked shown step history).present shown).link? = h.link? := present_link _ shown
  rw [perform_fst]
  cases lost with
  | unlinked unlinked =>
    obtain ⟨same, outcome⟩ :=
      send_unlinked (.styles (styleRequest shown (stepDirection? step))) (link.trans unlinked)
    dsimp only
    rw [outcome]
    exact ⟨_, same, .refl _⟩
  | refused linked sending =>
    obtain ⟨same, outcome⟩ := send_refused (link.trans linked) sending
    dsimp only
    rw [outcome]
    exact ⟨_, same, .refl _⟩
  | @unwritten link₀ link' v r linked sending read failed named =>
    let given := ((h.asked shown step history).present shown).handed link'
      (.styles (styleRequest shown (stepDirection? step)))
    have taken : r.entryId?.bind filled? = some shown.id := by
      rw [named, Option.bind_some, id, filled_idText]
    obtain ⟨told, same, after⟩ := take_refused given failed taken
    dsimp only
    rw [send_answered (link.trans linked) sending read]
    exact ⟨told, (handed_edits _ link' _).trans same, after⟩

/-- **An edit that was not written.** In every state that a host reaches, setting values whose request
is lost leaves the committed styles of every element as they were, and of the history what was in
effect; so committed styles and history are both what they were exactly if no edit could be made
again. -/
theorem applyStyles_lost {h : Host κ} (reached : Reachable h) {element : Snapshot}
    (selected : h.selected? = some element) {values : List (String × String)} (asks : values ≠ [])
    (usesInline : Bool)
    (lost : Lost h (.styles (styleRequest (h.nextEntry element values usesInline) none))
      (h.nextEntry element values usesInline).id) :
    let h' := (h.applyStyles values usesInline).1
    (∀ s, h'.committed.styles s = h.committed.styles s) ∧
      h'.history = ⟨h.history.entries.take h.history.applied, h.history.applied⟩ ∧
      (((∀ s, h'.committed.styles s = h.committed.styles s) ∧ h'.history = h.history) ↔
        h.history.canRedo = false) := by
  intro h'
  let e := h.nextEntry element values usesInline
  have performed : h' = (h.counted.perform e .apply (h.history.push e)).1 :=
    congrArg Prod.fst (applyStyles_eq selected asks usesInline)
  obtain ⟨h₁, presented, after⟩ :=
    perform_lost (h := h.counted) rfl .apply (h.history.push e) (Lost.of_link (h := h) rfl lost)
  rw [← performed] at after
  obtain ⟨committed, history⟩ := rollBack_asked (h := h.counted) reached.numbered rfl presented
  have styles : ∀ s, h'.committed.styles s = h.committed.styles s := by
    intro s
    rw [after.committed]
    exact committed s
  have kept : h'.history = ⟨h.history.entries.take h.history.applied, h.history.applied⟩ :=
    after.history.trans history
  refine ⟨styles, kept, ?_⟩
  rw [kept]
  constructor
  · rintro ⟨-, same⟩
    have whole : h.history.entries.take h.history.applied = h.history.entries :=
      congrArg History.entries same
    exact decide_eq_false (Nat.not_lt.mpr ((List.take_eq_self_iff _).mp whole))
  · intro cannotRedo
    refine ⟨styles, ?_⟩
    rw [List.take_of_length_le (Nat.not_lt.mp (of_decide_eq_false cannotRedo))]

/-- The frame tells that a paragraph is selected. -/
def paragraphSelected : Json :=
  Wire.envelope Wire.defaultTag "element_selected"
    [("element", .obj [("selector", .str "p"), ("tagName", .str "p")])]

/-- The backend tells what became of the edit with a number. -/
def reply (n : Nat) (success : Bool) : StyleReport where
  success := success
  selector := "p"
  applied := []
  failed := []
  path? := none
  error? := if success then none else some "down"
  attempted := []
  entryId? := some (idText n)

/-- A host over a link that writes two edits and then refuses, with a paragraph selected. -/
def beforeEdits : Host ScriptedLink :=
  (({ link? := some ⟨[.ok [], .ok [], .error "down"]⟩ } : Host ScriptedLink).run
    (.receive paragraphSelected)).1

/-- The host after an edit that was taken back. -/
def afterUndo : Host ScriptedLink := ((beforeEdits.run (.applyStyles [("color", "red")] false)).1.run .undo).1

theorem afterUndo_reachable : Reachable afterUndo := .run _ (.run _ (.run _ (.start _ _ _)))

theorem afterUndo_selected : ∃ element, afterUndo.selected? = some element :=
  Option.isSome_iff_exists.mp (by decide)

/-- The link of this host refuses whatever comes next. -/
theorem afterUndo_refuses (request : Request) (id : String) : Lost afterUndo request id :=
  .refused (show afterUndo.link? = some ⟨[.error "down"]⟩ from rfl) rfl

/-- A refused edit leaves this host with the styles it had and with an empty history. -/
theorem applyStyles_lost_afterUndo :
    let h := (afterUndo.applyStyles [("fontSize", "20px")] false).1
    (∀ s, h.committed.styles s = afterUndo.committed.styles s) ∧ h.history = ⟨[], 0⟩ := by
  obtain ⟨element, selected⟩ := afterUndo_selected
  obtain ⟨styles, history, -⟩ := applyStyles_lost afterUndo_reachable selected
    (show [("fontSize", "20px")] ≠ [] by decide) false (afterUndo_refuses _ _)
  exact ⟨styles, history⟩

/-- An edit that could be made again is lost when the next edit is refused. -/
theorem refused_edit_drops_redo :
    ∃ h : Host ScriptedLink, Reachable h ∧ ∃ element, h.selected? = some element ∧
      Lost h (.styles (styleRequest (h.nextEntry element [("fontSize", "20px")] false) none))
        (h.nextEntry element [("fontSize", "20px")] false).id ∧
      h.history.canRedo = true ∧
      (h.applyStyles [("fontSize", "20px")] false).1.history ≠ h.history := by
  obtain ⟨element, selected⟩ := afterUndo_selected
  refine ⟨afterUndo, afterUndo_reachable, element, selected, afterUndo_refuses _ _, ?_, ?_⟩
  · decide
  · decide

end Retouch.Host
