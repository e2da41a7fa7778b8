import Retouch.Proofs.Host.Asking
import Retouch.Proofs.Host.Rollback
import Retouch.Proofs.Wire.Styles

/-!
# Edits that are answered later

A link may keep requests and deliver the answers later, one for each request, in order. Meanwhile the
user goes on editing, so an edit may be refused when others have been made after it. A `Ledger` keeps
the books of such a session: which edits wait for their answer, which ones were written, and which ones
stand, that is, make up the committed styles.

A refused edit is taken out of the history wherever it is; so once all answers have come, the history
holds the edits that were written, in order. But a refusal puts the committed styles back to what they
were when the refused edit was sent. Edits made since then do not stand any more, even if they are
written later; and edits that stood at that time stand again, even if they were refused meanwhile. So
the committed styles are those of the written edits exactly if the edits that stand make the same of
the styles from before (`deferred_committed_iff`), as they do if no edit was refused while a later one
waited.
-/

namespace Retouch

/-- The styles after some edits. -/
def Styles.after (s : Styles) (edits : List HistoryEntry) : Styles :=
  edits.foldl (fun s e => e.changes.foldl Styles.apply s) s

@[simp] theorem Styles.after_concat (s : Styles) (edits : List HistoryEntry) (e : HistoryEntry) :
    s.after (edits ++ [e]) = e.changes.foldl Styles.apply (s.after edits) := by
  simp [after]

namespace Host

/-! ### The books -/

/-- An edit that waits for its answer. -/
structure Waiting where
  /-- The edit. -/
  edit : HistoryEntry
  /-- The edits that stood when it was sent. -/
  before : List HistoryEntry

/-- The books of a session in which edits are answered later. -/
structure Ledger where
  /-- The edits that wait for their answers, the oldest first. -/
  waiting : List Waiting := []
  /-- The edits that were written, in order. -/
  written : List HistoryEntry := []
  /-- The edits that stand, in order. -/
  standing : List HistoryEntry := []
  /-- Some edit was refused while a later one waited. -/
  overtaken : Bool := false

namespace Ledger

variable {l : Ledger}

/-- The edits of the session that were not refused: those that were written, and those that wait. -/
def edits (l : Ledger) : List HistoryEntry := l.written ++ l.waiting.map (·.edit)

/-- An edit was sent. -/
def send (l : Ledger) (e : HistoryEntry) : Ledger :=
  { l with waiting := l.waiting ++ [⟨e, l.standing⟩], standing := l.standing ++ [e] }

/-- The oldest edit that waits was answered. -/
def answer (l : Ledger) (success : Bool) : Ledger :=
  match l.waiting with
  | [] => l
  | w :: rest =>
    if success then { l with waiting := rest, written := l.written ++ [w.edit] }
    else { l with
      waiting := rest, standing := w.before, overtaken := l.overtaken || !rest.isEmpty }

@[simp] theorem edits_send (e : HistoryEntry) : (l.send e).edits = l.edits ++ [e] := by
  simp [send, edits]

/-- The oldest edit that waits was written. -/
theorem answer_written {w : Waiting} {rest : List Waiting} (waits : l.waiting = w :: rest) :
    l.answer true = { l with waiting := rest, written := l.written ++ [w.edit] } := by
  unfold answer
  rw [waits]
  rfl

/-- The oldest edit that waits was refused. -/
theorem answer_refused {w : Waiting} {rest : List Waiting} (waits : l.waiting = w :: rest) :
    l.answer false = { l with
      waiting := rest, standing := w.before, overtaken := l.overtaken || !rest.isEmpty } := by
  unfold answer
  rw [waits]
  rfl

/-- The books of a session in which no edit was overtaken: what stands was written or waits, and what
waits was sent on top of that. -/
structure Tidy (l : Ledger) : Prop where
  /-- What stands was not refused. -/
  standing : l.standing = l.edits
  /-- Each edit that waits was sent on top of the written ones and of those that wait before it. -/
  before : ∀ older w newer, l.waiting = older ++ w :: newer →
    w.before = l.written ++ older.map (·.edit)

theorem Tidy.send (tidy : l.Tidy) (e : HistoryEntry) : (l.send e).Tidy := by
  refine ⟨?_, fun older w newer split => ?_⟩
  · rw [edits_send, ← tidy.standing]
    rfl
  · change l.waiting ++ [⟨e, l.standing⟩] = older ++ w :: newer at split
    obtain ⟨rfl, rfl⟩ | ⟨newer', split⟩ := split_concat split
    · exact tidy.standing
    · exact tidy.before older w newer' split

theorem Tidy.answer (tidy : l.Tidy) (success : Bool) (calm : (l.answer success).overtaken = false) :
    (l.answer success).Tidy := by
  cases waits : l.waiting with
  | nil =>
    unfold Ledger.answer
    rw [waits]
    exact tidy
  | cons w rest =>
    cases success with
    | true =>
      rw [answer_written waits]
      refine ⟨?_, fun older w' newer split => ?_⟩
      · show l.standing = (l.written ++ [w.edit]) ++ rest.map (·.edit)
        rw [tidy.standing, edits, waits]
        simp
      · rw [tidy.before (w :: older) w' newer (by rw [waits]; exact congrArg (w :: ·) split)]
        simp
    | false =>
      rw [answer_refused waits] at calm ⊢
      -- the refused edit was the only one that waited, so what it found are the written ones
      have alone : rest = [] := by simpa using (Bool.or_eq_false_iff.mp calm).2
      subst alone
      refine ⟨?_, fun older w' newer split => ?_⟩
      · exact tidy.before [] w [] waits
      · exact absurd split (by simp)

/-- Once an edit was overtaken, one was. -/
theorem calm_of_answer {success : Bool} (calm : (l.answer success).overtaken = false) :
    l.overtaken = false := by
  unfold Ledger.answer at calm
  split at calm
  · exact calm
  · split at calm
    · exact calm
    · exact (Bool.or_eq_false_iff.mp calm).1

end Ledger

variable {κ : Type}

/-! ### Sessions -/

/-- What comes of a host while edits of the selected element are sent over a link that delivers nothing
at once, and each is answered later, in order; and the books of it. -/
inductive Deferred [Link κ] (h₀ : Host κ) : Host κ → Ledger → Prop where
  /-- Nothing was done. -/
  | start : Deferred h₀ h₀ {}
  /-- Values were set. -/
  | call {h : Host κ} {l : Ledger} {values : List (String × String)} {usesInline : Bool} {a : Ask}
      {link link' : κ} (before : Deferred h₀ h l)
      (asks : h.ask? (.applyStyles values usesInline) = some a) (linked : h.link? = some link)
      (sending : Link.send link a.request.toJson = (link', .ok [])) :
      Deferred h₀ (h.run (.applyStyles values usesInline)).1 (l.send a.shown)
  /-- There was nothing to be set. -/
  | idle {h : Host κ} {l : Ledger} {values : List (String × String)} {usesInline : Bool}
      (before : Deferred h₀ h l) (asks : h.ask? (.applyStyles values usesInline) = none) :
      Deferred h₀ (h.run (.applyStyles values usesInline)).1 l
  /-- The answer to the oldest edit that waits has come. -/
  | answer {h : Host κ} {l : Ledger} {w : Waiting} {rest : List Waiting} {v : Json} {r : StyleReport}
      (before : Deferred h₀ h l) (waits : l.waiting = w :: rest)
      (read : Response.read v = .ok (some (.styles r))) (named : r.entryId? = some w.edit.id) :
      Deferred h₀ (h.run (.hear v)).1 (l.answer r.success)

/-- The books of a session are in order: they tell the history, the committed styles of the element,
and what is kept for the edits that wait. -/
structure InOrder (h₀ : Host κ) (s : String) (h : Host κ) (l : Ledger) : Prop where
  /-- The element is selected. -/
  selected : ∃ e, h.selected? = some e ∧ e.selector = s
  /-- The history holds the edits that were not refused, all in effect. -/
  history : h.history = ⟨h₀.history.entries ++ l.edits, (h₀.history.entries ++ l.edits).length⟩
  /-- The committed styles are those of the edits that stand. -/
  committed : h.committed.styles s = (h₀.committed.styles s).after l.standing
  /-- For each edit that waits, the styles are kept that it found. -/
  waits : ∀ w ∈ l.waiting, w.edit.selector = s ∧ Table.get? h.awaiting w.edit.id =
    some ⟨.apply, (h₀.committed.styles s).after w.before⟩
  /-- The books are tidy unless an edit was overtaken. -/
  tidy : l.overtaken = false → l.Tidy

section Sessions

variable [Link κ] {h₀ h : Host κ} {l : Ledger} {s : String}

theorem Deferred.reachable (reached : Reachable h₀) (deferred : Deferred h₀ h l) : Reachable h := by
  induction deferred with
  | start => exact reached
  | call _ _ _ _ ih => exact .run _ ih
  | idle _ _ ih => exact .run _ ih
  | answer _ _ _ _ ih => exact .run _ ih

/-- A command whose request is taken and not answered yet has presented its edit. -/
theorem run_unanswered {c : Command} {a : Ask} {link link' : κ} (asks : h.ask? c = some a)
    (linked : h.link? = some link) (sending : Link.send link a.request.toJson = (link', .ok [])) :
    SameEdits (((h.readied a.step).asked a.shown a.step a.history).present a.shown) (h.run c).1 := by
  have link := (present_link ((h.readied a.step).asked a.shown a.step a.history) a.shown).trans
    ((readied_link h a.step).trans linked)
  obtain ⟨host, outcome⟩ := send_delivered link sending
  rw [run_ask asks, perform_fst]
  unfold Ask.request at host outcome
  dsimp only
  rw [host, outcome]
  exact handed_edits _ link' _

/-- An edit that is sent is entered into the books. -/
theorem InOrder.call (inOrder : InOrder h₀ s h l) (numbered : h.IsNumbered)
    {values : List (String × String)} {usesInline : Bool} {a : Ask} {link link' : κ}
    (asks : h.ask? (.applyStyles values usesInline) = some a) (linked : h.link? = some link)
    (sending : Link.send link a.request.toJson = (link', .ok [])) :
    InOrder h₀ s (h.run (.applyStyles values usesInline)).1 (l.send a.shown) := by
  have same := run_unanswered asks linked sending
  obtain ⟨element, selected, -, rfl⟩ := ask?_applyStyles asks
  obtain ⟨e₀, selected', here⟩ := inOrder.selected
  obtain rfl : element = e₀ := Option.some.inj (selected.symm.trans selected')
  let e := h.nextEntry element values usesInline
  have mine : e.selector = s := here
  obtain ⟨-, history, awaiting, -⟩ := present_committed (h.counted.asked e .apply (h.history.push e)) e
  constructor
  · rw [same.selected, present_selected]
    exact ⟨_, congrArg (Option.map _) selected, by dsimp only; split <;> exact here⟩
  · rw [same.history]
    refine history.trans ?_
    show h.history.push e = _
    rw [inOrder.history, Ledger.edits_send, ← List.append_assoc, History.push, List.take_length,
      List.length_append]
  · rw [same.committed]
    refine (present_styles _ e s).trans ?_
    rw [if_pos mine.symm]
    exact (congrArg (e.changes.foldl Styles.apply) inOrder.committed).trans
      (Styles.after_concat _ _ e).symm
  · intro w hw
    have kept : (h.run (.applyStyles values usesInline)).1.awaiting =
        Table.set h.awaiting e.id ⟨.apply, h.committed.styles e.selector⟩ :=
      same.awaiting.trans awaiting
    rw [kept, Table.get?_set]
    obtain old | new := List.mem_append.mp hw
    · have listed : w.edit ∈ h.history.entries := by
        rw [inOrder.history]
        exact List.mem_append_right _ (List.mem_append_right _ (List.mem_map_of_mem old))
      have other : ¬ (w.edit.id == e.id) = true := fun equal =>
        numbered.fresh listed (eq_of_beq equal)
      rw [if_neg other]
      exact inOrder.waits w old
    · obtain rfl := List.mem_singleton.mp new
      refine ⟨mine, ?_⟩
      rw [if_pos (beq_self_eq_true _), mine, inOrder.committed]
  · exact fun calm => (inOrder.tidy calm).send e

section Answer

variable {w : Waiting} {rest : List Waiting} {r : StyleReport}

omit [Link κ] in
/-- In the history, the edit that is answered stands between those that were written and those that
still wait. -/
theorem InOrder.entries (inOrder : InOrder h₀ s h l) (waits : l.waiting = w :: rest) :
    h.history.entries = (h₀.history.entries ++ l.written) ++ w.edit :: rest.map (·.edit) := by
  rw [inOrder.history, Ledger.edits, waits]
  simp

omit [Link κ] in
/-- For the edits that still wait, the styles are kept when the oldest one is settled. -/
theorem InOrder.later (inOrder : InOrder h₀ s h l) (numbered : h.IsNumbered)
    (waits : l.waiting = w :: rest) : ∀ w' ∈ rest, w'.edit.selector = s ∧
      Table.get? (Table.erase h.awaiting w.edit.id) w'.edit.id =
        some ⟨.apply, (h₀.committed.styles s).after w'.before⟩ := by
  intro w' still
  have distinct := numbered.distinct
  rw [inOrder.entries waits] at distinct
  have apart : (w'.edit.id == w.edit.id) = false :=
    apart_of_distinct distinct w'.edit (List.mem_append_right _ (List.mem_map_of_mem still))
  rw [Table.get?_erase, apart, if_neg Bool.false_ne_true]
  exact inOrder.waits w' (waits ▸ List.mem_cons_of_mem w still)

omit [Link κ] in
/-- The oldest edit that waits was written: it is only not waited for any more. -/
theorem InOrder.written (inOrder : InOrder h₀ s h l) (numbered : h.IsNumbered)
    (waits : l.waiting = w :: rest) (named : r.entryId? = some w.edit.id)
    (success : r.success = true) : InOrder h₀ s (h.take (.styles r)) (l.answer true) := by
  have same := take_written h success
  rw [named, Option.getD_some] at same
  have books := Ledger.answer_written waits
  refine ⟨?_, ?_, ?_, ?_, fun calm => (inOrder.tidy (Ledger.calm_of_answer calm)).answer true calm⟩
  · rw [same.selected]
    exact inOrder.selected
  · have moved : (l.answer true).edits = l.edits := by
      rw [books, Ledger.edits, Ledger.edits, waits]
      simp
    rw [same.history, moved]
    exact inOrder.history
  · rw [same.committed, books]
    exact inOrder.committed
  · rw [same.awaiting, books]
    exact inOrder.later numbered waits

omit [Link κ] in
/-- The oldest edit that waits was refused: it leaves the history, and the styles that it found are
committed again. -/
theorem InOrder.refused (inOrder : InOrder h₀ s h l) (numbered : h.IsNumbered)
    (waits : l.waiting = w :: rest) (named : r.entryId? = some w.edit.id)
    (failed : r.success = false) : InOrder h₀ s (h.take (.styles r)) (l.answer false) := by
  have entries := inOrder.entries waits
  have listed : w.edit ∈ h.history.entries := by
    rw [entries]
    simp
  obtain ⟨n, -, id⟩ := numbered.ids w.edit listed
  have taken : r.entryId?.bind filled? = some w.edit.id := by
    rw [named, Option.bind_some, id, filled_idText]
  obtain ⟨h₁, before, after⟩ := take_refused h failed taken
  obtain ⟨mine, keeps⟩ := inOrder.waits w (waits ▸ List.mem_cons_self)
  rw [rollBack_found (before.awaiting ▸ keeps) (before.history ▸ numbered.find?_of_mem listed)] at after
  have books := Ledger.answer_refused waits
  refine ⟨?_, ?_, ?_, ?_, fun calm => (inOrder.tidy (Ledger.calm_of_answer calm)).answer false calm⟩
  · rw [after.selected]
    exact before.selected ▸ inOrder.selected
  · refine after.history.trans ?_
    show h₁.history.discard w.edit.id = _
    have whole : h₁.history = ⟨h.history.entries, h.history.entries.length⟩ := by
      rw [before.history, inOrder.history]
    have distinct := numbered.distinct
    rw [entries] at distinct whole
    rw [whole, discard_split distinct, if_pos (by simp), books, Ledger.edits]
    simp
    omega
  · rw [after.committed, books]
    show (h₁.committed.put w.edit.selector _).styles s = _
    rw [Layer.styles_put, mine, beq_self_eq_true, if_pos rfl]
  · rw [after.awaiting, books]
    show ∀ w' ∈ rest, _ ∧ Table.get? (Table.erase h₁.awaiting w.edit.id) w'.edit.id = _
    rw [before.awaiting]
    exact inOrder.later numbered waits

/-- The answer to the oldest edit that waits is entered into the books. -/
theorem InOrder.answer (inOrder : InOrder h₀ s h l) (numbered : h.IsNumbered)
    (waits : l.waiting = w :: rest) {v : Json} (read : Response.read v = .ok (some (.styles r)))
    (named : r.entryId? = some w.edit.id) :
    InOrder h₀ s (h.run (.hear v)).1 (l.answer r.success) := by
  have heard : (h.run (.hear v)).1 = h.take (.styles r) := by
    show (h.hear v).1 = _
    unfold hear
    rw [read]
  rw [heard]
  cases success : r.success with
  | true => exact inOrder.written numbered waits named success
  | false => exact inOrder.refused numbered waits named success

end Answer

/-- The books of every session are in order. -/
theorem Deferred.inOrder (reached : Reachable h₀) {element : Snapshot}
    (selected : h₀.selected? = some element) (latest : h₀.history.canRedo = false)
    (deferred : Deferred h₀ h l) : InOrder h₀ element.selector h l := by
  induction deferred with
  | start =>
    have whole : h₀.history.applied = h₀.history.entries.length :=
      Nat.le_antisymm reached.numbered.applied_le (Nat.not_lt.mp (of_decide_eq_false latest))
    refine ⟨⟨element, selected, rfl⟩, ?_, rfl, by simp, fun _ => ⟨rfl, by simp⟩⟩
    simp [Ledger.edits, ← whole]
  | call before asks linked sending ih =>
    exact ih.call (before.reachable reached).numbered asks linked sending
  | idle _ asks ih =>
    rw [run_unasked rfl asks]
    exact ih
  | answer before waits read named ih =>
    exact ih.answer (before.reachable reached).numbered waits read named

/-- **Edits that are answered later.** A host over a link that delivers nothing at once sets values on
the selected element, any number of times, and each edit is answered later, in order, whatever comes in
between. When all answers have come, the history holds the edits that were written, in order, and all
are in effect. The committed styles of the element are those of the edits that stand. So they are those
of the edits that were written exactly if these leave each property as the edits do that stand; and the
same edits stand and were written, if none was refused while a later one waited. -/
theorem deferred_committed_iff (reached : Reachable h₀) {element : Snapshot}
    (selected : h₀.selected? = some element) (latest : h₀.history.canRedo = false)
    (deferred : Deferred h₀ h l) (answered : l.waiting = []) :
    let found := h₀.committed.styles element.selector
    let left := h.committed.styles element.selector
    h.history.entries = h₀.history.entries ++ l.written ∧
      h.history.applied = h.history.entries.length ∧ left = found.after l.standing ∧
      ((∀ p, Table.get? left p = Table.get? (found.after l.written) p) ↔
        ∀ p, Table.get? (found.after l.standing) p = Table.get? (found.after l.written) p) ∧
      (l.overtaken = false → l.standing = l.written) := by
  intro found left
  have inOrder := deferred.inOrder reached selected latest
  have edits : l.edits = l.written := by simp [Ledger.edits, answered]
  have history := inOrder.history
  rw [edits] at history
  have committed : left = found.after l.standing := inOrder.committed
  refine ⟨congrArg History.entries history, ?_, committed, ?_, fun calm => ?_⟩
  · rw [history]
  · rw [committed]
  · exact (inOrder.tidy calm).standing.trans edits

end Sessions

/-- An edit of a paragraph that had no styles. -/
def firstEdit (n : Nat) (property value : String) : HistoryEntry :=
  { id := idText n, selector := "p", changes := [⟨property, "", value, false⟩] }

/-- A host over a link that delivers nothing, with a paragraph selected. -/
def queueing : Host ScriptedLink :=
  (({ link? := some ⟨[]⟩ } : Host ScriptedLink).run (.receive paragraphSelected)).1

/-- A color is set on the paragraph. -/
def oneEdit : Host ScriptedLink := (queueing.run (.applyStyles [("color", "red")] false)).1

/-- A color and a size are set on the paragraph. -/
def twoEdits : Host ScriptedLink := (oneEdit.run (.applyStyles [("fontSize", "20px")] false)).1

/-- The books after a color and a size were set. -/
def twoSent : Ledger := (({} : Ledger).send (firstEdit 1 "color" "red")).send (firstEdit 2 "fontSize" "20px")

theorem twoEdits_deferred : Deferred queueing twoEdits twoSent := by
  have none : Deferred queueing queueing {} := .start
  have one := none.call
    (show queueing.ask? (.applyStyles [("color", "red")] false) = some _ from rfl) rfl rfl
  have two := one.call
    (show oneEdit.ask? (.applyStyles [("fontSize", "20px")] false) = some _ from rfl) rfl rfl
  exact two

/-- The host after both edits were answered. -/
def twoAnswered (first second : Bool) : Host ScriptedLink :=
  ((twoEdits.run (.hear (Response.styles (reply 1 first)).toJson)).1.run
    (.hear (Response.styles (reply 2 second)).toJson)).1

theorem twoAnswered_deferred (first second : Bool) :
    Deferred queueing (twoAnswered first second) ((twoSent.answer first).answer second) := by
  have waits : (twoSent.answer first).waiting =
      [⟨firstEdit 2 "fontSize" "20px", [firstEdit 1 "color" "red"]⟩] := by cases first <;> rfl
  exact .answer (.answer twoEdits_deferred rfl (Response.read_report (reply 1 first)) rfl) waits
    (Response.read_report (reply 2 second)) rfl

theorem queueing_reachable : Reachable queueing := .run _ (.start _ _ _)

/-- The first edit is written, the second one is refused: the history and the styles are those of the
first one. -/
theorem deferred_second_refused :
    (twoAnswered true false).history.entries = [firstEdit 1 "color" "red"] ∧
      ∀ p, Table.get? ((twoAnswered true false).committed.styles "p") p =
        Table.get? [("color", "red")] p := by
  obtain ⟨entries, -, -, styles, -⟩ := deferred_committed_iff queueing_reachable
    (show queueing.selected? = some queueing.selected?.get! from rfl) rfl
    (twoAnswered_deferred true false) rfl
  exact ⟨entries, styles.mpr fun _ => rfl⟩

/-- The first edit is refused while the second one waits: then the second one is written, but its style
is gone. -/
theorem refusal_takes_later_edit :
    ∃ (h : Host ScriptedLink) (l : Ledger), Reachable queueing ∧ Deferred queueing h l ∧
      l.waiting = [] ∧ h.history.entries = l.written ∧ h.committed.styles "p" = [] ∧
      (queueing.committed.styles "p").after l.written = [("fontSize", "20px")] :=
  ⟨twoAnswered false true, _, queueing_reachable, twoAnswered_deferred false true, rfl, by decide,
    by decide, by decide⟩

end Host

end Retouch
