import Retouch.Host.Edit

/-!
# What answers do to edits

An answer from the backend settles an edit, takes an edit back, or leaves the edits alone. `take_edits`
says so once; what every such step preserves (`Kept`) is then preserved by whatever a link delivers,
and by a request with its answers.
-/

namespace Retouch.Host

variable {κ : Type}

/-- Two hosts agree on their edits: what they wrote, show, wait for and remember, and what the frame
was told. They may differ in the link, in the state of it that they make known, and in uploads. -/
structure SameEdits (h h' : Host κ) : Prop where
  /-- The same history. -/
  history : h'.history = h.history
  /-- The same styles written. -/
  committed : h'.committed = h.committed
  /-- The same styles shown. -/
  preview : h'.preview = h.preview
  /-- The same edits not answered yet. -/
  awaiting : h'.awaiting = h.awaiting
  /-- The same ids given out. -/
  idsGiven : h'.idsGiven = h.idsGiven
  /-- The same element selected. -/
  selected : h'.selected? = h.selected?
  /-- The same messages to the frame. -/
  told : h'.told = h.told
  /-- The same tag. -/
  tag : h'.tag = h.tag

namespace SameEdits

theorem refl (h : Host κ) : SameEdits h h := ⟨rfl, rfl, rfl, rfl, rfl, rfl, rfl, rfl⟩

theorem trans {a b c : Host κ} (hab : SameEdits a b) (hbc : SameEdits b c) : SameEdits a c where
  history := hbc.history.trans hab.history
  committed := hbc.committed.trans hab.committed
  preview := hbc.preview.trans hab.preview
  awaiting := hbc.awaiting.trans hab.awaiting
  idsGiven := hbc.idsGiven.trans hab.idsGiven
  selected := hbc.selected.trans hab.selected
  told := hbc.told.trans hab.told
  tag := hbc.tag.trans hab.tag

theorem announce (h : Host κ) (e : HostEvent) : SameEdits h (h.announce e) :=
  ⟨rfl, rfl, rfl, rfl, rfl, rfl, rfl, rfl⟩

theorem fail (h : Host κ) (reason : String) : SameEdits h (h.fail reason) :=
  ⟨rfl, rfl, rfl, rfl, rfl, rfl, rfl, rfl⟩

end SameEdits

/-- An edit that is not waited for any more. -/
def settle (h : Host κ) (id : String) : Host κ := { h with awaiting := Table.erase h.awaiting id }

/-! ### One answer -/

/-- An answer to style changes settles the edit that it names, or takes it back. -/
theorem takeStyles_edits (h : Host κ) (r : StyleReport) :
    SameEdits (h.settle (r.entryId?.getD "")) (h.takeStyles r) ∨
      ∃ h₀, SameEdits h h₀ ∧ (h.takeStyles r = h₀ ∨ ∃ id, h.takeStyles r = h₀.rollBack id) := by
  unfold takeStyles
  split
  · exact Or.inl ⟨rfl, rfl, rfl, rfl, rfl, rfl, rfl, rfl⟩
  · refine Or.inr ⟨{ h with syncError? := some (reasonOr r.error? "Style update failed") },
      ⟨rfl, rfl, rfl, rfl, rfl, rfl, rfl, rfl⟩, ?_⟩
    cases r.entryId?.bind filled? with
    | none => exact Or.inl rfl
    | some id => exact Or.inr ⟨id, rfl⟩

/-- The answer that an edit was written settles it. -/
theorem take_written (h : Host κ) {r : StyleReport} (success : r.success = true) :
    SameEdits (h.settle (r.entryId?.getD "")) (h.take (.styles r)) := by
  unfold take takeStyles
  dsimp only
  rw [if_pos success]
  exact ⟨rfl, rfl, rfl, rfl, rfl, rfl, rfl, rfl⟩

/-- The answer that an edit was not written takes back the edit that it names. -/
theorem take_refused (h : Host κ) {r : StyleReport} {id : String} (failed : r.success = false)
    (named : r.entryId?.bind filled? = some id) :
    ∃ h₀, SameEdits h h₀ ∧ SameEdits (h₀.rollBack id) (h.take (.styles r)) := by
  let told : Host κ := { h with
    inFlight := h.inFlight - 1
    syncError? := some (reasonOr r.error? "Style update failed") }
  refine ⟨told, ⟨rfl, rfl, rfl, rfl, rfl, rfl, rfl, rfl⟩, ?_⟩
  unfold take takeStyles
  dsimp only
  rw [failed, named]
  exact .announce _ _

theorem takeText_edits (h : Host κ) (r : TextReport) : SameEdits h (h.takeText r) := by
  unfold takeText
  split <;> exact ⟨rfl, rfl, rfl, rfl, rfl, rfl, rfl, rfl⟩

theorem takeImage_edits (h : Host κ) (r : ImageReport) : SameEdits h (h.takeImage r) := by
  unfold takeImage
  split
  · split <;> exact ⟨rfl, rfl, rfl, rfl, rfl, rfl, rfl, rfl⟩
  · exact ⟨rfl, rfl, rfl, rfl, rfl, rfl, rfl, rfl⟩

theorem takeCode_edits (h : Host κ) (r : CodePlace) : SameEdits h (h.takeCode r) := by
  unfold takeCode
  split
  · split
    · split
      · exact .announce h _
      · exact .refl h
    · exact .refl h
  · exact ⟨rfl, rfl, rfl, rfl, rfl, rfl, rfl, rfl⟩

/-- What an answer may do to the edits of a host. -/
inductive Answered (h : Host κ) : Host κ → Prop where
  /-- Nothing. -/
  | same {h' : Host κ} (same : SameEdits h h') : Answered h h'
  /-- An edit was written. -/
  | settled (id : String) {h' : Host κ} (same : SameEdits (h.settle id) h') : Answered h h'
  /-- An edit was not written. -/
  | rolledBack {h₀ : Host κ} (before : SameEdits h h₀) (id : String) {h' : Host κ}
      (after : SameEdits (h₀.rollBack id) h') : Answered h h'

/-- An answer to anything but style changes leaves the edits alone. -/
theorem take_other (h : Host κ) {r : Response} (other : ∀ report, r ≠ .styles report) :
    SameEdits h (h.take r) := by
  -- the number of requests under way is no matter of edits
  let h₀ : Host κ := { h with inFlight := h.inFlight - 1 }
  have counted : SameEdits h h₀ := ⟨rfl, rfl, rfl, rfl, rfl, rfl, rfl, rfl⟩
  cases r with
  | styles r => exact absurd rfl (other r)
  | text r => exact (counted.trans (h₀.takeText_edits r)).trans (.announce _ _)
  | progress upload received total => exact ⟨rfl, rfl, rfl, rfl, rfl, rfl, rfl, rfl⟩
  | image r => exact (counted.trans (h₀.takeImage_edits r)).trans (.announce _ _)
  | refreshed success error? => cases success <;> exact ⟨rfl, rfl, rfl, rfl, rfl, rfl, rfl, rfl⟩
  | code r => exact (counted.trans (h₀.takeCode_edits r)).trans (.announce _ _)
  | error message details => exact ⟨rfl, rfl, rfl, rfl, rfl, rfl, rfl, rfl⟩

/-- An answer leaves the edits alone, settles one, or takes one back. -/
theorem take_edits (h : Host κ) (r : Response) : Answered h (h.take r) := by
  cases r with
  | styles r =>
    let h₀ : Host κ := { h with inFlight := h.inFlight - 1 }
    have counted : SameEdits h h₀ := ⟨rfl, rfl, rfl, rfl, rfl, rfl, rfl, rfl⟩
    have known : SameEdits (h₀.takeStyles r) (h.take (.styles r)) := .announce _ _
    obtain settled | ⟨h₁, same, eq | ⟨id, eq⟩⟩ := h₀.takeStyles_edits r
    · have uncounted : SameEdits (h.settle (r.entryId?.getD "")) (h₀.settle (r.entryId?.getD "")) :=
        ⟨rfl, rfl, rfl, rfl, rfl, rfl, rfl, rfl⟩
      exact .settled (r.entryId?.getD "") (uncounted.trans (settled.trans known))
    · exact .same ((counted.trans (eq ▸ same)).trans known)
    · exact .rolledBack (counted.trans same) id (eq ▸ known)
  | _ => exact .same (take_other h nofun)

theorem hear_edits (h : Host κ) (v : Json) : Answered h (h.hear v).1 := by
  unfold hear
  split
  · exact .same (.refl h)
  · exact take_edits h _
  · exact .same (.refl h)
  · exact .same (.fail h _)
  · exact .same (.refl h)

/-! ### What answers preserve -/

/-- A property of hosts that answers keep: it speaks of edits only, and it survives that an edit is
settled or taken back. -/
structure Kept (P : Host κ → Prop) : Prop where
  /-- It speaks of edits only. -/
  same : ∀ {h h'}, SameEdits h h' → P h → P h'
  /-- It survives that an edit was written. -/
  settle : ∀ {h} (id : String), P h → P (h.settle id)
  /-- It survives that an edit was not written. -/
  rollBack : ∀ {h} (id : String), P h → P (h.rollBack id)

namespace Kept

variable {P : Host κ → Prop} (kept : Kept P)

include kept

theorem answered {h h' : Host κ} (answered : Answered h h') (hP : P h) : P h' := by
  cases answered with
  | same s => exact kept.same s hP
  | settled id s => exact kept.same s (kept.settle id hP)
  | rolledBack before id after => exact kept.same after (kept.rollBack id (kept.same before hP))

theorem hear {h : Host κ} (v : Json) (hP : P h) : P (h.hear v).1 := kept.answered (h.hear_edits v) hP

theorem hearAll {h : Host κ} (vs : List Json) (hP : P h) : P (h.hearAll vs).1 := by
  induction vs generalizing h with
  | nil => exact hP
  | cons v rest ih =>
    have hv : P (h.hear v).1 := kept.hear v hP
    unfold Host.hearAll
    split
    · rename_i h' eq
      rw [eq] at hv
      exact ih hv
    · exact hv

end Kept

/-! ### The link -/

theorem rollBack_link (h : Host κ) (id : String) : (h.rollBack id).link? = h.link? := by
  unfold rollBack
  split
  · rfl
  · dsimp only
    split <;> rfl

theorem takeStyles_link (h : Host κ) (r : StyleReport) : (h.takeStyles r).link? = h.link? := by
  unfold takeStyles
  split
  · rfl
  · dsimp only
    split
    · exact rollBack_link _ _
    · rfl

theorem takeText_link (h : Host κ) (r : TextReport) : (h.takeText r).link? = h.link? := by
  unfold takeText
  split <;> rfl

theorem takeImage_link (h : Host κ) (r : ImageReport) : (h.takeImage r).link? = h.link? := by
  unfold takeImage
  split
  · split <;> rfl
  · rfl

theorem takeCode_link (h : Host κ) (r : CodePlace) : (h.takeCode r).link? = h.link? := by
  unfold takeCode
  split
  · split
    · split <;> rfl
    · rfl
  · rfl

/-- No answer changes the link. -/
theorem take_link (h : Host κ) (r : Response) : (h.take r).link? = h.link? := by
  cases r with
  | styles r => exact takeStyles_link _ r
  | text r => exact takeText_link _ r
  | progress upload received total => rfl
  | image r => exact takeImage_link _ r
  | refreshed success error? => cases success <;> rfl
  | code r => exact takeCode_link _ r
  | error message details => rfl

theorem hear_link (h : Host κ) (v : Json) : (h.hear v).1.link? = h.link? := by
  unfold hear
  split
  · rfl
  · exact take_link h _
  · rfl
  · rfl
  · rfl

theorem hearAll_link (h : Host κ) (vs : List Json) : (h.hearAll vs).1.link? = h.link? := by
  induction vs generalizing h with
  | nil => rfl
  | cons v rest ih =>
    have first := hear_link h v
    unfold hearAll
    split
    · rename_i h' eq
      rw [eq] at first
      exact (ih h').trans first
    · exact first

/-! ### A request with its answers -/

variable [Link κ]

/-- The host when the link has been given a request, its answers not yet heard. -/
def handed (h : Host κ) (link : κ) (r : Request) : Host κ :=
  { ({ h with inFlight := h.inFlight + 1 } : Host κ).announceSync with
    link? := some link, requests := h.requests ++ [r.toJson] }

omit [Link κ] in
theorem handed_edits (h : Host κ) (link : κ) (r : Request) : SameEdits h (h.handed link r) :=
  ⟨rfl, rfl, rfl, rfl, rfl, rfl, rfl, rfl⟩

/-- Without a link, nothing is sent. -/
theorem send_unlinked {h : Host κ} (r : Request) (unlinked : h.link? = none) :
    SameEdits h (h.send r).1 ∧ (h.send r).2 = .refused := by
  unfold send
  rw [unlinked]
  exact ⟨.fail h _, rfl⟩

/-- A link that refuses a request leaves the edits alone. -/
theorem send_refused {h : Host κ} {r : Request} {link link' : κ} {reason : String}
    (linked : h.link? = some link) (refused : Link.send link r.toJson = (link', .error reason)) :
    SameEdits h (h.send r).1 ∧ (h.send r).2 = .refused := by
  unfold send
  rw [linked]
  dsimp only
  rw [refused]
  exact ⟨⟨rfl, rfl, rfl, rfl, rfl, rfl, rfl, rfl⟩, rfl⟩

/-- What a link delivers is heard. -/
theorem send_delivered {h : Host κ} {r : Request} {link link' : κ} {messages : List Json}
    (linked : h.link? = some link) (delivered : Link.send link r.toJson = (link', .ok messages)) :
    (h.send r).1 = ((h.handed link' r).hearAll messages).1 ∧
      (h.send r).2 = match ((h.handed link' r).hearAll messages).2 with
        | none => .sent
        | some f => .failed f := by
  unfold send
  rw [linked]
  dsimp only
  rw [delivered]
  dsimp only
  split
  · rename_i h' heard
    rw [show (h.handed link' r).hearAll messages = (h', none) from heard]
    exact ⟨rfl, rfl⟩
  · rename_i h' f heard
    rw [show (h.handed link' r).hearAll messages = (h', some f) from heard]
    exact ⟨rfl, rfl⟩

/-- A single answer that can be read is taken in. -/
theorem send_answered {h : Host κ} {r : Request} {link link' : κ} {v : Json} {response : Response}
    (linked : h.link? = some link) (delivered : Link.send link r.toJson = (link', .ok [v]))
    (read : Response.read v = .ok (some response)) :
    h.send r = ((h.handed link' r).take response, .sent) := by
  have heard : (h.handed link' r).hearAll [v] = ((h.handed link' r).take response, none) := by
    unfold hearAll hear
    rw [read]
    rfl
  obtain ⟨host, outcome⟩ := send_delivered linked delivered
  rw [heard] at host outcome
  exact Prod.ext host outcome

/-- After a request, the link is what sending has made of it. -/
theorem send_link {h : Host κ} {r : Request} {link link' : κ} {answer : Except String (List Json)}
    (linked : h.link? = some link) (sending : Link.send link r.toJson = (link', answer)) :
    (h.send r).1.link? = some link' := by
  cases answer with
  | error reason =>
    unfold send
    rw [linked]
    dsimp only
    rw [sending]
    rfl
  | ok messages =>
    rw [(send_delivered linked sending).1]
    exact hearAll_link _ messages

/-- A request keeps what answers keep, whatever the link makes of it. -/
theorem Kept.send {P : Host κ → Prop} (kept : Kept P) {h : Host κ} (r : Request) (hP : P h) :
    P (h.send r).1 := by
  cases linked : h.link? with
  | none => exact kept.same (send_unlinked r linked).1 hP
  | some link =>
    rcases sending : Link.send link r.toJson with ⟨link', reason | messages⟩
    · exact kept.same (send_refused linked sending).1 hP
    · rw [(send_delivered linked sending).1]
      exact kept.hearAll messages (kept.same (handed_edits h link' r) hP)

/-! ### An edit that is asked for -/

/-- The direction that a request names for a step of an edit. -/
def stepDirection? : EditStep → Option Direction
  | .apply => none
  | .move d => some d

/-- The host that waits for an edit, the history moved, the edit not yet shown. -/
def asked (h : Host κ) (shown : HistoryEntry) (step : EditStep) (history : History) : Host κ :=
  { h with
    awaiting := Table.set h.awaiting shown.id ⟨step, h.committed.styles shown.selector⟩
    history }

/-- An edit that is asked for is shown and sent, and taken back if it could not be sent. -/
theorem perform_fst (h : Host κ) (shown : HistoryEntry) (step : EditStep) (history : History) :
    (h.perform shown step history).1 =
      let sent := ((h.asked shown step history).present shown).send
        (.styles (styleRequest shown (stepDirection? step)))
      match sent.2 with
      | .refused => sent.1.rollBack shown.id
      | _ => sent.1 := by
  unfold perform
  dsimp only
  split
  · rename_i h' sent
    rw [show ((h.asked shown step history).present shown).send
      (.styles (styleRequest shown (stepDirection? step))) = (h', .refused) from sent]
  · rename_i h' sending other sent
    rw [show ((h.asked shown step history).present shown).send
      (.styles (styleRequest shown (stepDirection? step))) = (h', sending) from sent]
    cases sending with
    | sent => rfl
    | refused => exact absurd rfl other
    | failed f => rfl

omit [Link κ] in
/-- Presenting an edit commits its changes and leaves the history and what is waited for. -/
theorem present_committed (h : Host κ) (entry : HistoryEntry) :
    (h.present entry).committed = (h.commit entry).committed ∧
      (h.present entry).history = h.history ∧ (h.present entry).awaiting = h.awaiting ∧
        (h.present entry).idsGiven = h.idsGiven := by
  unfold present
  dsimp only
  split <;> exact ⟨rfl, rfl, rfl, rfl⟩

omit [Link κ] in
/-- Presenting an edit commits its changes on its own element. -/
theorem present_styles (h : Host κ) (entry : HistoryEntry) (s : String) :
    (h.present entry).committed.styles s =
      if s = entry.selector then entry.changes.foldl Styles.apply (h.committed.styles s)
      else h.committed.styles s := by
  rw [(present_committed h entry).1]
  unfold commit
  dsimp only
  rw [Layer.styles_put]
  by_cases here : s = entry.selector
  · simp [here]
  · simp [here]

omit [Link κ] in
/-- Presenting an edit restyles the selected element. -/
theorem present_selected (h : Host κ) (entry : HistoryEntry) :
    (h.present entry).selected? = (h.restyle entry).selected? := by
  unfold present
  dsimp only
  split <;> rfl

omit [Link κ] in
/-- Presenting an edit leaves the link. -/
theorem present_link (h : Host κ) (entry : HistoryEntry) : (h.present entry).link? = h.link? := by
  unfold present
  dsimp only
  split <;> rfl

/-- After an edit that was asked for, the link is what sending has made of it. -/
theorem perform_link {h : Host κ} {shown : HistoryEntry} {step : EditStep} (history : History)
    {link link' : κ} {answer : Except String (List Json)} (linked : h.link? = some link)
    (sending : Link.send link (Request.styles (styleRequest shown (stepDirection? step))).toJson =
      (link', answer)) :
    (h.perform shown step history).1.link? = some link' := by
  have sent : (((h.asked shown step history).present shown).send
      (.styles (styleRequest shown (stepDirection? step)))).1.link? = some link' :=
    send_link ((present_link _ shown).trans linked) sending
  rw [perform_fst]
  dsimp only
  split
  · exact (rollBack_link _ _).trans sent
  · exact sent

/-- An edit that is asked for and answered at once by a single answer. -/
theorem perform_answered {h : Host κ} {shown : HistoryEntry} {step : EditStep} (history : History)
    {link link' : κ} {v : Json} {response : Response} (linked : h.link? = some link)
    (delivered : Link.send link (Request.styles (styleRequest shown (stepDirection? step))).toJson =
      (link', .ok [v]))
    (read : Response.read v = .ok (some response)) :
    (h.perform shown step history).1 =
      (((h.asked shown step history).present shown).handed link'
        (.styles (styleRequest shown (stepDirection? step)))).take response := by
  have link : ((h.asked shown step history).present shown).link? = some link :=
    (present_link _ shown).trans linked
  rw [perform_fst]
  dsimp only
  rw [send_answered link delivered read]

/-- An edit that is shown keeps, when it is sent, what answers keep. -/
theorem Kept.perform {P : Host κ → Prop} (kept : Kept P) {h : Host κ} {shown : HistoryEntry}
    {step : EditStep} {history : History} (presented : P ((h.asked shown step history).present shown)) :
    P (h.perform shown step history).1 := by
  have sent := kept.send (.styles (styleRequest shown (stepDirection? step))) presented
  rw [perform_fst]
  dsimp only
  split
  · exact kept.rollBack shown.id sent
  · exact sent

end Retouch.Host
