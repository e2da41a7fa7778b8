import Retouch.Host.Command
import Retouch.Proofs.Backend.Answering
import Retouch.Proofs.Host.Answering
import Retouch.Proofs.Host.Untouched
import Retouch.Proofs.Wire.Message

/-!
# Requests settled at once

A host that works with a backend in the same process has every request settled before the next one:
the backend answers it with one response, and the host can read that. Whatever the host is asked to do,
no more requests are under way afterwards than before, and what it makes known of that is true at every
moment (`Host.run_settles`); so a host that was idle is idle again after any run (`Host.runs_idle`).
-/

namespace Retouch

open Wire

/-! ### What is known about the element of an upload -/

namespace ImageTarget

/-- The hints of an element are texts, or are not there. -/
structure IsUsable (t : ImageTarget) : Prop where
  /-- The path is. -/
  path : isUnusable t.path = false
  /-- The text is. -/
  text : isUnusable t.text = false
  /-- The classes are. -/
  classes : isUnusable t.classes = false

variable {t : ImageTarget}

theorem IsUsable.not_losesFile (usable : t.IsUsable) (files : List SourceFile)
    (settings : BackendSettings) : ¬ t.LosesFile files settings := by
  simp [LosesFile, usable.path, usable.text, usable.classes]

theorem IsUsable.not_losesTag (usable : t.IsUsable) (source : Text) (limits : SearchLimits) :
    ¬ t.LosesTag source limits := by
  unfold LosesTag needsUnusable
  split <;> simp [usable.text, usable.classes]

/-- What is known about the element is what the context has. -/
theorem hints_of_read? {context : Members} (read : read? context = .ok (some t)) :
    t.path = context.get "filePath" ∧ t.text = context.get "textContent" ∧
      t.classes = context.get "className" := by
  unfold read? at read
  split at read
  · split at read
    · cases read
    · split at read
      · cases read
        exact ⟨rfl, rfl, rfl⟩
      · cases read
      · cases read
  · cases read

/-- What a host tells of an element. -/
theorem get?_imageContext (e : Snapshot) :
    Table.get? (Host.imageContext e) "sourceLocation" = e.position?.map SourcePosition.toJson ∧
      Table.get? (Host.imageContext e) "filePath" = e.position?.map (Json.str ·.path) ∧
      Table.get? (Host.imageContext e) "className" = (Host.filled? e.classes).map Json.str ∧
      Table.get? (Host.imageContext e) "textContent" =
        (e.text?.bind Host.filled?).map Json.str := by
  cases position : e.position? <;>
    simp [Host.imageContext, Table.get?_cons, get?_append, get?_member?, position]

/-- A text, or nothing, is of use. -/
theorem isUnusable_get {α : Type} {ms : Members} {key : String} {value : Option α} (text : α → String)
    (there : Table.get? ms key = value.map (Json.str <| text ·)) : isUnusable (ms.get key) = false := by
  unfold Members.get
  rw [there]
  cases value <;> simp [isUnusable, Json.truthy, Json.string?]

/-- **The element that a host tells of is of use**: its position is not beyond the range, and its hints
are texts. -/
theorem not_isStuck_imageContext (e : Snapshot) (files : List SourceFile) (settings : BackendSettings) :
    ¬ IsStuck (Host.imageContext e) files settings := by
  obtain ⟨position, path, classes, text⟩ := get?_imageContext e
  rintro (⟨selector, -, -, beyond⟩ | ⟨t, read, stuck⟩)
  · unfold Members.get at beyond
    rw [position] at beyond
    cases place : e.position? with
    | none =>
      rw [place] at beyond
      exact SourcePosition.not_isBeyond_null beyond
    | some p =>
      rw [place] at beyond
      exact p.not_isBeyond_toJson beyond
  · obtain ⟨hpath, htext, hclasses⟩ := hints_of_read? read
    have usable : t.IsUsable := ⟨hpath ▸ isUnusable_get SourcePosition.path path,
      htext ▸ isUnusable_get id text, hclasses ▸ isUnusable_get id classes⟩
    obtain lost | ⟨file, -, lost⟩ := stuck
    · exact usable.not_losesFile files settings lost
    · exact usable.not_losesTag file.2 settings.search lost

end ImageTarget

/-! ### What passes over a link -/

variable {σ : Type} [Storage σ]

/-- Requests over a local link one after the other, with what is made known of them: an open link has
each one answered by one response, which can be read; a closed one refuses it. While a request is under
way, that is made known; in between, `syncing` is. -/
inductive Exchanges (syncing : Bool) : LocalLink σ → List Json → List Bool → LocalLink σ → Prop
  | none (l : LocalLink σ) : Exchanges syncing l [] [] l
  | notice {l l' : LocalLink σ} {sent : List Json} {signals : List Bool}
    (rest : Exchanges syncing l sent signals l') : Exchanges syncing l sent (syncing :: signals) l'
  | answered {l l' : LocalLink σ} {v : Json} {sent : List Json} {signals : List Bool}
    {b : Backend σ} {response reply : Response} (isOpen : l.isClosed = false)
    (handled : l.backend.handle v = (b, .ok [response]))
    (read : Response.read response.toJson = .ok (some reply))
    (rest : Exchanges syncing { l with backend := b } sent signals l') :
    Exchanges syncing l (v :: sent) (true :: syncing :: signals) l'
  | refused {l l' : LocalLink σ} {v : Json} {sent : List Json} {signals : List Bool}
    (closed : l.isClosed = true) (rest : Exchanges syncing l sent signals l') :
    Exchanges syncing l (v :: sent) (true :: syncing :: signals) l'

/-- Requests after requests. -/
theorem Exchanges.append {syncing : Bool} {l l' l'' : LocalLink σ} {sent sent' : List Json}
    {signals signals' : List Bool} (first : Exchanges syncing l sent signals l')
    (second : Exchanges syncing l' sent' signals' l'') :
    Exchanges syncing l (sent ++ sent') (signals ++ signals') l'' := by
  induction first with
  | none => exact second
  | notice rest ih => exact .notice (ih second)
  | answered isOpen handled read rest ih => exact .answered isOpen handled read (ih second)
  | refused closed rest ih => exact .refused closed (ih second)

namespace Host

/-- Whether a request is under way, if an event tells. -/
def signal? : HostEvent → Option Bool
  | .syncChanged isSyncing _ _ => some isSyncing
  | _ => none

/-- What a host has to do with its link. -/
structure Traffic (κ : Type) where
  /-- The link. -/
  link? : Option κ
  /-- The requests that the link was given. -/
  requests : List Json
  /-- How many requests are under way. -/
  inFlight : Nat
  /-- What was made known of whether a request is under way. -/
  signals : List Bool

section Traffic

variable {κ : Type} {h : Host κ}

/-- What a host has made known of whether a request is under way. -/
def signals (h : Host κ) : List Bool := h.events.filterMap signal?

/-- What a host has to do with its link. -/
def traffic (h : Host κ) : Traffic κ := ⟨h.link?, h.requests, h.inFlight, h.signals⟩

/-- An event of another kind tells nothing of requests. -/
theorem traffic_announce {e : HostEvent} (silent : signal? e = none) :
    (h.announce e).traffic = h.traffic := by
  simp [traffic, signals, announce, silent]

/-- Whether a request is under way, made known. -/
def Traffic.signalled (t : Traffic κ) : Traffic κ :=
  { t with signals := t.signals ++ [decide (0 < t.inFlight)] }

theorem traffic_announceSync : h.announceSync.traffic = h.traffic.signalled := by
  unfold traffic signals announceSync announce
  rw [List.filterMap_append]
  rfl

theorem traffic_fail (reason : String) : (h.fail reason).traffic = h.traffic.signalled :=
  traffic_announceSync

@[simp] theorem traffic_tell (m : HostMessage) : (h.tell m).traffic = h.traffic := rfl

@[simp] theorem traffic_display (s : String) : (h.display s).traffic = h.traffic := rfl

@[simp] theorem traffic_announceHistory : h.announceHistory.traffic = h.traffic :=
  traffic_announce rfl

@[simp] theorem traffic_setSelected (element? : Option Snapshot) :
    (h.setSelected element?).traffic = h.traffic := traffic_announce rfl

@[simp] theorem traffic_setHovered (element? : Option Snapshot) :
    (h.setHovered element?).traffic = h.traffic := traffic_announce rfl

@[simp] theorem traffic_rollBack (id : String) : (h.rollBack id).traffic = h.traffic := by
  unfold rollBack
  split
  · rfl
  · dsimp only
    split
    · rfl
    · rw [traffic_announceHistory, traffic_display]
      rfl

theorem traffic_takeStyles (r : StyleReport) : (h.takeStyles r).traffic = h.traffic := by
  unfold takeStyles
  split
  · rfl
  · dsimp only
    split
    · rw [traffic_rollBack]
      rfl
    · rfl

theorem traffic_takeText (r : TextReport) : (h.takeText r).traffic = h.traffic := by
  unfold takeText
  split <;> rfl

theorem traffic_takeImage (r : ImageReport) : (h.takeImage r).traffic = h.traffic := by
  unfold takeImage
  split
  · split
    · rw [traffic_announce rfl]
      rfl
    · rfl
  · rfl

theorem traffic_takeCode (r : CodePlace) : (h.takeCode r).traffic = h.traffic := by
  unfold takeCode
  split
  · split
    · split
      · exact traffic_announce rfl
      · rfl
    · rfl
  · rfl

/-- One request less under way. -/
def Traffic.settled (t : Traffic κ) : Traffic κ := { t with inFlight := t.inFlight - 1 }

/-- **Every answer settles one request**, and makes known whether others are under way. -/
theorem traffic_take (r : Response) : (h.take r).traffic = h.traffic.settled.signalled := by
  cases r with
  | styles r => exact traffic_announceSync.trans (congrArg Traffic.signalled (traffic_takeStyles r))
  | text r => exact traffic_announceSync.trans (congrArg Traffic.signalled (traffic_takeText r))
  | progress upload received total => exact traffic_announceSync
  | image r => exact traffic_announceSync.trans (congrArg Traffic.signalled (traffic_takeImage r))
  | refreshed success error? => cases success <;> exact traffic_announceSync
  | code r => exact traffic_announceSync.trans (congrArg Traffic.signalled (traffic_takeCode r))
  | error message context? => exact traffic_announceSync

/-- A request that was handed to a link and is settled leaves as many under way as before. -/
theorem traffic_handed_settled [Link κ] (link : κ) (r : Request) :
    (h.handed link r).traffic.settled.signalled = ⟨some link, h.requests ++ [r.toJson], h.inFlight,
      h.signals ++ [true, decide (0 < h.inFlight)]⟩ := by
  have known : (h.handed link r).signals = h.signals ++ [true] := by
    simp [signals, handed, announceSync, announce, signal?, isSyncing]
  unfold traffic Traffic.settled Traffic.signalled
  rw [known, List.append_assoc]
  rfl

/-- The edit that is asked for is shown without the link. -/
theorem traffic_present (entry : HistoryEntry) : (h.present entry).traffic = h.traffic := by
  unfold present
  rw [traffic_announceHistory]
  show ((_ : Host κ).display entry.selector).traffic = _
  rw [traffic_display]
  split <;> rfl

theorem traffic_clearPreview : h.clearPreview.traffic = h.traffic := by
  unfold clearPreview
  split <;> rfl

theorem traffic_disable : h.disable.traffic = h.traffic := by
  unfold disable
  rw [traffic_tell, traffic_setHovered, traffic_setSelected]
  rfl

theorem traffic_toggle : h.toggle.traffic = h.traffic := by
  unfold toggle
  split
  · exact traffic_disable
  · rfl

theorem traffic_clearSelection : h.clearSelection.traffic = h.traffic :=
  (traffic_setSelected none).trans traffic_clearPreview

theorem traffic_welcome : h.welcome.traffic = h.traffic := by
  have shown : ∀ (selectors : List String) (g : Host κ),
      (selectors.foldl (fun h s => if (h.effective s).isEmpty then h else h.display s) g).traffic =
        g.traffic := by
    intro selectors
    induction selectors with
    | nil => exact fun g => rfl
    | cons s rest ih =>
      intro g
      rw [List.foldl_cons, ih]
      split <;> rfl
  unfold welcome
  split
  · rfl
  · exact shown _ _

end Traffic

/-! ### Settling -/

/-- Requests are settled between two moments: they went over the link one after the other, as many are
under way as before, and what was made known of that was true. -/
def Settles (t t' : Traffic (LocalLink σ)) : Prop :=
  ∃ l sent signals l', t.link? = some l ∧
    Exchanges (decide (0 < t.inFlight)) l sent signals l' ∧
    t' = ⟨some l', t.requests ++ sent, t.inFlight, t.signals ++ signals⟩

theorem Settles.refl {t : Traffic (LocalLink σ)} {l : LocalLink σ} (linked : t.link? = some l) :
    Settles t t := by
  refine ⟨l, [], [], l, linked, .none l, ?_⟩
  rw [List.append_nil, List.append_nil, ← linked]

theorem Settles.of_same {t t' : Traffic (LocalLink σ)} {l : LocalLink σ} (linked : t.link? = some l)
    (same : t' = t) : Settles t t' := by
  rw [same]
  exact .refl linked

theorem Settles.trans {t t' t'' : Traffic (LocalLink σ)} (first : Settles t t')
    (second : Settles t' t'') : Settles t t'' := by
  obtain ⟨l, sent, signals, l', linked, exchanges, rfl⟩ := first
  obtain ⟨_, sent', signals', l'', ⟨⟩, exchanges', rfl⟩ := second
  refine ⟨l, sent ++ sent', signals ++ signals', l'', linked, exchanges.append exchanges', ?_⟩
  simp only [List.append_assoc]

/-- What was made known in between was true. -/
theorem Settles.signalled {t : Traffic (LocalLink σ)} {l : LocalLink σ} (linked : t.link? = some l) :
    Settles t t.signalled := by
  refine ⟨l, [], [decide (0 < t.inFlight)], l, linked, .notice (.none l), ?_⟩
  unfold Traffic.signalled
  rw [List.append_nil, ← linked]

theorem Settles.linked {t t' : Traffic (LocalLink σ)} (settles : Settles t t') :
    ∃ l', t'.link? = some l' := by
  obtain ⟨_, _, _, l', _, _, rfl⟩ := settles
  exact ⟨l', rfl⟩

variable {h : Host (LocalLink σ)} {l : LocalLink σ}

/-- **A request is settled as soon as it is sent**, unless the backend gets stuck on it. -/
theorem send_settles (linked : h.link? = some l) {r : Request} (free : ∀ b : Backend σ, ¬ b.IsStuck r) :
    Settles h.traffic (h.send r).1.traffic := by
  obtain ⟨b, isClosed⟩ := l
  cases isClosed with
  | true =>
    have given : (h.send r).1 = ({ h.handed ⟨b, true⟩ r with
        inFlight := h.inFlight + 1 - 1 } : Host (LocalLink σ)).fail "Connection is closed" := by
      unfold send
      rw [linked]
      rfl
    rw [given, traffic_fail]
    show Settles h.traffic (h.handed ⟨b, true⟩ r).traffic.settled.signalled
    rw [traffic_handed_settled]
    exact ⟨_, [r.toJson], _, _, linked, .refused rfl (.none _), rfl⟩
  | false =>
    obtain ⟨response, done⟩ := Backend.handle_toJson (free b)
    have read := response.read_toJson
    have delivered : Link.send (⟨b, false⟩ : LocalLink σ) r.toJson =
        (⟨(b.handle r.toJson).1, false⟩, .ok [response.toJson]) := by
      rw [send_open, done]
      rfl
    rw [send_answered linked delivered read, traffic_take, traffic_handed_settled]
    exact ⟨_, [r.toJson], _, _, linked, .answered rfl (Prod.ext rfl done) read (.none _), rfl⟩

/-! ### Commands -/

theorem perform_settles (linked : h.link? = some l) (shown : HistoryEntry) (step : EditStep)
    (history : History) : Settles h.traffic (h.perform shown step history).1.traffic := by
  rw [perform_fst]
  have start : ((h.asked shown step history).present shown).traffic = h.traffic := traffic_present shown
  have sent := send_settles (l := l) (h := (h.asked shown step history).present shown)
    (by rw [present_link]; exact linked)
    (r := .styles (styleRequest shown (stepDirection? step))) fun b => id
  rw [start] at sent
  dsimp only
  split
  · rw [traffic_rollBack]
    exact sent
  · exact sent

theorem applyStyles_settles (linked : h.link? = some l) (values : List (String × String))
    (usesInline : Bool) : Settles h.traffic (h.applyStyles values usesInline).1.traffic := by
  unfold applyStyles
  split
  · exact .refl linked
  · split
    · exact .refl linked
    · exact perform_settles (h := h.counted) linked _ _ _

theorem undo_settles (linked : h.link? = some l) : Settles h.traffic h.undo.1.traffic := by
  unfold undo
  split
  · exact .refl linked
  · exact perform_settles linked _ _ _

theorem redo_settles (linked : h.link? = some l) : Settles h.traffic h.redo.1.traffic := by
  unfold redo
  split
  · exact .refl linked
  · exact perform_settles linked _ _ _

theorem sendText_settles (linked : h.link? = some l) (selector oldText newText : String)
    (position? : Option SourcePosition) :
    Settles h.traffic (h.sendText selector oldText newText position?).1.traffic := by
  unfold sendText
  dsimp only
  split
  all_goals
    rename_i h' eq
    have sent := congrArg Prod.fst eq ▸ send_settles linked (r := .text _) fun b => id
  · exact sent
  · exact sent
  · split <;> exact sent

/-- Pieces of an image for an element that the host tells of are settled one after the other. -/
theorem sendPieces_settles {h : Host (LocalLink σ)} {l : LocalLink σ} (linked : h.link? = some l)
    (e : Snapshot) {chunks : List ImageChunk}
    (told : ∀ chunk ∈ chunks, chunk.context = imageContext e) :
    Settles h.traffic (h.sendPieces chunks).1.traffic := by
  induction chunks generalizing h l with
  | nil => exact .refl linked
  | cons chunk rest ih =>
    obtain ⟨here, later⟩ := List.forall_mem_cons.mp told
    have free (b : Backend σ) : ¬ b.IsStuck (.image chunk) := by
      rintro ⟨store, _, _, _, _, -, stuck⟩
      rw [here] at stuck
      exact ImageTarget.not_isStuck_imageContext e _ _ stuck
    have sent := send_settles linked free
    unfold sendPieces
    split
    · rename_i h' eq
      rw [eq] at sent
      obtain ⟨l', linked'⟩ := sent.linked
      exact sent.trans (ih linked' later)
    · exact sent

theorem uploadImage_settles (linked : h.link? = some l) (data : List UInt8) (fileName mimeType : String)
    (isBackground : Bool) (pieceSize : Int) :
    Settles h.traffic (h.uploadImage data fileName mimeType isBackground pieceSize).1.traffic := by
  unfold uploadImage
  split
  · exact .refl linked
  · rename_i element _
    split
    · exact .refl linked
    · rename_i ps _
      have told : ∀ chunk ∈ ps.zipIdx.map fun piece => ({
          upload := idText (h.idsGiven + 1), chunk := String.ofList piece.1, index := piece.2,
          total := ps.length, fileName, mimeType, size := data.length, isBackground,
          context := imageContext element } : ImageChunk), chunk.context = imageContext element := by
        intro chunk mem
        obtain ⟨piece, -, rfl⟩ := List.mem_map.mp mem
        rfl
      have sent := sendPieces_settles (h := { h.nextId.1 with
        uploads := Table.set h.uploads (idText (h.idsGiven + 1)) (0, ps.length) }) linked element told
      dsimp only
      split
      all_goals
        rename_i h' eq
        have sent := congrArg Prod.fst eq ▸ sent
        exact sent

theorem goToCode_settles (linked : h.link? = some l) : Settles h.traffic h.goToCode.1.traffic := by
  unfold goToCode
  split
  · exact .refl linked
  · split
    · dsimp only
      split
      · exact .of_same linked (traffic_announce rfl)
      · exact .refl linked
    · exact send_settles linked fun b => id

theorem press_settles (linked : h.link? = some l) (s : Shortcut) :
    Settles h.traffic (h.press s).1.traffic := by
  unfold press
  dsimp only
  split
  · exact .of_same linked traffic_toggle
  · split
    · exact .refl linked
    · split
      · split
        · exact redo_settles linked
        · exact undo_settles linked
      · split
        · exact .of_same linked traffic_clearSelection
        · exact .refl linked

theorem receive_settles (linked : h.link? = some l) (v : Json) :
    Settles h.traffic (h.receive v).1.traffic := by
  unfold receive
  split
  · exact .refl linked
  · exact traffic_fail (h := h) _ ▸ .signalled linked
  · exact .refl linked
  · exact .refl linked
  · rename_i m _
    cases m with
    | ready => exact .of_same linked traffic_welcome
    | hovered element? => exact .of_same linked (traffic_setHovered element?)
    | selected element => exact .of_same linked (traffic_setSelected _)
    | deselected => exact .of_same linked (traffic_setSelected none)
    | textEdit selector oldText newText position? => exact sendText_settles linked _ _ _ _
    | textEdited selector oldText newText => exact sendText_settles linked _ _ _ _
    | error message context? => exact traffic_fail (h := h) message ▸ .signalled linked

/-- A command that takes in no message from the backend from elsewhere is settled. -/
theorem run_settles_traffic (linked : h.link? = some l) {c : Command} (own : ∀ v, c ≠ .hear v) :
    Settles h.traffic (h.run c).1.traffic := by
  cases c with
  | enable => exact .refl linked
  | disable => exact .of_same linked traffic_disable
  | toggle => exact .of_same linked traffic_toggle
  | select selector => exact .refl linked
  | previewStyle property value =>
    refine .of_same linked ?_
    show (h.previewStyle property value).traffic = h.traffic
    unfold previewStyle
    split <;> rfl
  | clearPreview => exact .of_same linked traffic_clearPreview
  | applyStyles values usesInline => exact applyStyles_settles linked values usesInline
  | undo => exact undo_settles linked
  | redo => exact redo_settles linked
  | clearSelection => exact .of_same linked traffic_clearSelection
  | updateText text =>
    refine .of_same linked ?_
    show (h.updateText text).traffic = h.traffic
    unfold updateText
    split <;> rfl
  | uploadImage data fileName mimeType isBackground size =>
    exact uploadImage_settles linked data fileName mimeType isBackground size
  | refreshPreview => exact send_settles (h := { h with syncError? := none }) linked (r := .refresh) fun b => id
  | goToCode => exact goToCode_settles linked
  | hear message => exact absurd rfl (own message)
  | receive message => exact receive_settles linked message
  | press shortcut => exact press_settles linked shortcut

/-- **Whatever a host is asked to do, its requests are settled at once.** Over a link to a backend in the
same process, every request of a command is answered by one response that the host can read, or refused
by the closed link; as many requests are under way afterwards as before; and in between, the host makes
known that a request is under way exactly while one more is. -/
theorem run_settles {h : Host (LocalLink σ)} {link : LocalLink σ} (linked : h.link? = some link)
    {c : Command} (own : ∀ v, c ≠ .hear v) :
    ∃ sent signals link', Exchanges h.isSyncing link sent signals link' ∧
      (h.run c).1.link? = some link' ∧ (h.run c).1.requests = h.requests ++ sent ∧
      (h.run c).1.inFlight = h.inFlight ∧ (h.run c).1.signals = h.signals ++ signals := by
  obtain ⟨_, sent, signals, link', linked', exchanges, done⟩ := run_settles_traffic linked own
  cases linked.symm.trans linked'
  exact ⟨sent, signals, link', exchanges, congrArg Traffic.link? done, congrArg Traffic.requests done,
    congrArg Traffic.inFlight done, congrArg Traffic.signals done⟩

/-- To make the paragraph bold is one request, and it is settled. -/
theorem overBold_settles :
    let h := overBold "400"
    let c := Command.applyStyles [("fontWeight", "bold")] false
    (h.run c).1.requests.length = 1 ∧
      ∃ sent signals link', Exchanges h.isSyncing ⟨boldParagraph, false⟩ sent signals link' ∧
        (h.run c).1.link? = some link' ∧ (h.run c).1.requests = h.requests ++ sent ∧
        (h.run c).1.inFlight = h.inFlight ∧ (h.run c).1.signals = h.signals ++ signals :=
  ⟨by decide +kernel, run_settles rfl nofun⟩

/-! ### Runs -/

/-- After one command after the other, every request is settled. -/
theorem runs_settle_traffic {h : Host (LocalLink σ)} {l : LocalLink σ} (linked : h.link? = some l)
    {cs : List Command} (own : ∀ c ∈ cs, ∀ v, c ≠ .hear v) :
    Settles h.traffic (cs.foldl (fun h c => (h.run c).1) h).traffic := by
  induction cs generalizing h l with
  | nil => exact .refl linked
  | cons c rest ih =>
    obtain ⟨here, later⟩ := List.forall_mem_cons.mp own
    have first := run_settles_traffic linked here
    obtain ⟨l', linked'⟩ := first.linked
    exact first.trans (ih linked' later)

/-- A host without requests under way has none after any commands. -/
theorem runs_idle {h : Host (LocalLink σ)} {l : LocalLink σ} (linked : h.link? = some l)
    (idle : h.isSyncing = false) {cs : List Command} (own : ∀ c ∈ cs, ∀ v, c ≠ .hear v) :
    (cs.foldl (fun h c => (h.run c).1) h).isSyncing = false := by
  obtain ⟨_, _, _, _, _, _, done⟩ := runs_settle_traffic linked own
  have same : (cs.foldl (fun h c => (h.run c).1) h).inFlight = h.inFlight :=
    congrArg Traffic.inFlight done
  unfold isSyncing
  rw [same]
  exact idle

end Host

end Retouch
