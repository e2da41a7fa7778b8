import Retouch.Proofs.Host.Showing
import Retouch.Proofs.Overlay.Overriding
import Retouch.Workbench

/-!
# Host and frame in step

Host and frame each keep a picture of what is shown, and speak of it by messages that wait in between.
They are in step (`InStep`) if what the host means to be shown is what its messages come down to, those
that came to the frame and those that still wait, and if the frame displays what came to it. Every step
of a session preserves this: what the host is asked to do (`InStep.order`), what the pointer does on the
page (`InStep.stir`), and the delivery of messages on either side (`InStep.drain`).
-/

namespace Retouch.Workbench

open Overlay (AtWork Knows Displays Steady Stirs)

variable {κ : Type}

/-! ### What is posted -/

/-- Messages posted on an open channel wait on the other side, in order. -/
theorem post_all {c : Channel Attendant} (host : c.host.closed = false) (frame : c.frame.closed = false)
    (side : Side) (vs : List Json) :
    vs.foldl (fun c v => c.post side v) c =
      c.update side.other fun p => { p with inbox := p.inbox ++ vs } := by
  induction vs generalizing c with
  | nil => cases side <;> simp [Channel.update, Side.other]
  | cons v vs ih =>
    have posted : c.post side v = c.update side.other fun p => { p with inbox := p.inbox ++ [v] } := by
      cases side <;> simp [Channel.post, Channel.port, Side.other, host, frame]
    rw [List.foldl_cons, posted]
    refine (ih ?_ ?_).trans ?_
    · cases side <;> exact host
    · cases side <;> exact frame
    · cases side <;> simp [Channel.update, Side.other]

theorem setHost_channel {w : Workbench κ} (host : w.channel.host.closed = false)
    (frame : w.channel.frame.closed = false) (h : Host κ) :
    (w.setHost h).channel = w.channel.update .frame fun p =>
      { p with inbox := p.inbox ++ h.told.map (·.encode h.tag) } := by
  refine Eq.trans ?_ (post_all host frame .host (h.told.map (·.encode h.tag)))
  rw [List.foldl_map]
  rfl

theorem setFrame_channel {w : Workbench κ} (host : w.channel.host.closed = false)
    (frame : w.channel.frame.closed = false) (f : Frame) :
    (w.setFrame f).channel = w.channel.update .host fun p =>
      { p with inbox := p.inbox ++ f.overlay.sent.map (·.encode f.tag) } := by
  refine Eq.trans ?_ (post_all host frame .frame (f.overlay.sent.map (·.encode f.tag)))
  rw [List.foldl_map]
  rfl

/-! ### In step -/

/-- The messages of the host among what came to the frame. -/
def heard (tag : String) (vs : List Json) : List HostMessage :=
  vs.filterMap fun v => match HostMessage.decode tag v with
    | .ok m? => m?
    | .error _ => none

/-- The values shown on an element since its look was given back last, by the messages that came to the
frame. -/
def shownOn (w : Workbench κ) (f : Frame) (id : ElementId) : List (String × String) :=
  (heard f.tag (w.deliveredTo .frame)).foldl (f.overlay.tally id) []

/-- A port that is open, with the record and the member listening. -/
structure Attended (p : Port Attendant) : Prop where
  /-- It is open. -/
  isOpen : p.closed = false
  /-- The record and the member listen. -/
  listeners : p.listeners = [.record, .member]

/-- A host and a frame agree on what is shown, in view of what came to the frame and what waits. -/
structure Agreed (w : Workbench κ) (f : Frame) (h : Host κ) : Prop where
  /-- They speak with one tag. -/
  tag : f.tag = h.tag
  /-- Design mode is on. -/
  active : f.isActive = true
  /-- The port of the host is attended. -/
  hostPort : Attended w.channel.host
  /-- The port of the frame is attended. -/
  framePort : Attended w.channel.frame
  /-- The overlay is at work. -/
  atWork : AtWork f.overlay
  /-- The host deals with elements that the frame knows. -/
  uses : Host.Uses f.overlay.Knows h
  /-- The host waits for messages about the pointer and the selection. -/
  toHost : ∀ v ∈ w.channel.host.inbox, ∃ m : FrameMessage, v = m.encode f.tag ∧ m.IsPointing f.overlay.Knows
  /-- The frame was switched on, and has heard of elements that it knows. -/
  known : ∀ m ∈ heard f.tag (w.deliveredTo .frame), m = .enable ∨ m.IsAbout f.overlay.Knows
  /-- What the frame has heard and waits for comes down to what the host means to be shown. -/
  toFrame : ∃ ms : List HostMessage, w.channel.frame.inbox = ms.map (·.encode h.tag) ∧
    (∀ m ∈ ms, m.IsAbout f.overlay.Knows) ∧
    ∀ s, (heard f.tag (w.deliveredTo .frame) ++ ms).foldl (HostMessage.leaves s) [] = h.effective s
  /-- The frame displays what it has heard. -/
  displays : ∀ id, f.overlay.Displays id (w.shownOn f id)

/-- The host and the frame of a workbench are in step. -/
structure InStep (w : Workbench κ) (f : Frame) (h : Host κ) : Prop extends Agreed w f h where
  /-- It is the frame of the workbench. -/
  frame : w.frame? = some f
  /-- It is the host of the workbench. -/
  host : w.host? = some h
  /-- What the frame said is posted. -/
  sent : f.overlay.sent = []
  /-- What the host said is posted. -/
  told : h.told = []

variable {w w' : Workbench κ} {f : Frame} {h : Host κ}

/-! ### The host changes -/

/-- A host that is frank stays in step. -/
theorem InStep.order (inStep : InStep w f h) {h' : Host κ}
    (frank : Host.Frank f.overlay.Knows h.effective h') (tag : h'.tag = h.tag) :
    InStep (w.setHost h') f { h' with told := [] } := by
  have posted := setHost_channel inStep.hostPort.isOpen inStep.framePort.isOpen h'
  refine ⟨⟨inStep.tag.trans tag.symm, inStep.active, ?_, ?_, inStep.atWork,
    ⟨frank.uses.selected, frank.uses.entries⟩, ?_, inStep.known, ?_, inStep.displays⟩,
    inStep.frame, rfl, inStep.sent, rfl⟩
  · rw [posted]
    exact inStep.hostPort
  · rw [posted]
    exact ⟨inStep.framePort.isOpen, inStep.framePort.listeners⟩
  · rw [posted]
    exact inStep.toHost
  · obtain ⟨ms, inbox, about, leaves⟩ := inStep.toFrame
    refine ⟨ms ++ h'.told, ?_, ?_, fun s => ?_⟩
    · rw [posted]
      show w.channel.frame.inbox ++ h'.told.map (·.encode h'.tag) = (ms ++ h'.told).map (·.encode h'.tag)
      rw [inbox, List.map_append, tag]
    · intro m hm
      obtain waiting | told := List.mem_append.mp hm
      · exact about m waiting
      · exact frank.shown.about m told
    · rw [← List.append_assoc, List.foldl_append]
      exact (congrArg (fun styles => h'.told.foldl (HostMessage.leaves s) styles) (leaves s)).trans
        (frank.shown.leaves s)

/-! ### The frame changes -/

/-- The frame of a workbench becomes one that agrees with the host and speaks of what it knows. -/
theorem Agreed.setFrame (agreed : Agreed w f h) (host : w.host? = some h) (told : h.told = [])
    (said : ∀ m ∈ f.overlay.sent, m.IsPointing f.overlay.Knows) :
    InStep (w.setFrame f) { f with overlay := { f.overlay with sent := [] } } h := by
  have posted := setFrame_channel agreed.hostPort.isOpen agreed.framePort.isOpen f
  refine ⟨⟨agreed.tag, agreed.active, ?_, ?_, agreed.atWork.say [], agreed.uses, ?_, agreed.known, ?_,
    agreed.displays⟩, rfl, host, rfl, told⟩
  · rw [posted]
    exact ⟨agreed.hostPort.isOpen, agreed.hostPort.listeners⟩
  · rw [posted]
    exact agreed.framePort
  · rw [posted]
    intro v hv
    obtain waiting | new := List.mem_append.mp hv
    · exact agreed.toHost v waiting
    · obtain ⟨m, hm, rfl⟩ := List.mem_map.mp new
      exact ⟨m, rfl, said m hm⟩
  · rw [posted]
    exact agreed.toFrame

theorem tally_known {o o' : Overlay} (atWork : AtWork o) (steady : Steady o o') {m : HostMessage}
    (known : m = .enable ∨ m.IsAbout o.Knows) (id : ElementId) (shown : List (String × String)) :
    o'.tally id shown m = o.tally id shown m := by
  obtain rfl | about := known
  · rfl
  · exact Overlay.tally_steady about atWork.registered steady id shown

/-- What was shown on an element is counted the same for good. -/
theorem Agreed.shownOn_steady (agreed : Agreed w f h) {o' : Overlay} (steady : Steady f.overlay o')
    (id : ElementId) :
    (heard f.tag (w.deliveredTo .frame)).foldl (o'.tally id) [] = w.shownOn f id := by
  refine List.foldl_rel rfl fun m hm shown shown' same => ?_
  rw [same]
  exact tally_known agreed.atWork steady (agreed.known m hm) id shown'

theorem uses_mono {known known' : String → Prop} (uses : Host.Uses known h)
    (more : ∀ s, known s → known' s) : Host.Uses known' h :=
  ⟨fun e he => more _ (uses.selected e he), fun e he => more _ (uses.entries e he)⟩

/-- An overlay that the pointer has stirred stays in step. -/
theorem InStep.stir (inStep : InStep w f h) {o' : Overlay} (stirs : Stirs f.overlay o') :
    InStep (w.setOverlay o') { f with overlay := { o' with sent := [] } } h := by
  have more (s : String) (knows : f.overlay.Knows s) : o'.Knows s := knows.steady stirs.calm.toSteady
  have agreed : Agreed w { f with overlay := o' } h := by
    refine ⟨inStep.tag, inStep.active, inStep.hostPort, inStep.framePort,
      inStep.atWork.calm stirs.calm, uses_mono inStep.uses more, ?_, ?_, ?_, ?_⟩
    · intro v hv
      obtain ⟨m, encoded, pointing⟩ := inStep.toHost v hv
      exact ⟨m, encoded, pointing.mono more⟩
    · intro m hm
      exact (inStep.known m hm).imp id fun about => about.mono more
    · obtain ⟨ms, inbox, about, leaves⟩ := inStep.toFrame
      exact ⟨ms, inbox, fun m hm => (about m hm).mono more, leaves⟩
    · intro id
      show Displays o' id ((heard f.tag (w.deliveredTo .frame)).foldl (o'.tally id) [])
      rw [inStep.shownOn_steady stirs.calm.toSteady id]
      exact (inStep.displays id).calm inStep.atWork stirs.calm
  have set : w.setOverlay o' = w.setFrame { f with overlay := o' } := by
    unfold setOverlay
    rw [inStep.frame]
  rw [set]
  refine agreed.setFrame inStep.host inStep.told fun m hm => ?_
  obtain old | new := stirs.said m hm
  · rw [inStep.sent] at old
    cases old
  · exact new

/-! ### Deliveries -/

variable [Link κ]

/-- A message goes to the record first and then to the member. -/
theorem deliver_eq (whole : w.fault? = none) (side : Side) (v : Json) :
    delivery.deliver side [.record, .member] v w =
      { w with delivered := w.delivered ++ [(side, v)] }.attend side v := by
  unfold Delivery.deliver
  simp [delivery, whole]

/-- The workbench with a message taken from an inbox and put on record. -/
def taken (w : Workbench κ) (side : Side) (v : Json) (rest : List Json) : Workbench κ :=
  { w with
    channel := w.channel.update side fun p => { p with inbox := rest }
    delivered := w.delivered ++ [(side, v)] }

omit [Link κ] in
theorem deliveredTo_taken (w : Workbench κ) (side target : Side) (v : Json) (rest : List Json) :
    (w.taken side v rest).deliveredTo target =
      if side = target then w.deliveredTo target ++ [v] else w.deliveredTo target := by
  unfold deliveredTo taken
  rw [List.filter_append, List.map_append]
  by_cases same : side = target
  · simp [same]
  · simp [same]

omit [Link κ] in
theorem heard_append (tag : String) (vs : List Json) {m : HostMessage}
    (filled : m.IsFilled) : heard tag (vs ++ [m.encode tag]) = heard tag vs ++ [m] := by
  unfold heard
  rw [List.filterMap_append]
  simp [HostMessage.decode_encode tag filled]

theorem attend_host {v : Json} {heard : Host κ × Option Json.NumberFault} (host : w.host? = some h)
    (received : h.receive v = heard) :
    w.attend .host v = { w.setHost heard.1 with fault? := heard.2.map .number } := by
  unfold attend
  rw [host, ← received]

theorem attend_frame {v : Json} {heard : Frame × Option Frame.Fault} (frame : w.frame? = some f)
    (received : f.receive v = heard) :
    w.attend .frame v = { w.setFrame heard.1 with fault? := heard.2 } := by
  unfold attend
  rw [frame, ← received]

/-- A message about known elements has a selector that is not empty. -/
theorem isFilled_of_isAbout {o : Overlay} (atWork : AtWork o) {m : HostMessage}
    (about : m.IsAbout o.Knows) : m.IsFilled := by
  cases m with
  | previewStyle s styles =>
    obtain ⟨id, points⟩ := about
    exact points.1.filled atWork.registered
  | clearPreview selector? =>
    cases selector? with
    | none => exact about.elim
    | some s =>
      obtain ⟨id, points⟩ := about
      exact points.1.filled atWork.registered
  | _ => exact about.elim

omit [Link κ] in
/-- What went wrong last does not matter. -/
theorem InStep.blame (inStep : InStep w f h) (fault? : Option Frame.Fault) :
    InStep { w with fault? } f h :=
  ⟨⟨inStep.tag, inStep.active, inStep.hostPort, inStep.framePort, inStep.atWork, inStep.uses,
    inStep.toHost, inStep.known, inStep.toFrame, inStep.displays⟩, inStep.frame, inStep.host,
    inStep.sent, inStep.told⟩

/-- What the frame makes of a message about a known element. -/
theorem receive_eq {tag : String} (same : f.tag = tag) (active : f.isActive = true)
    (atWork : AtWork f.overlay) {m : HostMessage} (about : m.IsAbout f.overlay.Knows) :
    ∃ overlay, f.receive (m.encode tag) = ({ f with overlay }, none) ∧
      Overlay.Obeys f.overlay m overlay := by
  obtain ⟨overlay, obeyed, obeys⟩ := Frame.obey_obeys active atWork about
  refine ⟨overlay, ?_, obeys⟩
  unfold Frame.receive
  rw [same, HostMessage.decode_encode tag (isFilled_of_isAbout atWork about)]
  dsimp only
  rw [obeyed, same]

omit [Link κ] in
/-- A frame that has obeyed a message agrees with the host. -/
theorem InStep.obey (inStep : InStep w f h) {m : HostMessage} {ms : List HostMessage}
    (about : ∀ m' ∈ m :: ms, m'.IsAbout f.overlay.Knows)
    (leaves : ∀ s, (heard f.tag (w.deliveredTo .frame) ++ m :: ms).foldl (HostMessage.leaves s) [] =
      h.effective s)
    {o' : Overlay} (obeys : Overlay.Obeys f.overlay m o') :
    Agreed (w.taken .frame (m.encode h.tag) (ms.map (·.encode h.tag))) { f with overlay := o' } h := by
  have more (s : String) (knows : f.overlay.Knows s) : o'.Knows s := knows.steady obeys.steady
  have first := about m (List.mem_cons_self ..)
  have came : heard f.tag
      ((w.taken .frame (m.encode h.tag) (ms.map (·.encode h.tag))).deliveredTo .frame) =
        heard f.tag (w.deliveredTo .frame) ++ [m] := by
    rw [deliveredTo_taken, if_pos rfl, inStep.tag,
      heard_append h.tag _ (isFilled_of_isAbout inStep.atWork first)]
  refine ⟨inStep.tag, inStep.active, inStep.hostPort,
    ⟨inStep.framePort.isOpen, inStep.framePort.listeners⟩, obeys.atWork, uses_mono inStep.uses more,
    ?_, ?_, ?_, ?_⟩
  · intro v hv
    obtain ⟨m', encoded, pointing⟩ := inStep.toHost v hv
    exact ⟨m', encoded, pointing.mono more⟩
  · rw [came]
    intro m' hm'
    obtain old | new := List.mem_append.mp hm'
    · exact (inStep.known m' old).imp id fun about => about.mono more
    · rw [List.mem_singleton.mp new]
      exact Or.inr (first.mono more)
  · refine ⟨ms, rfl, fun m' hm' => (about m' (List.mem_cons_of_mem m hm')).mono more, fun s => ?_⟩
    rw [came, List.append_assoc, List.singleton_append]
    exact leaves s
  · intro id
    unfold shownOn
    rw [came, List.foldl_append, List.foldl_cons, List.foldl_nil,
      inStep.shownOn_steady obeys.steady id, tally_known inStep.atWork obeys.steady (Or.inr first)]
    exact obeys.displays id _ (inStep.displays id)

/-- The frame takes in a message, and is in step with the host still. -/
theorem InStep.take_frame (inStep : InStep w f h) {v : Json} {rest : List Json}
    (inbox : w.channel.frame.inbox = v :: rest) :
    ∃ f', InStep ((w.taken .frame v rest).attend .frame v) f' h := by
  obtain ⟨ms, waits, about, leaves⟩ := inStep.toFrame
  obtain _ | ⟨m, ms⟩ := ms
  · rw [inbox] at waits
    cases waits
  · obtain ⟨rfl, rfl⟩ := List.cons.inj (inbox.symm.trans waits)
    obtain ⟨o', received, obeys⟩ := receive_eq inStep.tag inStep.active inStep.atWork
      (about m (List.mem_cons_self ..))
    have agreed := inStep.obey about leaves obeys
    have next := agreed.setFrame inStep.host inStep.told fun m' hm' => by
      rw [show o'.sent = [] from obeys.sent.trans inStep.sent] at hm'
      cases hm'
    refine ⟨{ f with overlay := { o' with sent := [] } }, ?_⟩
    rw [attend_frame (w := w.taken .frame _ _) inStep.frame received]
    exact next.blame none

/-- The host takes in a message, and is in step with the frame still. -/
theorem InStep.take_host (inStep : InStep w f h) {v : Json} {rest : List Json}
    (inbox : w.channel.host.inbox = v :: rest) :
    ∃ h', InStep ((w.taken .host v rest).attend .host v) f h' := by
  obtain ⟨m, rfl, pointing⟩ := inStep.toHost v (inbox ▸ List.mem_cons_self ..)
  have popped : InStep (w.taken .host (m.encode f.tag) rest) f h := by
    have same : (w.taken .host (m.encode f.tag) rest).deliveredTo .frame = w.deliveredTo .frame := by
      rw [deliveredTo_taken, if_neg (by decide)]
    refine ⟨⟨inStep.tag, inStep.active, ⟨inStep.hostPort.isOpen, inStep.hostPort.listeners⟩,
      inStep.framePort, inStep.atWork, inStep.uses, ?_, ?_, ?_, ?_⟩, inStep.frame, inStep.host,
      inStep.sent, inStep.told⟩
    · intro v hv
      exact inStep.toHost v (inbox ▸ List.mem_cons_of_mem _ hv)
    · rw [same]
      exact inStep.known
    · rw [same]
      exact inStep.toFrame
    · unfold shownOn
      rw [same]
      exact inStep.displays
  have frank := Host.receive_frank pointing ⟨inStep.uses, .start inStep.told⟩
  have tag := Host.receive_tag (h := h) pointing
  rw [← inStep.tag] at frank tag
  refine ⟨{ (h.receive (m.encode f.tag)).1 with told := [] }, ?_⟩
  rw [attend_host (w := w.taken .host _ _) inStep.host rfl]
  exact (popped.order frank (tag.trans inStep.tag)).blame _

/-- One more message that waits is delivered. -/
theorem drain_succ {side : Side} {v : Json} {rest : List Json} (attended : Attended (w.channel.port side))
    (whole : w.fault? = none) (inbox : (w.channel.port side).inbox = v :: rest) (n : Nat) :
    (delivery.drain side (n + 1) w).1 = (delivery.drain side n ((w.taken side v rest).attend side v)).1 := by
  have delivers : delivery.deliver side [.record, .member] v
      (delivery.setChannel ((delivery.channel w).update side fun p => { p with inbox := rest }) w) =
        (w.taken side v rest).attend side v :=
    deliver_eq
      (w := delivery.setChannel ((delivery.channel w).update side fun p => { p with inbox := rest }) w)
      whole side v
  have goes : (((delivery.channel w).port side).closed || delivery.isBroken w) = false := by
    rw [Bool.or_eq_false_iff]
    exact ⟨attended.isOpen, congrArg Option.isSome whole⟩
  rw [Delivery.drain]
  dsimp only
  rw [show ((delivery.channel w).port side).inbox = v :: rest from inbox]
  dsimp only
  rw [goes, show ((delivery.channel w).port side).listeners = _ from attended.listeners, delivers]
  rfl

omit [Link κ] in
theorem InStep.attended (inStep : InStep w f h) (side : Side) : Attended (w.channel.port side) := by
  cases side with
  | host => exact inStep.hostPort
  | frame => exact inStep.framePort

/-- **Deliveries keep host and frame in step**, however many messages are delivered on either side. -/
theorem InStep.drain (inStep : InStep w f h) (side : Side) (n : Nat) :
    ∃ f' h', InStep (delivery.drain side n w).1 f' h' := by
  induction n generalizing w f h with
  | zero => exact ⟨f, h, inStep⟩
  | succ n ih =>
    cases inbox : (w.channel.port side).inbox with
    | nil =>
      refine ⟨f, h, ?_⟩
      rw [Delivery.drain]
      dsimp only
      rw [show ((delivery.channel w).port side).inbox = [] from inbox]
      exact inStep
    | cons v rest =>
      cases whole : w.fault? with
      | some fault =>
        refine ⟨f, h, ?_⟩
        rw [Delivery.drain]
        dsimp only
        rw [show ((delivery.channel w).port side).inbox = v :: rest from inbox]
        dsimp only
        rw [show delivery.isBroken w = true from congrArg Option.isSome whole, Bool.or_true, if_pos rfl]
        exact inStep
      | none =>
        rw [drain_succ (inStep.attended side) whole inbox]
        cases side with
        | host =>
          obtain ⟨h', next⟩ := inStep.take_host inbox
          exact ih next
        | frame =>
          obtain ⟨f', next⟩ := inStep.take_frame inbox
          exact ih next

end Retouch.Workbench
