import Retouch.Host.Connection
import Retouch.Proofs.Overlay.Pointing
import Retouch.Proofs.Workbench.Session

/-!
# What the frame shows and what the host means

A session begins when the frame has started to listen and design mode is on. From then on the host is
asked for previews and edits, its requests are answered, the pointer moves and clicks, and messages are
delivered, all in any order (`Session`). Once nothing waits for the frame, it shows on every element all
that the host means to be shown there. It may show more: a property that has left the effective styles
of an element stays shown until the look of the element is given back, which happens only when no style
is left at all (`agrees_iff`).
-/

namespace Retouch.Workbench

open Overlay (cssText)

variable {κ : Type} [Link κ]

/-! ### The beginning of a session -/

/-- The host of a workbench changed; what it tells the frame is posted. -/
def onHost (w : Workbench κ) (g : Host κ → Host κ) : Workbench κ :=
  match w.host? with
  | some h => w.setHost (g h)
  | none => w

/-- The frame starts to listen and says so, the host switches design mode on, and the frame is told. -/
def opened (f : Frame) (h : Host κ) : Workbench κ :=
  let started := (assemble (some f) (some h)).start f
  let ready := (delivery.drain .host 1 started).1
  (delivery.drain .frame 1 (ready.onHost Host.enable)).1

/-- A host that design mode is off for hears without more ado that the frame is ready. -/
theorem receive_ready {h : Host κ} (off : h.isEnabled = false) {tag : String} (same : h.tag = tag) :
    h.receive (FrameMessage.ready.encode tag) = (h, none) := by
  subst same
  have read : FrameMessage.decode h.tag (FrameMessage.ready.encode h.tag) = .ok (some .ready) :=
    Wire.contents?_envelope _ h.tag _ FrameMessage.ready.payload_isPlain
  unfold Host.receive
  rw [read]
  show (h.welcome, none) = (h, none)
  unfold Host.welcome
  rw [off]
  rfl

/-- A frame in which design mode is off is switched on. -/
theorem receive_enable {f : Frame} (off : f.isActive = false) {tag : String} (same : f.tag = tag) :
    f.receive (HostMessage.enable.encode tag) =
      ({ f with overlay := f.overlay.renew.install, isActive := true }, none) := by
  subst same
  unfold Frame.receive
  rw [HostMessage.decode_encode (m := .enable) f.tag trivial]
  show (f.enable, none) = _
  unfold Frame.enable
  rw [off]
  rfl

/-- A frame that has not started, over a page that nothing is known of. -/
def newFrame (page : Page Hook) (salt : String) (sources : Table ElementId Json) (tag : String) : Frame :=
  { overlay := { page, registry := { salt }, sources }, tag }

/-- A host that nothing was asked of. -/
def newHost (link? : Option κ) (tag : String) (opensCode : Bool) : Host κ := { link?, tag, opensCode }

variable {page : Page Hook} {salt tag : String} {sources : Table ElementId Json} {link? : Option κ}
  {opensCode : Bool}

/-- A port with nothing waiting, and the record and the member listening. -/
def quiet : Port Attendant := { listeners := [.record, .member] }

/-- The frame as a session begins. -/
def switchedOn (f : Frame) : Frame :=
  { f with overlay := { f.overlay.renew.install with sent := [] }, isActive := true, isListening := true }

/-- What a workbench is as a session begins. -/
theorem opened_eq (page : Page Hook) (salt tag : String) (sources : Table ElementId Json)
    (link? : Option κ) (opensCode : Bool) :
    opened (newFrame page salt sources tag) (newHost link? tag opensCode) =
      { channel := ⟨quiet, quiet⟩
        frame? := some (switchedOn (newFrame page salt sources tag))
        host? := some { newHost link? tag opensCode with isEnabled := true }
        delivered := [(.host, FrameMessage.ready.encode tag), (.frame, HostMessage.enable.encode tag)] } := by
  have started : (assemble (some (newFrame page salt sources tag))
      (some (newHost link? tag opensCode))).start (newFrame page salt sources tag) =
      { channel := ⟨{ quiet with inbox := [FrameMessage.ready.encode tag] }, quiet⟩
        frame? := some { newFrame page salt sources tag with isListening := true }
        host? := some (newHost link? tag opensCode) } := rfl
  have ready : (delivery.drain .host 1 ((assemble (some (newFrame page salt sources tag))
      (some (newHost link? tag opensCode))).start (newFrame page salt sources tag))).1 =
      { channel := ⟨quiet, quiet⟩
        frame? := some { newFrame page salt sources tag with isListening := true }
        host? := some (newHost link? tag opensCode)
        delivered := [(.host, FrameMessage.ready.encode tag)] } := by
    rw [started, drain_succ ⟨rfl, rfl⟩ rfl rfl, Delivery.drain]
    dsimp only
    refine Eq.trans (attend_host ?_ (receive_ready (h := newHost link? tag opensCode) rfl rfl)) ?_
    · rfl
    · rfl
  have silent := (Overlay.install_rest (o := (newFrame page salt sources tag).overlay.renew) rfl).2.2.2
  unfold opened
  dsimp only
  rw [ready]
  have enabled : onHost (κ := κ)
      { channel := ⟨quiet, quiet⟩
        frame? := some { newFrame page salt sources tag with isListening := true }
        host? := some (newHost link? tag opensCode)
        delivered := [(.host, FrameMessage.ready.encode tag)] } Host.enable =
      { channel := ⟨quiet, { quiet with inbox := [HostMessage.enable.encode tag] }⟩
        frame? := some { newFrame page salt sources tag with isListening := true }
        host? := some { newHost link? tag opensCode with isEnabled := true }
        delivered := [(.host, FrameMessage.ready.encode tag)] } := rfl
  rw [enabled, drain_succ ⟨rfl, rfl⟩ rfl rfl, Delivery.drain]
  dsimp only
  refine Eq.trans (attend_frame ?_ (receive_enable
    (f := { newFrame page salt sources tag with isListening := true }) rfl rfl)) ?_
  · rfl
  · unfold setFrame
    dsimp only
    rw [silent]
    rfl

/-- A frame and a host are in step as a session begins. -/
theorem opened_inStep (salt tag : String) (sources : Table ElementId Json) (link? : Option κ)
    (opensCode : Bool)
    (unmarked : ∀ e ∈ page.elements, (e.attribute? Page.trackingAttribute).getD "" = "") :
    InStep (opened (newFrame page salt sources tag) (newHost link? tag opensCode))
      (switchedOn (newFrame page salt sources tag))
      { newHost link? tag opensCode with isEnabled := true } := by
  have saved := (Overlay.install_rest (o := (newFrame page salt sources tag).overlay.renew) rfl).2.1
  have came : heard tag [HostMessage.enable.encode tag] = [.enable] := heard_append tag [] trivial
  rw [opened_eq]
  refine ⟨⟨rfl, rfl, ⟨rfl, rfl⟩, ⟨rfl, rfl⟩, ?_, ⟨nofun, nofun⟩, nofun, ?_, ⟨[], rfl, nofun, ?_⟩, ?_⟩,
    rfl, rfl, rfl, rfl⟩
  · exact (Overlay.install_atWork unmarked rfl rfl).say []
  · intro m hm
    have only : m ∈ heard tag [HostMessage.enable.encode tag] := hm
    rw [came] at only
    exact Or.inl (List.mem_singleton.mp only)
  · intro s
    show (heard tag [HostMessage.enable.encode tag] ++ []).foldl _ _ = _
    rw [came]
    rfl
  · intro id
    show Overlay.Displays _ id ((heard tag [HostMessage.enable.encode tag]).foldl _ _)
    rw [came]
    intro name value
    constructor
    · rintro ⟨look, found, -⟩
      rw [show (switchedOn (newFrame page salt sources tag)).overlay.session.saved = [] from saved] at found
      cases found
    · exact nofun

/-! ### Sessions -/

/-- What becomes of a workbench in a session. -/
inductive Session : Workbench κ → Prop where
  /-- A session begins, over a page without marks. -/
  | opened {page : Page Hook} (salt tag : String) (sources : Table ElementId Json) (link? : Option κ)
      (opensCode : Bool)
      (unmarked : ∀ e ∈ page.elements, (e.attribute? Page.trackingAttribute).getD "" = "") :
      Session (opened (newFrame page salt sources tag) (newHost link? tag opensCode))
  /-- The host is asked for a preview or an edit, or hears an answer from the backend. -/
  | order {w : Workbench κ} (c : Host.Command) (styling : c.isStyling = true) (session : Session w) :
      Session (w.onHost fun h => (h.run c).1)
  /-- The overlay hears an event on the page, any but a double click. -/
  | event {w : Workbench κ} (t : Trigger) (e : Event) (single : t ≠ .doubleClick)
      (targets : w.frame.overlay.Targets e.target?) (session : Session w) :
      Session (w.setOverlay (w.frame.overlay.reactTo t e).1)
  /-- Some of the messages that wait on a side are delivered. -/
  | deliver {w : Workbench κ} (side : Side) (n : Nat) (session : Session w) :
      Session (delivery.drain side n { w with fault? := none }).1

/-- **In a session, frame and host are in step.** -/
theorem Session.inStep {w : Workbench κ} (session : Session w) : ∃ f h, InStep w f h := by
  induction session with
  | opened salt tag sources link? opensCode unmarked =>
    exact ⟨_, _, opened_inStep salt tag sources link? opensCode unmarked⟩
  | order c styling _ ih =>
    obtain ⟨f, h, inStep⟩ := ih
    have frank := Host.run_frank styling ⟨inStep.uses, .start inStep.told⟩
    refine ⟨f, { (h.run c).1 with told := [] }, ?_⟩
    unfold onHost
    rw [inStep.host]
    exact inStep.order frank (Host.run_tag styling)
  | event t e single targets _ ih =>
    obtain ⟨f, h, inStep⟩ := ih
    have same : ∀ {w : Workbench κ}, w.frame? = some f → w.frame = f := by
      intro w there
      unfold frame
      rw [there]
      rfl
    rw [same inStep.frame] at targets ⊢
    exact ⟨_, h, inStep.stir (Overlay.reactTo_stirs inStep.atWork single targets)⟩
  | deliver side n _ ih =>
    obtain ⟨f, h, inStep⟩ := ih
    exact (inStep.blame none).drain side n

/-! ### Agreement -/

section Agreement

variable {w : Workbench κ} {f : Frame} {h : Host κ} {s : String} {id : ElementId}

omit [Link κ] in
/-- A message shows last on an element what it leaves of the styles of the element's selector. -/
theorem leaves_suffix {o : Overlay} (registered : Page.Registry.Registered o.registry o.page)
    (points : o.Points s id) {m : HostMessage} (known : m = .enable ∨ m.IsAbout o.Knows) {styles : Styles}
    {shown : List (String × String)} (suffix : styles <:+ shown) :
    m.leaves s styles <:+ o.tally id shown m := by
  have leads := points.resolve? registered
  -- another selector that is known leads to another element
  have apart (s' : String) (knows : o.Knows s') (other : s' ≠ s) :
      o.registry.resolve? o.page s' ≠ some id := by
    obtain ⟨id', points'⟩ := knows
    rw [points'.resolve? registered]
    rintro ⟨⟩
    exact other (points'.1.unique points.1)
  obtain rfl | about := known
  · exact suffix
  · cases m with
    | previewStyle s' new =>
      unfold HostMessage.leaves Overlay.tally
      dsimp only
      by_cases same : s' = s
      · rw [if_pos same, if_pos (same ▸ leads)]
        exact List.suffix_append shown new
      · rw [if_neg same, if_neg (apart s' about same)]
        exact suffix
    | clearPreview selector? =>
      cases selector? with
      | none => exact about.elim
      | some s' =>
        unfold HostMessage.leaves Overlay.tally
        dsimp only
        by_cases same : s' = s
        · rw [if_pos same]
          exact List.nil_suffix
        · rw [if_neg same, if_neg (apart s' about same)]
          exact suffix
    | _ => exact about.elim

omit [Link κ] in
/-- A message about other elements leaves the styles of this one. -/
theorem leaves_unknown {known : String → Prop} (unknown : ¬ known s) {m : HostMessage}
    (about : m = .enable ∨ m.IsAbout known) (styles : Styles) : m.leaves s styles = styles := by
  have other (s' : String) (knows : known s') : s' ≠ s := by
    rintro rfl
    exact unknown knows
  obtain rfl | about := about
  · rfl
  · cases m with
    | previewStyle s' new => exact if_neg (other s' about)
    | clearPreview selector? =>
      cases selector? with
      | none => exact about.elim
      | some s' => exact if_neg (other s' about)
    | _ => exact about.elim

omit [Link κ] in
/-- **Nothing is missing**: once nothing waits for the frame, what the host means to be shown on an
element is what was shown on it last. -/
theorem InStep.effective_suffix (inStep : InStep w f h) (drained : w.channel.frame.inbox = [])
    (resolved : f.overlay.registry.resolve? f.overlay.page s = some id) :
    h.effective s <:+ w.shownOn f id := by
  obtain ⟨ms, waits, -, leaves⟩ := inStep.toFrame
  obtain rfl : ms = [] := List.map_eq_nil_iff.mp (waits.symm.trans drained)
  have effective := leaves s
  rw [List.append_nil] at effective
  rw [← effective]
  have known := inStep.known
  unfold shownOn
  generalize heard f.tag (w.deliveredTo .frame) = ms at known
  by_cases knows : f.overlay.Knows s
  · obtain ⟨id', points⟩ := knows
    obtain rfl : id' = id :=
      Option.some.inj ((points.resolve? inStep.atWork.registered).symm.trans resolved)
    refine List.foldl_rel (r := fun styles shown => styles <:+ shown) (List.suffix_refl []) ?_
    intro m hm styles shown suffix
    exact leaves_suffix inStep.atWork.registered points (known m hm) suffix
  · have untouched : ms.foldl (HostMessage.leaves s) [] = [] := by
      refine List.foldlRecOn (motive := fun styles => styles = []) ms _ rfl fun styles none m hm => ?_
      rw [leaves_unknown knows (known m hm), none]
    rw [untouched]
    exact List.nil_suffix

/-- The overrides that the frame holds on an element are the effective styles of a selector, no more and
no less. -/
def Agrees (f : Frame) (h : Host κ) (s : String) (id : ElementId) : Prop :=
  ∀ name value, f.overlay.Overrides id name value ↔
    ∃ property, (property, value) ∈ h.effective s ∧ cssText property = name

/-- **When frame and host agree.** In a session, once nothing waits for the frame, the overrides on the
element that a selector leads to are the effective styles of the selector exactly if every property
that was shown on the element since its look was last given back is still among the effective styles,
and no two effective styles have one name in the inline style with different values. -/
theorem agrees_iff (session : Session w) (frame : w.frame? = some f) (host : w.host? = some h)
    (drained : w.channel.frame.inbox = [])
    (resolved : f.overlay.registry.resolve? f.overlay.page s = some id) :
    Agrees f h s id ↔
      (∀ x ∈ w.shownOn f id, ∃ e ∈ h.effective s, cssText e.1 = cssText x.1) ∧
      ∀ a ∈ h.effective s, ∀ b ∈ h.effective s, cssText a.1 = cssText b.1 → a.2 = b.2 := by
  obtain ⟨f', h', inStep⟩ := session.inStep
  obtain rfl := Option.some.inj (frame.symm.trans inStep.frame)
  obtain rfl := Option.some.inj (host.symm.trans inStep.host)
  obtain ⟨before, shown⟩ := inStep.effective_suffix drained resolved
  have displays := inStep.displays id
  rw [← shown] at displays ⊢
  rw [← Overlay.latest_eq_iff]
  unfold Agrees
  simp only [displays _ _]

end Agreement

/-- A page with one paragraph. -/
def paragraph : Page Hook where
  elements := [
    { tag := "html", children := [.element Page.head, .element Page.body] }, { tag := "head" },
    { tag := "body", children := [.element 3] }, Element.ofTag "p" [("id", "intro")]]

/-- The selector that is given out for the paragraph. -/
def paragraphSelector : String := "#intro[data-liveedit-id=\"el-1-abcdef\"]"

/-- The backend tells that the first edit was written. -/
def firstWritten : Json :=
  (Response.styles {
    success := true, selector := paragraphSelector, applied := ["fontSize"], failed := []
    path? := none, error? := none, attempted := [], entryId? := some (Host.idText 1) }).toJson

/-- A session over the paragraph, with a backend that writes one edit. -/
def paragraphOpened : Workbench ScriptedLink :=
  opened (newFrame paragraph "abcdef" [] "page") (newHost (some ⟨[.ok [firstWritten]]⟩) "page" false)

/-- The paragraph is clicked, and the host hears that it is selected. -/
def paragraphSelected : Workbench ScriptedLink :=
  let clicked := paragraphOpened.setOverlay
    (paragraphOpened.frame.overlay.reactTo .click { type := "click", target? := some 3 }).1
  (delivery.drain .host 1 { clicked with fault? := none }).1

/-- A color is shown on the paragraph. -/
def colorShown : Workbench ScriptedLink :=
  let asked := paragraphSelected.onHost fun h => (h.run (.previewStyle "color" "red")).1
  (delivery.drain .frame 1 { asked with fault? := none }).1

theorem colorShown_session : Session colorShown := by
  refine .deliver .frame 1 (.order (.previewStyle "color" "red") rfl (.deliver .host 1
    (.event .click { type := "click", target? := some 3 } (by decide) ?_
      (.opened "abcdef" "page" [] _ false (by decide)))))
  rintro _ ⟨⟩
  exact ⟨by decide +kernel, by decide +kernel⟩

/-- A color that is shown is all that is shown. -/
theorem colorShown_agrees : ∃ f h, colorShown.frame? = some f ∧ colorShown.host? = some h ∧
    Agrees f h paragraphSelector 3 := by
  obtain ⟨f, frame⟩ := Option.isSome_iff_exists.mp (by decide +kernel : colorShown.frame?.isSome = true)
  obtain ⟨h, host⟩ := Option.isSome_iff_exists.mp (by decide +kernel : colorShown.host?.isSome = true)
  have resolved : (colorShown.frame?.bind fun f =>
      f.overlay.registry.resolve? f.overlay.page paragraphSelector) = some 3 := by decide +kernel
  have effective : (colorShown.host?.map fun h => h.effective paragraphSelector) =
      some [("color", "red")] := by decide +kernel
  have shown : (colorShown.frame?.map fun f => colorShown.shownOn f 3) =
      some [("color", "red")] := by decide +kernel
  rw [frame] at resolved shown
  rw [host] at effective
  have effective : h.effective paragraphSelector = [("color", "red")] := Option.some.inj effective
  have shown : colorShown.shownOn f 3 = [("color", "red")] := Option.some.inj shown
  refine ⟨f, h, frame, host, (agrees_iff colorShown_session frame host
    (List.isEmpty_iff.mp (by decide +kernel)) resolved).mpr ?_⟩
  rw [effective, shown]
  decide

/-- Over the color, an edit is written, and then the color is given up. -/
def colorGivenUp : Workbench ScriptedLink :=
  let applied := colorShown.onHost fun h => (h.run (.applyStyles [("fontSize", "20px")] false)).1
  let asked := applied.onHost fun h => (h.run .clearPreview).1
  (delivery.drain .frame 2 { asked with fault? := none }).1

/-- Nothing waits, and the color is shown still, though it is no effective style of the paragraph any
more. -/
theorem colorGivenUp_disagrees : ∃ f h, Session colorGivenUp ∧ colorGivenUp.frame? = some f ∧
    colorGivenUp.host? = some h ∧ colorGivenUp.channel.frame.inbox = [] ∧
    colorGivenUp.channel.host.inbox = [] ∧
    f.overlay.registry.resolve? f.overlay.page paragraphSelector = some 3 ∧
    ¬ Agrees f h paragraphSelector 3 := by
  have session : Session colorGivenUp :=
    .deliver .frame 2 (.order .clearPreview rfl
      (.order (.applyStyles [("fontSize", "20px")] false) rfl colorShown_session))
  obtain ⟨f, frame⟩ := Option.isSome_iff_exists.mp (by decide +kernel : colorGivenUp.frame?.isSome = true)
  obtain ⟨h, host⟩ := Option.isSome_iff_exists.mp (by decide +kernel : colorGivenUp.host?.isSome = true)
  have resolved : (colorGivenUp.frame?.bind fun f =>
      f.overlay.registry.resolve? f.overlay.page paragraphSelector) = some 3 := by decide +kernel
  have effective : (colorGivenUp.host?.map fun h => h.effective paragraphSelector) =
      some [("fontSize", "20px")] := by decide +kernel
  have color : (colorGivenUp.frame?.map fun f =>
      (Table.contains (f.overlay.look 3).styles "color",
        Table.get? (f.overlay.page.element 3).style "color")) = some (true, some "red") := by
    decide +kernel
  rw [frame] at resolved color
  rw [host] at effective
  have effective : h.effective paragraphSelector = [("fontSize", "20px")] := Option.some.inj effective
  refine ⟨f, h, session, frame, host, List.isEmpty_iff.mp (by decide +kernel),
    List.isEmpty_iff.mp (by decide +kernel), resolved, fun agrees => ?_⟩
  obtain ⟨there, value⟩ := Prod.mk.inj (Option.some.inj color)
  have held := (Overlay.overrides_iff_look f.overlay 3 "color" "red").mpr ⟨there, value⟩
  obtain ⟨property, mem, -⟩ := (agrees "color" "red").mp held
  rw [effective] at mem
  simp at mem

end Retouch.Workbench
