import Retouch.Overlay.Frame
import Retouch.Proofs.Overlay.Wearing
import Retouch.Proofs.Page.Tree

/-!
# A page under the overlay

While the overlay lies over a page, it adds elements to it, registers listeners, shows styles and tracks
elements. `Covers` says what remains of the page under all this: its elements host the overlay's own as
guests, look underneath as they did, and have the listeners that they had. Everything that the overlay
does when it hears an event preserves this (`Covers.reactTo`), and so does what it does when the host asks
it to (`Covers.applyPreview` and the others). Texts are left out here: the user changes them.
-/

namespace Retouch

open Page (Hosts Leaves trackingAttribute)

namespace Page

/-! ### Listeners registered and taken off -/

variable {κ : Type} [DecidableEq κ]

/-- Listeners are no elements. -/
theorem elements_listen (rs : List (Registration κ)) (p : Page κ) :
    (rs.foldl (fun p r => p.listen r) p).elements = p.elements := by
  refine List.foldlRecOn (motive := fun q : Page κ => q.elements = p.elements) _ _ rfl fun q same r _ => ?_
  unfold Page.listen
  split <;> exact same

/-- New listeners come last. -/
theorem listen_all (p : Page κ) {rs : List (Registration κ)} (new : ∀ r ∈ rs, r ∉ p.registrations)
    (distinct : rs.Nodup) :
    rs.foldl (fun p r => p.listen r) p = { p with registrations := p.registrations ++ rs } := by
  induction rs generalizing p with
  | nil => rw [List.append_nil]; rfl
  | cons r rs ih =>
    obtain ⟨first, later⟩ := List.forall_mem_cons.mp new
    obtain ⟨fresh, distinct⟩ := List.nodup_cons.mp distinct
    have listened : p.listen r = { p with registrations := p.registrations ++ [r] } := by
      rw [listen, if_neg (by simpa using first)]
    rw [List.foldl_cons, listened, ih _ (fun r' mem => ?_) distinct, List.append_assoc]
    · rfl
    · rw [List.mem_append, List.mem_singleton, not_or]
      exact ⟨later r' mem, fun eq => fresh (eq ▸ mem)⟩

/-- Listeners are taken off from between others. -/
theorem unlisten_all (p : Page κ) {before rs after : List (Registration κ)}
    (registered : p.registrations = before ++ rs ++ after) (others : ∀ r ∈ rs, r ∉ before) :
    rs.foldl (fun p r => p.unlisten r) p = { p with registrations := before ++ after } := by
  induction rs generalizing p with
  | nil =>
    rw [List.append_nil] at registered
    rw [← registered]
    rfl
  | cons r rs ih =>
    obtain ⟨first, later⟩ := List.forall_mem_cons.mp others
    have left : (p.unlisten r).registrations = before ++ rs ++ after := by
      rw [unlisten, registered, List.append_assoc, List.erase_append_right _ first, List.cons_append,
        List.erase_cons_head, List.append_assoc]
    rw [List.foldl_cons, ih _ left later]
    rfl

end Page

/-! ### What the overlay adds -/

namespace OverlaySession

/-- What the overlay has added to the body. -/
def bodyGuests (s : OverlaySession) : List ElementId :=
  s.highlight?.toList ++ s.selection?.toList ++ (s.textEdit?.map (·.frame)).toList

/-- What the overlay has added to an element of the page. -/
def guests (s : OverlaySession) (id : ElementId) : List ElementId :=
  if id = Page.head then s.sheet?.toList else if id = Page.body then s.bodyGuests else []

/-- What the overlay has added. -/
def added (s : OverlaySession) : List ElementId := s.sheet?.toList ++ s.bodyGuests

/-- What was added to the body has changed. -/
theorem guests_update (s s' : OverlaySession) (sheet : s'.sheet? = s.sheet?) {l : List ElementId}
    (body : s'.bodyGuests = l) (id : ElementId) : s'.guests id = Function.update s.guests Page.body l id := by
  subst body
  by_cases body : id = Page.body
  · rw [body, Function.update_self]
    rfl
  · rw [Function.update_of_ne body]
    unfold guests
    rw [if_neg body, if_neg body, sheet]

variable {s : OverlaySession} {id child : ElementId}

/-- What was added to the body was added nowhere else. -/
theorem eq_body_of_mem (distinct : s.added.Nodup) (mem : child ∈ s.bodyGuests) (there : child ∈ s.guests id) :
    id = Page.body := by
  unfold guests at there
  obtain ⟨-, -, apart⟩ := List.nodup_append.mp distinct
  split at there
  · exact absurd rfl (apart child there child mem)
  · split at there
    · assumption
    · cases there

/-- What was added to the head was added nowhere else. -/
theorem eq_head_of_mem (distinct : s.added.Nodup) (mem : child ∈ s.sheet?.toList) (there : child ∈ s.guests id) :
    id = Page.head := by
  unfold guests at there
  obtain ⟨-, -, apart⟩ := List.nodup_append.mp distinct
  split at there
  · assumption
  · split at there
    · exact absurd rfl (apart child mem child there)
    · cases there

end OverlaySession

namespace Overlay

/-- The listeners of an editor are a session's, on the element in which the text is edited. -/
theorem editor_of_mem {k : Nat} {input : ElementId} {r : Registration Hook} (mem : r ∈ editorListeners k input) :
    r.place? = some input ∧ ∃ trigger, r.listener = .tool ⟨k, trigger⟩ := by
  unfold editorListeners editorListener at mem
  obtain rfl | mem := List.mem_cons.mp mem
  · exact ⟨rfl, _, rfl⟩
  · rw [List.mem_singleton.mp mem]
    exact ⟨rfl, _, rfl⟩

/-- The listeners of the open editor. -/
def editors (o : Overlay) : List (Registration Hook) :=
  match o.session.textEdit? with
  | some edit => editorListeners o.sessionNumber edit.input
  | none => []

/-- The overlay lies over a page whose elements looked like `before`, apart from the styles that were
`shown` on them; `rs` are the listeners apart from those of an open editor. -/
structure Covers (base : Page Hook) (before : ElementId → Element) (shown : ElementId → String → Prop)
    (rs : List (Registration Hook)) (o : Overlay) : Prop where
  /-- The page has a body. -/
  there : Page.body < base.elements.length
  /-- The overlay is put on. -/
  installed : o.session.isInstalled = true
  /-- The overlay's own elements are guests. -/
  hosts : Hosts base o.session.guests o.page
  /-- They are new elements. -/
  added : ∀ id ∈ o.session.added, base.elements.length ≤ id ∧ id < o.page.elements.length
  /-- They are told apart. -/
  distinct : o.session.added.Nodup
  /-- So is what a text is edited in. -/
  input : ∀ edit, o.session.textEdit? = some edit → base.elements.length ≤ edit.input
  /-- The page's elements look underneath as they did. -/
  worn : ∀ id < base.elements.length, Worn (before id) (o.look id) (shown id) (o.page.element id)
  /-- The listeners are these. -/
  registrations : o.page.registrations = rs ++ o.editors
  /-- The overlay's own ones on the whole page belong to its session. -/
  own : ∀ r ∈ rs, ∀ h, r.listener = .tool h → r.place? = none ∧ h.session = o.sessionNumber

/-- A frame that is drawn holds what it held. -/
theorem children_drawAround (r : Rect) (frame : Element) : (drawAround r frame).children = frame.children := rfl

theorem tell_session (o : Overlay) (m : FrameMessage) : (o.tell m).session = o.session := rfl

theorem draw_session (o : Overlay) (frame? element? : Option ElementId) :
    (o.draw frame? element?).session = o.session := by
  unfold draw
  split <;> rfl

theorem drawHighlight_session (o : Overlay) (element? : Option ElementId) :
    (o.drawHighlight element?).session = o.session := draw_session o _ element?

theorem drawSelection_session (o : Overlay) (element? : Option ElementId) :
    (o.drawSelection element?).session = o.session := draw_session o _ element?

/-! ### The frame of the editor -/

/-- What a text is edited in: the frame. -/
def textFrame : Element := Element.ofTag "div" [("id", textFrameId)]

/-- What a text is edited in: the editor in the frame. -/
def textInput (oldText : String) : Element :=
  { Element.ofTag "div" [("id", textInputId)] with isEditable := true, children := [.text oldText] }

theorem bare_textFrame (child : ElementId) : .element child ∉ textFrame.children := List.not_mem_nil

theorem bare_textInput (oldText : String) (child : ElementId) : .element child ∉ (textInput oldText).children :=
  fun mem => nomatch List.mem_singleton.mp mem

/-- The frame is made and drawn around an element. -/
def withFrame (p : Page Hook) (id : ElementId) : Page Hook :=
  (p.create textFrame).1.modify p.elements.length (drawAround ((p.create textFrame).1.element id).rect)

/-- The editor is put into the frame. -/
def withEditor (p : Page Hook) (id : ElementId) : Page Hook :=
  (withFrame p id).add p.elements.length (textInput (p.element id).directText)

/-- To open the editor, the frame is put into the body, and what happens in the editor is listened to. -/
theorem openTextEdit_page (o : Overlay) (id : ElementId) :
    (o.openTextEdit id).1.page =
      (editorListeners o.sessionNumber (withFrame o.page id).elements.length).foldl (fun p r => p.listen r)
        ((withEditor o.page id).append Page.body o.page.elements.length) := rfl

section Frame

variable {base p : Page Hook} {guests : ElementId → List ElementId} {n : Nat}

theorem length_withFrame (p : Page Hook) (id : ElementId) :
    (withFrame p id).elements.length = p.elements.length + 1 :=
  (Page.length_modify ..).trans (Page.length_create ..)

theorem lt_length_withFrame (p : Page Hook) (id : ElementId) : p.elements.length < (withFrame p id).elements.length :=
  Nat.lt_of_lt_of_eq (Nat.lt_succ_self _) (length_withFrame p id).symm

theorem hosts_withFrame (hosts : Hosts base guests p) (id : ElementId) : Hosts base guests (withFrame p id) :=
  (hosts.create bare_textFrame).modify (children_drawAround ..)

theorem isLoose_withFrame (closed : p.IsClosed) (id : ElementId) : (withFrame p id).IsLoose p.elements.length :=
  (Page.isLoose_create closed bare_textFrame).congr fun other =>
    Page.element_modify_same (g := Element.children) (children_drawAround ..) other

theorem leaves_withFrame (within : n ≤ p.elements.length) (id : ElementId) : Leaves n p (withFrame p id) :=
  (Leaves.create within _).trans (.modify_guest n _ within _)

theorem leaves_withEditor (within : n ≤ p.elements.length) (id : ElementId) : Leaves n p (withEditor p id) :=
  (leaves_withFrame within id).trans (.add (Nat.le_trans within (Nat.le_of_lt (lt_length_withFrame p id))) ..)

theorem lt_length_withEditor (p : Page Hook) (id : ElementId) :
    p.elements.length < (withEditor p id).elements.length :=
  Nat.lt_trans (lt_length_withFrame p id) (Page.lt_length_add ..)

/-- The page hosts the frame and the editor in it, though none of its elements holds them yet. -/
theorem hosts_withEditor (hosts : Hosts base guests p) (id : ElementId) : Hosts base guests (withEditor p id) := by
  have added := (hosts_withFrame hosts id).add (bare_textInput (p.element id).directText) (lt_length_withFrame p id)
  refine added.congr_guests fun other own => ?_
  exact (Function.update_of_ne (Nat.ne_of_lt (Nat.lt_of_lt_of_le own hosts.longer)) ..).symm

theorem isLoose_withEditor (closed : p.IsClosed) (id : ElementId) : (withEditor p id).IsLoose p.elements.length := by
  have bare := bare_textInput (p.element id).directText
  have closed₁ := (hosts_withFrame (Hosts.start closed) id).closed
  exact ((isLoose_withFrame closed id).create bare).append (Page.isLoose_create closed₁ bare)
    (Nat.ne_of_lt (lt_length_withFrame p id)) _

end Frame

namespace Covers

variable {base : Page Hook} {before before' : ElementId → Element} {shown shown' : ElementId → String → Prop}
  {rs rs' : List (Registration Hook)} {o o' : Overlay} {id : ElementId}

/-! ### Changes that do not matter -/

/-- The registry and what was told do not matter to the page. -/
theorem say (covers : Covers base before shown rs o) (registry : Page.Registry) (sent : List FrameMessage) :
    Covers base before shown rs { o with registry, sent } :=
  ⟨covers.there, covers.installed, covers.hosts, covers.added, covers.distinct, covers.input, covers.worn,
    covers.registrations, covers.own⟩

theorem tell (covers : Covers base before shown rs o) (m : FrameMessage) :
    Covers base before shown rs (o.tell m) := covers.say o.registry _

/-- Nor does it matter what is hovered or selected. -/
theorem remember (covers : Covers base before shown rs o) (hovered? selected? : Option ElementId) :
    Covers base before shown rs { o with session := { o.session with hovered?, selected? } } :=
  ⟨covers.there, covers.installed, covers.hosts, covers.added, covers.distinct, covers.input, covers.worn,
    covers.registrations, covers.own⟩

theorem congr_before (covers : Covers base before shown rs o) (alike : ∀ id, Alike (before id) (before' id)) :
    Covers base before' shown rs o :=
  ⟨covers.there, covers.installed, covers.hosts, covers.added, covers.distinct, covers.input,
    fun id within => (covers.worn id within).congr (alike id), covers.registrations, covers.own⟩

/-! ### What the page's elements hold -/

/-- The overlay's own elements and listeners change; the page's elements change in what they hold at
most. -/
theorem rehost (covers : Covers base before shown rs o) (saved : o'.session.saved = o.session.saved)
    (installed : o'.session.isInstalled = o.session.isInstalled)
    (hosts : Hosts base o'.session.guests o'.page) (leaves : Leaves base.elements.length o.page o'.page)
    (added : ∀ id ∈ o'.session.added, base.elements.length ≤ id ∧ id < o'.page.elements.length)
    (distinct : o'.session.added.Nodup)
    (input : ∀ edit, o'.session.textEdit? = some edit → base.elements.length ≤ edit.input)
    (registrations : o'.page.registrations = rs' ++ o'.editors)
    (own : ∀ r ∈ rs', ∀ h, r.listener = .tool h → r.place? = none ∧ h.session = o'.sessionNumber) :
    Covers base before shown rs' o' := by
  refine ⟨covers.there, installed.trans covers.installed, hosts, added, distinct, input, fun id within => ?_,
    registrations, own⟩
  have same := leaves.elements id within
  have look : o'.look id = o.look id := by
    unfold Overlay.look Element.attribute?
    rw [saved, congrArg Element.attributes same]
  rw [look]
  exact (covers.worn id within).congr_children same

theorem rearrange (covers : Covers base before shown rs o) {p : Page Hook}
    (hosts : Hosts base o.session.guests p) (leaves : Leaves base.elements.length o.page p)
    (registrations : p.registrations = o.page.registrations) :
    Covers base before shown rs { o with page := p } :=
  covers.rehost rfl rfl hosts leaves
    (fun id mem => ⟨(covers.added id mem).1, Nat.lt_of_lt_of_le (covers.added id mem).2 leaves.longer⟩)
    covers.distinct covers.input (registrations.trans covers.registrations) covers.own

/-- The overlay draws on an element of its own. -/
theorem draw (covers : Covers base before shown rs o) {frame? : Option ElementId}
    (guest : ∀ id, frame? = some id → base.elements.length ≤ id) (element? : Option ElementId) :
    Covers base before shown rs (o.draw frame? element?) := by
  unfold Overlay.draw
  split
  · exact covers
  · exact covers.rearrange (covers.hosts.modify rfl) (.modify_guest _ _ (guest _ rfl) _) rfl
  · exact covers.rearrange (covers.hosts.modify (children_drawAround ..))
      (.modify_guest _ _ (guest _ rfl) _) rfl

theorem drawHighlight (covers : Covers base before shown rs o) (element? : Option ElementId) :
    Covers base before shown rs (o.drawHighlight element?) :=
  covers.draw (fun id eq => (covers.added id (by simp [OverlaySession.added, OverlaySession.bodyGuests, eq])).1)
    element?

theorem drawSelection (covers : Covers base before shown rs o) (element? : Option ElementId) :
    Covers base before shown rs (o.drawSelection element?) :=
  covers.draw (fun id eq => (covers.added id (by simp [OverlaySession.added, OverlaySession.bodyGuests, eq])).1)
    element?

/-- The text of an element is replaced. -/
theorem replaceDirectText (covers : Covers base before shown rs o) (id : ElementId) (new : String) :
    Covers base before shown rs (o.modify id (·.replaceDirectText new)) :=
  covers.rearrange (covers.hosts.replaceDirectText id new) (.modify_children _ _ id _) rfl

/-! ### Snapshots -/

/-- An element is tracked. -/
theorem track (covers : Covers base before shown rs o) (id : ElementId) (tracking : String) :
    Covers base before shown rs (o.modify id (·.setAttribute trackingAttribute tracking)) := by
  refine ⟨covers.there, covers.installed, covers.hosts.modify rfl, fun id mem => ?_, covers.distinct, covers.input,
    fun other within => ?_, covers.registrations, covers.own⟩
  · have new := covers.added id mem
    exact ⟨new.1, Nat.lt_of_lt_of_eq new.2 (Page.length_modify ..).symm⟩
  · have worn := covers.worn other within
    have look : (o.modify id (·.setAttribute trackingAttribute tracking)).look other = o.look other := by
      refine congrArg (fun classes? => (Table.get? o.session.saved other).getD { classes? }) ?_
      refine Page.element_modify_same (g := fun e => e.attribute? "class") ?_ other
      exact (Page.Registry.attribute?_setAttribute ..).trans (if_neg (by decide))
    rw [look]
    by_cases eq : other = id
    · subst eq
      have whole := Nat.lt_of_lt_of_le within covers.hosts.longer
      exact (Page.element_modify_self o.page whole _).symm ▸ worn.track tracking
    · exact (Page.element_modify_ne o.page eq _).symm ▸ worn

theorem snapshot {s : Snapshot} (covers : Covers base before shown rs o)
    (taken : o.snapshot id = .ok (o', s)) :
    Covers base before shown rs o' ∧ o'.session = o.session := by
  obtain ⟨position?, rfl, -⟩ := eq_of_snapshot taken
  have tracked := Page.Registry.snapshot_induction
    (P := fun p => Covers base before shown rs { o with page := p })
    (fun p id tracking covers => covers.track id tracking) o.registry covers id position?
  generalize Page.snapshot o.registry o.page id position? = out at tracked ⊢
  exact ⟨tracked.say _ _, rfl⟩

theorem preciseSnapshot {s : Snapshot} (covers : Covers base before shown rs o)
    (taken : o.preciseSnapshot id = .ok (o', s)) :
    Covers base before shown rs o' ∧ o'.session = o.session := by
  obtain ⟨s₁, first, -⟩ := snapshot_of_precise taken
  exact covers.snapshot first

/-! ### The editor -/

theorem editor_not_mem (covers : Covers base before shown rs o) (input : ElementId) :
    ∀ r ∈ editorListeners o.sessionNumber input, r ∉ rs := by
  intro r mem old
  obtain ⟨place, trigger, tool⟩ := editor_of_mem mem
  cases place.symm.trans (covers.own r old _ tool).1

/-- The editor is closed: what the overlay has added to the body leaves it again. -/
theorem closeTextEdit (covers : Covers base before shown rs o) :
    Covers base before shown rs o.closeTextEdit.1 ∧ o.closeTextEdit.1.session.textEdit? = none := by
  unfold Overlay.closeTextEdit
  split
  · rename_i idle
    exact ⟨covers, idle⟩
  · rename_i edit editing
    refine ⟨?_, rfl⟩
    have registered : o.page.registrations = rs ++ editorListeners o.sessionNumber edit.input ++ [] := by
      rw [covers.registrations, Overlay.editors, editing, List.append_nil]
    rw [Page.unlisten_all o.page registered (covers.editor_not_mem edit.input)]
    have bodyGuests : o.session.bodyGuests =
        o.session.highlight?.toList ++ o.session.selection?.toList ++ [edit.frame] := by
      rw [OverlaySession.bodyGuests, editing]
      rfl
    have mem : edit.frame ∈ o.session.bodyGuests := by
      rw [bodyGuests]
      exact List.mem_append_right _ (List.mem_singleton_self _)
    have distinct := covers.distinct
    have fresh : edit.frame ∉ o.session.highlight?.toList ++ o.session.selection?.toList := by
      obtain ⟨-, nodup, -⟩ := List.nodup_append.mp distinct
      rw [bodyGuests] at nodup
      obtain ⟨-, -, apart⟩ := List.nodup_append.mp nodup
      exact fun old => apart _ old _ (List.mem_singleton_self _) rfl
    let q : Page Hook := { o.page with registrations := rs ++ [] }
    have hosts : Hosts base o.session.guests q := covers.hosts.congr rfl fun _ => rfl
    have left := hosts.remove
      (covers.added _ (List.mem_append_right _ mem)).1 covers.there mem
      fun id _ there => OverlaySession.eq_body_of_mem distinct mem there
    have quiet : Leaves base.elements.length o.page q := .congr rfl
    have leaves := quiet.trans (.remove _ q edit.frame)
    have fewer : ({ o.session with textEdit? := none } : OverlaySession).added.Sublist o.session.added := by
      unfold OverlaySession.added
      rw [bodyGuests]
      exact ((List.nil_sublist _).append_left _).append_left _
    refine covers.rehost rfl rfl (left.congr_guests fun id _ => ?_) leaves (fun id there => ?_)
      (distinct.sublist fewer) (fun _ none => nomatch none) ?_ covers.own
    · refine OverlaySession.guests_update o.session { o.session with textEdit? := none } rfl ?_ id
      show o.session.highlight?.toList ++ o.session.selection?.toList ++ [] = o.session.bodyGuests.erase _
      rw [bodyGuests, List.erase_append_right _ fresh, List.erase_cons_head]
    · have new := covers.added id (fewer.subset there)
      exact ⟨new.1, Nat.lt_of_lt_of_le new.2 leaves.longer⟩
    · exact Page.registrations_remove q edit.frame

/-- The text of the editor is committed: the editor is closed. -/
theorem commitTextEdit (covers : Covers base before shown rs o) :
    Covers base before shown rs o.commitTextEdit.1 ∧ o.commitTextEdit.1.session.textEdit? = none := by
  have closed := covers.closeTextEdit
  unfold Overlay.commitTextEdit
  generalize o.closeTextEdit = out at closed ⊢
  obtain ⟨o₁, edit?⟩ := out
  obtain ⟨closed, idle⟩ := closed
  cases edit? with
  | none => exact ⟨closed, idle⟩
  | some edit =>
    dsimp only
    split
    · exact ⟨closed, idle⟩
    · have reworded := closed.replaceDirectText edit.element (Text.stripString (o₁.page.text edit.input))
      split
      · exact ⟨reworded, idle⟩
      · rename_i o₂ s taken
        obtain ⟨told, session⟩ := reworded.preciseSnapshot taken
        have drawn := (told.drawSelection o₂.session.selected?).tell
          (.textEdit s.selector edit.oldText (Text.stripString (o₁.page.text edit.input)) s.position?)
        exact ⟨drawn, by rw [tell_session, drawSelection_session, session]; exact idle⟩

/-- The editor is opened on an element: a frame with the editor in it becomes a guest of the body. -/
theorem openTextEdit (covers : Covers base before shown rs o) (idle : o.session.textEdit? = none)
    (id : ElementId) : Covers base before shown rs (o.openTextEdit id).1 := by
  have guest := covers.hosts.longer
  let frame := o.page.elements.length
  let input := (withFrame o.page id).elements.length
  let q := (withEditor o.page id).append Page.body frame
  have within : frame < (withEditor o.page id).elements.length := lt_length_withEditor o.page id
  have framed := hosts_withEditor covers.hosts id
  have hosts := framed.append guest within (isLoose_withEditor covers.hosts.closed id)
    (Nat.lt_of_lt_of_le covers.there framed.longer)
  have last : Leaves base.elements.length (withEditor o.page id) q := .append _ _ Page.body frame
  have leaves := (leaves_withEditor guest id).trans last
  have registrations : q.registrations = rs := by
    refine (Page.registrations_append ..).trans ((Page.registrations_append ..).trans ?_)
    rw [← List.append_nil rs]
    refine covers.registrations.trans ?_
    rw [Overlay.editors, idle]
  have page : (o.openTextEdit id).1.page = { q with
      registrations := q.registrations ++ editorListeners o.sessionNumber input } := by
    rw [openTextEdit_page]
    refine Page.listen_all q ?_ ?_
    · rw [registrations]
      exact covers.editor_not_mem input
    · simp [editorListeners, editorListener]
  have bodyGuests : (o.openTextEdit id).1.session.bodyGuests = o.session.guests Page.body ++ [frame] := by
    show o.session.highlight?.toList ++ o.session.selection?.toList ++ [frame] = o.session.bodyGuests ++ [frame]
    rw [OverlaySession.bodyGuests, idle, Option.map_none, Option.toList_none, List.append_nil]
  have added : (o.openTextEdit id).1.session.added = o.session.added ++ [frame] :=
    (congrArg (o.session.sheet?.toList ++ ·) bodyGuests).trans (List.append_assoc ..).symm
  refine covers.rehost rfl rfl ?_ ?_ ?_ ?_ ?_ ?_ covers.own
  · rw [page]
    have guests := OverlaySession.guests_update o.session (o.openTextEdit id).1.session rfl bodyGuests
    exact (hosts.congr_guests fun other _ => guests other).congr rfl fun _ => rfl
  · rw [page]
    exact leaves.trans (.congr rfl)
  · rw [added, page]
    intro other mem
    obtain old | new := List.mem_append.mp mem
    · have new := covers.added other old
      exact ⟨new.1, Nat.lt_of_lt_of_le new.2 leaves.longer⟩
    · rw [List.mem_singleton.mp new]
      exact ⟨guest, Nat.lt_of_lt_of_le within last.longer⟩
  · rw [added]
    refine List.nodup_append.mpr ⟨covers.distinct, by simp, fun other old new mem => ?_⟩
    rw [List.mem_singleton.mp mem]
    exact Nat.ne_of_lt (covers.added other old).2
  · intro edit editing
    cases editing
    exact (hosts_withFrame covers.hosts id).longer
  · rw [page, registrations]
    rfl

end Covers

end Overlay

end Retouch
