import Retouch.Proofs.Overlay.Wearing

/-!
# Looks given back

Calls show styles on elements for the time being, again and again and under several names of one property, and
take them back from one element or from all. The overlay saves of each element what it had when a property was
first shown since its look was last given back. So however the calls came, an element that is cleared has the
classes and the values of its inline style that it had then, and the other elements stay as they are
(`clear_gives_back`).

One element is touched by calls that are not about it: the frame around the selected element is drawn anew when
styles are shown on that one. Its look is given back if it was drawn that way to begin with (`FrameDrawn`).
-/

namespace Retouch

/-- A call that shows styles for the time being, or takes them back. -/
inductive PreviewCall where
  /-- Styles are shown on the element of a selector. -/
  | apply (selector : String) (styles : Table String String)
  /-- They are taken back from the element of a selector, or from all elements. -/
  | clear (selector? : Option String)

namespace Overlay

variable {o : Overlay} {id : ElementId} {e e₀ : Element} {look : SavedLook} {shown : String → Prop} {r : Rect}
  {before? : Option Element}

/-! ### Calls -/

/-- A call done. -/
def previewBy (o : Overlay) : PreviewCall → Overlay
  | .apply s styles => (o.applyPreview s styles).1
  | .clear selector? => o.clearPreview selector?

/-- Calls done one after the other. -/
def previewAll (o : Overlay) (calls : List PreviewCall) : Overlay := calls.foldl previewBy o

/-- The call shows styles on the element. -/
def showsOn (o : Overlay) (id : ElementId) : PreviewCall → Bool
  | .apply s _ => o.registry.resolve? o.page s == some id
  | .clear _ => false

/-- The call takes back what is shown on the element. -/
def clears (o : Overlay) (id : ElementId) : PreviewCall → Bool
  | .apply .. => false
  | .clear none => true
  | .clear (some s) => o.registry.resolve? o.page s == some id

/-- What an element was before styles were first shown on it since it was last cleared, after one more call. There
is none if nothing was shown on it since. -/
def beforeCall (o : Overlay) (id : ElementId) (before? : Option Element) (call : PreviewCall) : Option Element :=
  if o.clears id call then none
  else if o.showsOn id call then some (before?.getD (o.page.element id))
  else before?

/-- What an element was before styles were first shown on it since it was last cleared, after calls. -/
def beforeCalls (id : ElementId) : Overlay → Option Element → List PreviewCall → Option Element
  | _, before?, [] => before?
  | o, before?, call :: calls => beforeCalls id (o.previewBy call) (o.beforeCall id before? call) calls

/-- An element has its look again, the one that it had before styles were shown on it. -/
structure HasAgain (e₀ e : Element) : Prop where
  /-- It is the same in what neither attributes nor styles say. -/
  bare : e.bare = e₀.bare
  /-- It holds the same. -/
  children : e.children = e₀.children
  /-- It has the same attributes, and so the same classes, or none as before. -/
  attributes : ∀ name, e.attribute? name = e₀.attribute? name
  /-- Its inline style has the same values. -/
  style : ∀ name, Table.get? e.style name = Table.get? e₀.style name

/-- What comes of an element that is cleared: it has its look again, and if nothing was shown on it, it stays as it
is. -/
def IsCleared (before? : Option Element) (e e' : Element) : Prop :=
  match before? with
  | some e₀ => HasAgain e₀ e'
  | none => e' = e

/-! ### The frame around the selected element -/

/-- What is set of the style of a frame that is drawn. -/
def frameStyles (r : Rect) : List (String × String) :=
  [("top", pixels r.top), ("left", pixels r.left), ("width", pixels r.width), ("height", pixels r.height),
    ("display", "block")]

/-- An element has the look of a frame that is drawn around a rectangle. -/
def IsDrawn (r : Rect) (e : Element) : Prop :=
  ∀ s ∈ frameStyles r, Table.get? e.style s.1 = some s.2 ∧ s.1 ∉ e.important

/-- If the element is the frame around the selected element, it is drawn around that one. -/
def FrameDrawn (o : Overlay) (id : ElementId) : Prop :=
  ∀ selected, o.session.selection? = some id → o.session.selected? = some selected →
    IsDrawn (o.page.element selected).rect (o.page.element id)

theorem drawAround_eq (r : Rect) (e : Element) :
    drawAround r e = (frameStyles r).foldl (fun e s => e.setStyle s.1 s.2 false) e := rfl

/-- A frame that is drawn has that look. -/
theorem isDrawn_drawAround (r : Rect) (e : Element) : IsDrawn r (drawAround r e) := by
  have style (name : String) : Table.get? (drawAround r e).style name =
      if name == "display" then some "block" else if name == "height" then some (pixels r.height)
      else if name == "width" then some (pixels r.width) else if name == "left" then some (pixels r.left)
      else if name == "top" then some (pixels r.top) else Table.get? e.style name := by
    simp only [drawAround, Element.setStyle, Table.get?_set]
  intro s mem
  simp only [frameStyles, List.mem_cons, List.not_mem_nil, or_false] at mem
  rw [style]
  obtain rfl | rfl | rfl | rfl | rfl := mem <;> simp [drawAround, Element.setStyle]

/-- To draw a frame leaves its children and its attributes alone. -/
theorem drawAround_resembles (r : Rect) (e : Element) : Resembles e (drawAround r e) := ⟨rfl, fun _ _ => rfl⟩

/-- A value that an element has underneath is set on it. -/
theorem Worn.setStyle_same {name value : String} (worn : Worn e₀ look shown e)
    (has : Table.get? e₀.style name = some value) (unimportant : name ∉ e₀.important) :
    Worn e₀ look shown (e.setStyle name value false) := by
  refine ⟨worn.bare, worn.attributes, worn.classes, fun other => ?_, fun other unsaved => ?_, worn.saved,
    worn.distinct⟩
  · have under := worn.style other
    unfold beneath at under ⊢
    cases there : Table.get? look.styles other with
    | some before => rwa [there] at under
    | none =>
      rw [there] at under
      refine (Table.get?_set ..).trans ?_
      split
      · rename_i same
        rw [eq_of_beq same, has]
      · exact under
  · show other ∈ e.important.filter (· != name) ↔ _
    rw [List.mem_filter, worn.important other unsaved]
    refine and_iff_left_of_imp fun mem => ?_
    have ne : other ≠ name := fun same => unimportant (same ▸ mem.1)
    simpa using ne

/-- **A frame wears what it wore when it is drawn anew**, if it was drawn so before. -/
theorem Worn.drawAround (drawn : IsDrawn r e₀) (worn : Worn e₀ look shown e) :
    Worn e₀ look shown (drawAround r e) := by
  rw [drawAround_eq]
  refine List.foldlRecOn (motive := fun e => Worn e₀ look shown e) _ _ worn fun e worn s mem => ?_
  exact worn.setStyle_same (drawn s mem).1 (drawn s mem).2

/-! ### What calls leave alone -/

/-- To show properties changes the style of an element only. -/
theorem shownOn_bare (o : Overlay) (id : ElementId) (styles : Table String String) :
    (o.shownOn id styles).1.bare = (o.page.element id).bare := by
  refine List.foldlRecOn (motive := fun acc : Element × SavedLook × Text => acc.1.bare = (o.page.element id).bare)
    _ _ rfl fun acc same s _ => same

theorem dressed_bare (o : Overlay) (id : ElementId) (styles : Table String String) :
    (o.dressed id styles).bare = (o.page.element id).bare := by
  unfold dressed
  split
  · exact shownOn_bare o id styles
  · exact shownOn_bare o id styles

theorem restoreLook_bare (look : SavedLook) (e : Element) : (restoreLook look e).bare = e.bare := by
  unfold restoreLook
  dsimp only
  generalize styled : look.styles.foldl _ e = out
  have same : out.bare = e.bare := by
    rw [← styled]
    refine List.foldlRecOn (motive := fun out : Element => out.bare = e.bare) _ _ rfl fun out same s _ => ?_
    split <;> exact same
  split <;> exact same

/-- What calls leave alone: the selection, the frame around it, and what elements are apart from their look. -/
structure LeavesRest (o o' : Overlay) : Prop where
  /-- The selected element. -/
  selected : o'.session.selected? = o.session.selected?
  /-- The frame around it. -/
  selection : o'.session.selection? = o.session.selection?
  /-- There are as many elements. -/
  length : o'.page.elements.length = o.page.elements.length
  /-- They are the same in what neither attributes nor styles say. -/
  bare : ∀ id, (o'.page.element id).bare = (o.page.element id).bare

theorem LeavesRest.refl (o : Overlay) : LeavesRest o o := ⟨rfl, rfl, rfl, fun _ => rfl⟩

/-- Elements are the same for all that counts. -/
theorem LeavesRest.rect {o' : Overlay} (rest : LeavesRest o o') (id : ElementId) :
    (o'.page.element id).rect = (o.page.element id).rect := (congrArg Element.rect (rest.bare id) :)

/-- A change to the style or the attributes of one element leaves the rest alone. -/
theorem LeavesRest.modify (o : Overlay) (id : ElementId) {f : Element → Element}
    (same : (f (o.page.element id)).bare = (o.page.element id).bare) : LeavesRest o (o.modify id f) :=
  ⟨rfl, rfl, List.length_modify .., fun other => Page.element_modify_same same other⟩

theorem styled_leavesRest (o : Overlay) (id : ElementId) (styles : Table String String) :
    LeavesRest o (o.styled id styles) := by
  obtain ⟨-, -, length, bare⟩ :=
    LeavesRest.modify o id (f := fun _ => o.dressed id styles) (dressed_bare o id styles)
  exact ⟨rfl, rfl, length, bare⟩

theorem drawSelection_none (missing : o.session.selection? = none) (selected : ElementId) :
    o.drawSelection (some selected) = o := by
  unfold drawSelection draw
  rw [missing]

theorem drawSelection_some {frame : ElementId} (frame? : o.session.selection? = some frame) (selected : ElementId) :
    o.drawSelection (some selected) = o.modify frame (drawAround (o.page.element selected).rect) := by
  unfold drawSelection draw
  rw [frame?]

theorem drawSelection_leavesRest (o : Overlay) (selected : ElementId) :
    LeavesRest o (o.drawSelection (some selected)) := by
  cases frame? : o.session.selection? with
  | none =>
    rw [drawSelection_none frame?]
    exact .refl o
  | some frame =>
    rw [drawSelection_some frame?]
    exact .modify o frame rfl

theorem restore_leavesRest (o : Overlay) (id : ElementId) : LeavesRest o (o.restore id) := by
  unfold restore
  split
  · exact .refl o
  · rename_i look _
    obtain ⟨-, -, length, bare⟩ := LeavesRest.modify o id (restoreLook_bare look (o.page.element id))
    exact ⟨rfl, rfl, length, bare⟩

/-- To give a look back leaves all other elements as they are. -/
theorem element_restore_ne (o : Overlay) {other : ElementId} (ne : id ≠ other) :
    (o.restore other).page.element id = o.page.element id := by
  unfold restore
  split
  · rfl
  · exact Page.element_modify_ne o.page ne _

/-! ### What is remembered of an element -/

/-- The overlay remembers what an element was before styles were shown on it: its look is saved, and underneath
it still is that element. -/
structure Remembers (o : Overlay) (id : ElementId) (before? : Option Element) : Prop where
  /-- The element is on the page. -/
  within : id < o.page.elements.length
  /-- A look is saved exactly if styles are shown. -/
  saved : (Table.get? o.session.saved id).isSome = before?.isSome
  /-- It wears what is shown. -/
  worn : ∃ shown, Worn (before?.getD (o.page.element id)) (o.look id) shown (o.page.element id)
  /-- It holds what it held, and has the attributes that it had. -/
  like : Resembles (before?.getD (o.page.element id)) (o.page.element id)
  /-- If it is the frame around the selected element, it was drawn so before. -/
  drawn : ∀ selected, o.session.selection? = some id → o.session.selected? = some selected →
    IsDrawn (o.page.element selected).rect (before?.getD (o.page.element id))

theorem Resembles.refl (e : Element) : Resembles e e := ⟨rfl, fun _ _ => rfl⟩

theorem Resembles.trans {e₁ e₂ e₃ : Element} (first : Resembles e₁ e₂) (second : Resembles e₂ e₃) :
    Resembles e₁ e₃ :=
  ⟨second.children.trans first.children, fun name other =>
    (second.attributes name other).trans (first.attributes name other)⟩

namespace Remembers

/-- Of an element on which nothing is shown, there is nothing to remember. -/
theorem start (within : id < o.page.elements.length) (unsaved : Table.get? o.session.saved id = none)
    (drawn : o.FrameDrawn id) : Remembers o id none where
  within := within
  saved := by rw [unsaved]; rfl
  worn := by
    refine ⟨fun _ => False, ?_⟩
    have own : o.look id = ownLook (o.page.element id) := by
      rw [look, unsaved]
      rfl
    rw [own]
    exact Worn.start _
  like := .refl _
  drawn := drawn

/-- The element is remembered after a change to others. -/
theorem elsewhere {o' : Overlay} (remembers : Remembers o id before?) (rest : LeavesRest o o')
    (element : o'.page.element id = o.page.element id)
    (saved : Table.get? o'.session.saved id = Table.get? o.session.saved id) : Remembers o' id before? where
  within := rest.length ▸ remembers.within
  saved := saved ▸ remembers.saved
  worn := by
    have look : o'.look id = o.look id := by rw [look, look, saved, element]
    rw [look, element]
    exact remembers.worn
  like := element ▸ remembers.like
  drawn selected frame chosen := by
    rw [rest.rect, element]
    exact remembers.drawn selected (rest.selection ▸ frame) (rest.selected ▸ chosen)

/-- **Styles are shown** on an element, and what it was before is remembered. -/
theorem styled (remembers : Remembers o id before?) (other : ElementId) (styles : Table String String) :
    Remembers (o.styled other styles) id
      (if other = id then some (before?.getD (o.page.element id)) else before?) := by
  have rest := styled_leavesRest o other styles
  by_cases same : other = id
  · subst same
    rw [if_pos rfl]
    have element : (o.styled other styles).page.element other = o.dressed other styles :=
      Page.element_modify_self o.page remembers.within _
    have saved : Table.get? (o.styled other styles).session.saved other = some (o.shownOn other styles).2.1 :=
      (Table.get?_set ..).trans (if_pos (beq_self_eq_true _))
    have look : (o.styled other styles).look other = (o.shownOn other styles).2.1 := by
      rw [look, saved]
      rfl
    obtain ⟨shown, worn⟩ := remembers.worn
    have shownWorn := Worn.showProperties styles
      (o.page.element other, o.look other, (o.page.element other).classes.toList) worn
    refine ⟨rest.length ▸ remembers.within, by rw [saved]; rfl,
      ⟨fun name => shown name ∨ ∃ s ∈ styles, cssText s.1 = name, ?_⟩, ?_, fun selected frame chosen => ?_⟩
    · rw [look, element]
      unfold dressed
      split
      · exact shownWorn.setClass _
      · exact shownWorn
    · rw [element]
      exact remembers.like.trans (dressed_resembles o other styles)
    · rw [rest.rect]
      exact remembers.drawn selected frame chosen
  · rw [if_neg same]
    exact remembers.elsewhere rest (Page.element_modify_ne o.page (Ne.symm same) _)
      ((Table.get?_set ..).trans (if_neg (by simpa using Ne.symm same)))

/-- The frame around the selected element is drawn anew. -/
theorem draw (remembers : Remembers o id before?) {selected : ElementId}
    (chosen : o.session.selected? = some selected) : Remembers (o.drawSelection (some selected)) id before? := by
  have rest := drawSelection_leavesRest o selected
  cases frame? : o.session.selection? with
  | none => rwa [drawSelection_none frame?]
  | some frame =>
    rw [drawSelection_some frame?] at rest ⊢
    by_cases same : frame = id
    · subst same
      have element : (o.modify frame (drawAround (o.page.element selected).rect)).page.element frame =
          drawAround (o.page.element selected).rect (o.page.element frame) :=
        Page.element_modify_self o.page remembers.within _
      have within := rest.length ▸ remembers.within
      have only : ∀ {other}, o.session.selected? = some other → other = selected := fun chosen' =>
        Option.some.inj (chosen'.symm.trans chosen)
      cases before? with
      | none =>
        -- nothing is shown on the frame, so it is what it is drawn as
        have unsaved : Table.get? o.session.saved frame = none := by simpa using remembers.saved
        refine start within unsaved fun other _ chosen' => ?_
        rw [rest.rect, only chosen', element]
        exact isDrawn_drawAround _ _
      | some e₀ =>
        obtain ⟨shown, worn⟩ := remembers.worn
        have saved : (Table.get? o.session.saved frame).isSome = true := remembers.saved
        obtain ⟨look, found⟩ := Option.isSome_iff_exists.mp saved
        have same : (o.modify frame (drawAround (o.page.element selected).rect)).look frame = o.look frame := by
          rw [Overlay.look, Overlay.look, show (o.modify frame _).session = o.session from rfl, found]
          rfl
        have drawn := remembers.drawn selected frame? chosen
        refine ⟨within, saved, ⟨shown, ?_⟩, ?_, fun other _ chosen' => ?_⟩
        · rw [same, element]
          exact worn.drawAround drawn
        · rw [element]
          exact remembers.like.trans (drawAround_resembles ..)
        · rw [rest.rect, only chosen']
          exact drawn
    · exact remembers.elsewhere rest (Page.element_modify_ne o.page (Ne.symm same) _) rfl

/-- **A look that is given back** is that of the element before. A frame that was drawn is drawn again. -/
theorem givenBack (remembers : Remembers o id before?) :
    IsCleared before? (o.page.element id) ((o.restore id).page.element id) ∧
      ∀ r, IsDrawn r (before?.getD (o.page.element id)) → IsDrawn r ((o.restore id).page.element id) := by
  cases before? with
  | none =>
    have unsaved : Table.get? o.session.saved id = none := by
      simpa using remembers.saved
    have same : o.restore id = o := by
      unfold Overlay.restore
      rw [unsaved]
    rw [same]
    exact ⟨rfl, fun _ drawn => drawn⟩
  | some e₀ =>
    obtain ⟨look, found⟩ := Option.isSome_iff_exists.mp remembers.saved
    obtain ⟨shown, worn⟩ := remembers.worn
    have is : o.look id = look := by rw [Overlay.look, found]; rfl
    rw [is] at worn
    have element : (o.restore id).page.element id = restoreLook look (o.page.element id) := by
      unfold Overlay.restore
      rw [found]
      exact Page.element_modify_self o.page remembers.within _
    rw [element]
    have back := worn.restoreLook
    have like := remembers.like.trans (restoreLook_resembles look (o.page.element id))
    refine ⟨⟨back.bare, like.children, fun name => ?_, back.style⟩, fun r drawn s mem => ?_⟩
    · by_cases classes : name = "class"
      · rw [classes]
        exact back.classes
      · exact like.attributes name classes
    · obtain ⟨value, unimportant⟩ := drawn s mem
      exact ⟨(back.style s.1).trans value, fun important => unimportant ((back.important s.1 rfl).mp important).1⟩

/-- Looks are given back, and there is nothing to remember any more of elements whose look it is. -/
theorem restore (remembers : Remembers o id before?) (other : ElementId) :
    Remembers (o.restore other) id (if other = id then none else before?) := by
  have rest := restore_leavesRest o other
  have saved := saved_restore o other id
  by_cases same : other = id
  · subst same
    rw [if_pos rfl] at saved ⊢
    refine start (rest.length ▸ remembers.within) saved fun selected frame chosen => ?_
    rw [rest.rect]
    exact remembers.givenBack.2 _ (remembers.drawn selected (rest.selection ▸ frame) (rest.selected ▸ chosen))
  · rw [if_neg same]
    rw [if_neg (Ne.symm same)] at saved
    exact remembers.elsewhere rest (element_restore_ne o (Ne.symm same)) saved

/-- Looks are given back one after the other: to an element that is among them, and to no other one. -/
theorem restoreAll (remembers : Remembers o id before?) (ids : List ElementId) :
    Remembers (ids.foldl Overlay.restore o) id (if id ∈ ids then none else before?) ∧
      if id ∈ ids then IsCleared before? (o.page.element id) ((ids.foldl Overlay.restore o).page.element id)
      else (ids.foldl Overlay.restore o).page.element id = o.page.element id := by
  induction ids generalizing o before? with
  | nil => exact ⟨remembers, rfl⟩
  | cons first ids ih =>
    have back := remembers.givenBack.1
    have after := remembers.restore first
    rw [List.foldl_cons]
    by_cases same : first = id
    · -- whether it is among the others or not, nothing more is given back to it
      subst same
      rw [if_pos rfl] at after
      obtain ⟨rest, stays⟩ := ih after
      have stays : (ids.foldl Overlay.restore (o.restore first)).page.element first =
          (o.restore first).page.element first := by
        split at stays <;> exact stays
      rw [ite_self] at rest
      rw [if_pos (List.mem_cons_self ..), if_pos (List.mem_cons_self ..), stays]
      exact ⟨rest, back⟩
    · rw [if_neg same] at after
      obtain ⟨rest, element⟩ := ih after
      rw [element_restore_ne o (Ne.symm same)] at element
      simp only [List.mem_cons, Ne.symm same, false_or]
      exact ⟨rest, element⟩

/-- **Elements are cleared**: those that a call is about have their look again, and the others stay as they are. -/
theorem clear (remembers : Remembers o id before?) (selector? : Option String) :
    Remembers (o.clearPreview selector?) id (if o.clears id (.clear selector?) then none else before?) ∧
      if o.clears id (.clear selector?) then
        IsCleared before? (o.page.element id) ((o.clearPreview selector?).page.element id)
      else (o.clearPreview selector?).page.element id = o.page.element id ∧
        Table.get? (o.clearPreview selector?).session.saved id = Table.get? o.session.saved id := by
  cases selector? with
  | none =>
    obtain ⟨rest, element⟩ := remembers.restoreAll (Table.keys o.session.saved)
    rw [show o.clears id (.clear none) = true from rfl, if_pos rfl, if_pos rfl]
    by_cases listed : id ∈ Table.keys o.session.saved
    · rw [if_pos listed] at rest element
      exact ⟨rest, element⟩
    · obtain rfl : before? = none := by
        have saved := remembers.saved
        rw [Table.get?_eq_none_iff.mpr listed] at saved
        exact Option.not_isSome_iff_eq_none.mp (by rw [← saved]; decide)
      rw [if_neg listed] at rest element
      exact ⟨rest, element⟩
  | some s =>
    cases found : o.registry.resolve? o.page s with
    | none =>
      have cleared : o.clearPreview (some s) = o := by
        unfold clearPreview
        dsimp only
        rw [found]
      have missed : o.clears id (.clear (some s)) = false := by
        rw [clears, found]
        rfl
      rw [cleared, missed]
      exact ⟨remembers, rfl, rfl⟩
    | some other =>
      have cleared : o.clearPreview (some s) = o.restore other := by
        unfold clearPreview
        dsimp only
        rw [found]
      have meant : o.clears id (.clear (some s)) = decide (other = id) := by
        rw [clears, found]
        exact Bool.eq_iff_iff.mpr (by simp)
      have after := remembers.restore other
      rw [cleared, meant]
      by_cases same : other = id
      · subst same
        rw [if_pos rfl] at after
        simp only [decide_true, if_pos]
        exact ⟨after, remembers.givenBack.1⟩
      · rw [if_neg same] at after
        simp only [same, decide_false, Bool.false_eq_true, if_false]
        exact ⟨after, element_restore_ne o (Ne.symm same),
          (saved_restore o other id).trans (if_neg (Ne.symm same))⟩

/-- **One call** keeps what is remembered. -/
theorem call (remembers : Remembers o id before?) (call : PreviewCall) :
    Remembers (o.previewBy call) id (o.beforeCall id before? call) := by
  cases call with
  | clear selector? =>
    have after := (remembers.clear selector?).1
    have none : o.beforeCall id before? (.clear selector?) =
        if o.clears id (.clear selector?) then .none else before? := rfl
    rw [none]
    exact after
  | apply s styles =>
    cases found : o.registry.resolve? o.page s with
    | none =>
      have nothing : o.previewBy (.apply s styles) = o := by
        rw [previewBy, applyPreview, found]
      have missed : o.beforeCall id before? (.apply s styles) = before? := by
        rw [beforeCall, clears, showsOn, found]
        rfl
      rw [nothing, missed]
      exact remembers
    | some other =>
      have shows : o.previewBy (.apply s styles) = o.showStyles other styles := by
        rw [previewBy, applyPreview, found]
      have meant : o.beforeCall id before? (.apply s styles) =
          if other = id then some (before?.getD (o.page.element id)) else before? := by
        rw [beforeCall, clears, showsOn, found]
        simp
      have styled := remembers.styled other styles
      rw [shows, meant, showStyles_eq]
      split
      · rename_i chosen
        exact styled.draw (eq_of_beq chosen)
      · exact styled

/-- So do all calls. -/
theorem calls (remembers : Remembers o id before?) (calls : List PreviewCall) :
    Remembers (o.previewAll calls) id (beforeCalls id o before? calls) := by
  induction calls generalizing o before? with
  | nil => exact remembers
  | cons call calls ih => exact ih (remembers.call call)

end Remembers

/-- **Who is cleared has its look again.** After any calls on a page on which nothing was shown, an element that is
cleared has the classes, or none, and the values of its inline style that it had before styles were first shown on it
since it was last cleared. If nothing was shown on it since, it stays as it is, and so does every element that the
call is not about, and what is saved of it. -/
theorem clear_gives_back (unsaved : o.session.saved = []) (within : id < o.page.elements.length)
    (drawn : o.FrameDrawn id) (calls : List PreviewCall) (selector? : Option String) :
    let shown := o.previewAll calls
    let cleared := shown.clearPreview selector?
    if shown.clears id (.clear selector?) then
      IsCleared (beforeCalls id o none calls) (shown.page.element id) (cleared.page.element id)
    else cleared.page.element id = shown.page.element id ∧
      Table.get? cleared.session.saved id = Table.get? shown.session.saved id := by
  have start : Remembers o id none := .start within (by rw [unsaved]; rfl) drawn
  exact ((start.calls calls).clear selector?).2

/-- Two paragraphs, one with classes and a colour. -/
def paragraphs : Overlay where
  page := { elements := [
    { tag := "html", children := [.element Page.head, .element Page.body] }, { tag := "head" },
    { tag := "body", children := [.element 3, .element 4] },
    { tag := "p", attributes := [("id", "a"), ("class", "p-4 text-red-500")], style := [("color", "blue")] },
    { tag := "p", attributes := [("id", "b")] }] }

/-- Colours and sizes shown on both, some of them again and under another name, while one is cleared in between. -/
def overlapping : List PreviewCall :=
  [.apply "#a" [("fontSize", "20px"), ("color", "red")], .apply "#b" [("color", "red")],
    .apply "#a" [("font-size", "24px")], .clear (some "#b"), .apply "#a" [("color", "green")]]

/-- The first paragraph has its classes and its colour again. -/
theorem overlapping_given_back :
    paragraphs.session.saved = [] ∧ 3 < paragraphs.page.elements.length ∧ paragraphs.FrameDrawn 3 ∧
      HasAgain (paragraphs.page.element 3)
        (((paragraphs.previewAll overlapping).clearPreview (some "#a")).page.element 3) := by
  have within : 3 < paragraphs.page.elements.length := by decide
  have drawn : paragraphs.FrameDrawn 3 := nofun
  have cleared := clear_gives_back rfl within drawn overlapping (some "#a")
  have about : (paragraphs.previewAll overlapping).clears 3 (.clear (some "#a")) = true := by decide +kernel
  have before : beforeCalls 3 paragraphs none overlapping = some (paragraphs.page.element 3) := by rfl
  dsimp only at cleared
  rw [about, before] at cleared
  exact ⟨rfl, within, drawn, cleared⟩

end Overlay

end Retouch
