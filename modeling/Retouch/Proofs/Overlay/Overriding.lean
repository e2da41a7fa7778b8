import Retouch.Overlay.Frame
import Retouch.Proofs.Overlay.Pointing

/-!
# What is shown on elements for the time being

The overlay saves what an element had of every property that it shows on it; the properties saved, with
their values now, are the overrides on the element (`Overrides`). To show styles adds to them and takes
none away, to give the look back takes all of them away: so the overrides on an element are the latest
of all values shown on it since its look was given back (`Displays`), and each message of the host keeps
the count of those (`Frame.obey_obeys`).
-/

namespace Retouch

open Page (isReserved)

namespace Overlay

/-- The name of a property in an inline style. -/
def cssText (property : String) : String := String.ofList (Page.cssName property.toList)

/-- Values that were shown, each in place of one that was shown before under the same name. -/
def latest (shown : List (String × String)) : Table String String :=
  shown.foldl (fun t s => Table.set t (cssText s.1) s.2) []

/-- A name leads to what was shown under it last. -/
theorem get?_foldl_set (l : List (String × String)) (t : Table String String) (name : String) :
    Table.get? (l.foldl (fun t s => Table.set t (cssText s.1) s.2) t) name =
      (Table.get? (latest l) name).or (Table.get? t name) := by
  unfold latest
  induction l generalizing t with
  | nil => rfl
  | cons x l ih =>
    rw [List.foldl_cons, List.foldl_cons, ih, ih (Table.set [] _ _), Table.get?_set, Table.get?_set,
      Option.or_assoc]
    split <;> simp

theorem get?_latest_append (l l' : List (String × String)) (name : String) :
    Table.get? (latest (l ++ l')) name = (Table.get? (latest l') name).or (Table.get? (latest l) name) := by
  rw [← get?_foldl_set]
  unfold latest
  rw [List.foldl_append]

theorem latest_singleton (x : String × String) (name : String) :
    Table.get? (latest [x]) name = if name == cssText x.1 then some x.2 else none := Table.get?_set ..

/-- The latest value under a name was shown under it. -/
theorem mem_of_get?_latest {l : List (String × String)} {name value : String}
    (found : Table.get? (latest l) name = some value) :
    ∃ property, (property, value) ∈ l ∧ cssText property = name := by
  induction l with
  | nil => cases found
  | cons x l ih =>
    rw [← List.singleton_append, get?_latest_append] at found
    cases later : Table.get? (latest l) name with
    | some value' =>
      rw [later] at found
      cases found
      obtain ⟨property, mem, named⟩ := ih later
      exact ⟨property, List.mem_cons_of_mem x mem, named⟩
    | none =>
      rw [later, Option.none_or, latest_singleton] at found
      split at found
      · rename_i same
        cases found
        exact ⟨x.1, List.mem_cons_self .., (eq_of_beq same).symm⟩
      · cases found

/-- What was shown has a latest value. -/
theorem get?_latest_of_mem {l : List (String × String)} {x : String × String} (mem : x ∈ l) :
    ∃ value, Table.get? (latest l) (cssText x.1) = some value := by
  obtain ⟨front, back, rfl⟩ := List.append_of_mem mem
  rw [← List.singleton_append, get?_latest_append, get?_latest_append]
  rw [latest_singleton, if_pos (beq_self_eq_true _)]
  cases Table.get? (latest back) (cssText x.1) with
  | none => exact ⟨x.2, rfl⟩
  | some value => exact ⟨value, rfl⟩

/-- **When the latest values are those of one set of styles**: where these styles were shown last, every
property that was shown before has to be one of theirs by its name, and no two of theirs may have the
same name with different values. -/
theorem latest_eq_iff (before styles : List (String × String)) :
    (∀ name value, Table.get? (latest (before ++ styles)) name = some value ↔
      ∃ property, (property, value) ∈ styles ∧ cssText property = name) ↔
    (∀ x ∈ before ++ styles, ∃ e ∈ styles, cssText e.1 = cssText x.1) ∧
      ∀ a ∈ styles, ∀ b ∈ styles, cssText a.1 = cssText b.1 → a.2 = b.2 := by
  constructor
  · intro exact
    refine ⟨fun x mem => ?_, fun a ha b hb same => ?_⟩
    · obtain ⟨value, found⟩ := get?_latest_of_mem mem
      obtain ⟨property, mem, named⟩ := (exact _ _).mp found
      exact ⟨_, mem, named⟩
    · have first := (exact (cssText a.1) a.2).mpr ⟨a.1, ha, rfl⟩
      have second := (exact (cssText a.1) b.2).mpr ⟨b.1, hb, same.symm⟩
      exact Option.some.inj (first.symm.trans second)
  · rintro ⟨kept, agree⟩ name value
    -- the styles were shown last, so they have the last word on their names
    have last (e : String × String) (he : e ∈ styles) :
        Table.get? (latest (before ++ styles)) (cssText e.1) = some e.2 := by
      obtain ⟨value, found⟩ := get?_latest_of_mem he
      obtain ⟨property, mem, named⟩ := mem_of_get?_latest found
      have same : value = e.2 := agree (property, value) mem e he named
      rw [get?_latest_append, found, Option.some_or, same]
    constructor
    · intro found
      obtain ⟨property, mem, rfl⟩ := mem_of_get?_latest found
      obtain ⟨e, he, same⟩ := kept _ mem
      rw [← same, last e he] at found
      cases found
      exact ⟨e.1, he, same⟩
    · rintro ⟨property, mem, rfl⟩
      exact last (property, value) mem

/-- A property of an element that is saved has a value now. -/
def IsOver (look : SavedLook) (e : Element) (name value : String) : Prop :=
  Table.contains look.styles name = true ∧ Table.get? e.style name = some value

/-- The style overrides that the overlay holds on an element. -/
def Overrides (o : Overlay) (id : ElementId) (name value : String) : Prop :=
  ∃ look, Table.get? o.session.saved id = some look ∧ IsOver look (o.page.element id) name value

/-- The overrides on an element are the latest of the values that were shown. -/
def Displays (o : Overlay) (id : ElementId) (shown : List (String × String)) : Prop :=
  ∀ name value, o.Overrides id name value ↔ Table.get? (latest shown) name = some value

variable {o o' : Overlay} {id other : ElementId} {s : String} {shown : List (String × String)}

/-- An element without a saved look has no overrides. -/
theorem overrides_iff_look (o : Overlay) (id : ElementId) (name value : String) :
    o.Overrides id name value ↔ IsOver (o.look id) (o.page.element id) name value := by
  unfold Overrides look
  cases Table.get? o.session.saved id with
  | none => exact ⟨nofun, nofun⟩
  | some look =>
    constructor
    · rintro ⟨_, ⟨⟩, held⟩
      exact held
    · exact fun held => ⟨look, rfl, held⟩

theorem Displays.congr (displays : o.Displays id shown)
    (saved : Table.get? o'.session.saved id = Table.get? o.session.saved id)
    (style : Table.get? o.session.saved id = none ∨
      (o'.page.element id).style = (o.page.element id).style) : o'.Displays id shown := by
  intro name value
  rw [← displays name value]
  unfold Overrides IsOver
  rw [saved]
  obtain none | same := style
  · rw [none]
    exact ⟨nofun, nofun⟩
  · rw [same]

theorem Displays.calm (displays : o.Displays id shown) (atWork : AtWork o) (calm : Calm o o') :
    o'.Displays id shown := by
  refine displays.congr (by rw [calm.saved]) ?_
  by_cases frame : o.IsFrame id
  · exact Or.inl (atWork.unsaved id frame)
  · exact Or.inr (calm.styles id frame)

/-! ### Showing styles -/

/-- To show a property overrides that property and no other. -/
theorem showProperty_over {acc : Element × SavedLook × Text} {t : Table String String}
    (held : ∀ name v, IsOver acc.2.1 acc.1 name v ↔ Table.get? t name = some v)
    (property value name v : String) :
    IsOver (showProperty acc property value).2.1 (showProperty acc property value).1 name v ↔
      Table.get? (Table.set t (cssText property) value) name = some v := by
  obtain ⟨e, look, classes⟩ := acc
  have saves : Table.contains (showProperty (e, look, classes) property value).2.1.styles name = true ↔
      name = cssText property ∨ Table.contains look.styles name = true := by
    show Table.contains (if Table.contains look.styles (cssText property) then look else { look with
      styles := Table.set look.styles (cssText property) _ }).styles name = true ↔ _
    split
    · rename_i there
      constructor
      · exact Or.inr
      · rintro (rfl | saved)
        · exact there
        · exact saved
    · rw [Table.contains_eq_isSome, Table.contains_eq_isSome, Table.get?_set]
      by_cases same : name = cssText property
      · simp [same]
      · simp [same]
  have sets : Table.get? (showProperty (e, look, classes) property value).1.style name =
      if name == cssText property then some value else Table.get? e.style name := Table.get?_set ..
  unfold IsOver
  rw [saves, sets, Table.get?_set]
  by_cases same : name = cssText property
  · simp [same]
  · simp only [same, false_or, beq_iff_eq, if_false]
    exact held name v

theorem showProperties_over (styles : Table String String) (acc : Element × SavedLook × Text)
    {t : Table String String}
    (held : ∀ name v, IsOver acc.2.1 acc.1 name v ↔ Table.get? t name = some v) (name v : String) :
    let out := styles.foldl (fun acc s => showProperty acc s.1 s.2) acc
    IsOver out.2.1 out.1 name v ↔
      Table.get? (styles.foldl (fun t s => Table.set t (cssText s.1) s.2) t) name = some v := by
  induction styles generalizing acc t with
  | nil => exact held name v
  | cons s styles ih => exact ih _ (showProperty_over held s.1 s.2)

/-- To show properties changes the style of the element and nothing else of it. -/
theorem showProperties_rest (styles : Table String String) (acc : Element × SavedLook × Text) :
    let out := styles.foldl (fun acc s => showProperty acc s.1 s.2) acc
    out.1.children = acc.1.children ∧ out.1.attributes = acc.1.attributes := by
  induction styles generalizing acc with
  | nil => exact ⟨rfl, rfl⟩
  | cons s styles ih => exact ih (showProperty acc s.1 s.2)

/-- The element that styles are shown on, its look as it is saved, and the classes that remain. -/
def shownOn (o : Overlay) (id : ElementId) (styles : Table String String) : Element × SavedLook × Text :=
  styles.foldl (fun acc s => showProperty acc s.1 s.2)
    (o.page.element id, o.look id, (o.page.element id).classes.toList)

/-- The element that styles are shown on, without the classes that are left out. -/
def dressed (o : Overlay) (id : ElementId) (styles : Table String String) : Element :=
  if (o.shownOn id styles).2.1.classes?.isSome then
    (o.shownOn id styles).1.setAttribute "class" (String.ofList (o.shownOn id styles).2.2)
  else (o.shownOn id styles).1

/-- Styles shown on an element, the frames not yet drawn anew. -/
def styled (o : Overlay) (id : ElementId) (styles : Table String String) : Overlay :=
  { o.modify id fun _ => o.dressed id styles with
    session := { o.session with saved := Table.set o.session.saved id (o.shownOn id styles).2.1 } }

theorem showStyles_eq (o : Overlay) (id : ElementId) (styles : Table String String) :
    o.showStyles id styles =
      if o.session.selected? == some id then (o.styled id styles).drawSelection (some id)
      else o.styled id styles := rfl

/-- An element whose class list is changed. -/
theorem resembles_setAttribute {e e' : Element} (like : Resembles e e') (classes : String) :
    Resembles e (e'.setAttribute "class" classes) where
  children := like.children
  attributes name other := by
    rw [Page.Registry.attribute?_setAttribute, if_neg (by simpa using other)]
    exact like.attributes name other

theorem dressed_resembles (o : Overlay) (id : ElementId) (styles : Table String String) :
    Resembles (o.page.element id) (o.dressed id styles) := by
  obtain ⟨children, attributes⟩ := showProperties_rest styles
    (o.page.element id, o.look id, (o.page.element id).classes.toList)
  have like : Resembles (o.page.element id) (o.shownOn id styles).1 :=
    ⟨children, fun name _ => congrArg (Table.get? · name) attributes⟩
  unfold dressed
  split
  · exact resembles_setAttribute like _
  · exact like

theorem dressed_style (o : Overlay) (id : ElementId) (styles : Table String String) :
    (o.dressed id styles).style = (o.shownOn id styles).1.style := by
  unfold dressed
  split <;> rfl

theorem styled_steady (atWork : AtWork o) (id : ElementId) (styles : Table String String) :
    Steady o (o.styled id styles) :=
  .modify atWork.registered (dressed_resembles o id styles) _

/-- A frame has a reserved id, and no other element that styles are shown on has. -/
theorem AtWork.ne_frame (atWork : AtWork o) (own : isReserved (o.page.element id).id = false)
    (frame : o.IsFrame other) : other ≠ id := by
  rintro rfl
  rw [atWork.frames other frame] at own
  cases own

theorem styled_atWork (atWork : AtWork o) (own : isReserved (o.page.element id).id = false)
    (styles : Table String String) : AtWork (o.styled id styles) := by
  refine atWork.steady (styled_steady atWork id styles) fun frame isFrame => ?_
  refine (Table.get?_set ..).trans ?_
  rw [if_neg (by simpa using atWork.ne_frame own isFrame)]
  exact atWork.unsaved frame isFrame

theorem showStyles_calm (atWork : AtWork o) (own : isReserved (o.page.element id).id = false)
    (styles : Table String String) : Calm (o.styled id styles) (o.showStyles id styles) := by
  have styledAtWork := styled_atWork atWork own styles
  rw [showStyles_eq]
  split
  · exact drawSelection_calm styledAtWork.registered (some id)
  · exact .refl styledAtWork.registered

/-- The element that styles are shown on displays them too. -/
theorem styled_displays (within : id < o.page.elements.length) (displays : o.Displays id shown)
    (styles : Table String String) : (o.styled id styles).Displays id (shown ++ styles) := by
  intro name value
  have held := showProperties_over styles
    (o.page.element id, o.look id, (o.page.element id).classes.toList)
    (fun name v => (overrides_iff_look o id name v).symm.trans (displays name v)) name value
  have saved : (o.styled id styles).look id = (o.shownOn id styles).2.1 := by
    unfold look
    rw [show Table.get? (o.styled id styles).session.saved id = some (o.shownOn id styles).2.1 from
      (Table.get?_set ..).trans (if_pos (beq_self_eq_true _))]
    rfl
  have element : (o.styled id styles).page.element id = o.dressed id styles :=
    Page.element_modify_self o.page within _
  rw [overrides_iff_look, saved, element]
  unfold IsOver latest
  rw [dressed_style, List.foldl_append]
  exact held

/-- The other elements display what they did. -/
theorem styled_displays_ne (ne : other ≠ id) (displays : o.Displays other shown)
    (styles : Table String String) : (o.styled id styles).Displays other shown := by
  refine displays.congr ((Table.get?_set ..).trans (if_neg (by simpa using ne))) (Or.inr ?_)
  exact congrArg Element.style (Page.element_modify_ne o.page ne _)

/-! ### Giving the look back -/

theorem restoreLook_resembles (look : SavedLook) (e : Element) : Resembles e (restoreLook look e) := by
  unfold restoreLook
  dsimp only
  generalize styled : look.styles.foldl _ e = out
  have unstyled : out.children = e.children ∧ out.attributes = e.attributes := by
    rw [← styled]
    refine List.foldlRecOn (motive := fun out : Element => out.children = e.children ∧
      out.attributes = e.attributes) look.styles _ ⟨rfl, rfl⟩ fun out kept s _ => ?_
    split
    · exact kept
    · exact kept
  obtain ⟨children, attributes⟩ := unstyled
  split
  · exact resembles_setAttribute ⟨children, fun name _ => congrArg (Table.get? · name) attributes⟩ _
  · refine ⟨children, fun name other => ?_⟩
    refine (Table.get?_erase ..).trans ?_
    rw [if_neg (by simpa using other)]
    exact congrArg (Table.get? · name) attributes

theorem restore_steady (atWork : AtWork o) (id : ElementId) : Steady o (o.restore id) := by
  unfold restore
  split
  · exact .refl atWork.registered
  · exact .modify atWork.registered (restoreLook_resembles _ _) _

/-- Nothing is saved of an element whose look was given back, and of others what was. -/
theorem saved_restore (o : Overlay) (id other : ElementId) :
    Table.get? (o.restore id).session.saved other =
      if other = id then none else Table.get? o.session.saved other := by
  unfold restore
  split
  · rename_i unsaved
    split
    · rename_i same
      rw [same, unsaved]
    · rfl
  · refine (Table.get?_erase ..).trans ?_
    simp only [beq_iff_eq]

/-- So it is when looks are given back one after the other. -/
theorem saved_foldl_restore (ids : List ElementId) (o : Overlay) (id : ElementId) :
    Table.get? (ids.foldl restore o).session.saved id =
      if id ∈ ids then none else Table.get? o.session.saved id := by
  induction ids generalizing o with
  | nil => rfl
  | cons first ids ih =>
    rw [List.foldl_cons, ih, saved_restore]
    by_cases later : id ∈ ids
    · simp [later]
    · by_cases now : id = first <;> simp [later, now]

theorem restore_atWork (atWork : AtWork o) (id : ElementId) : AtWork (o.restore id) := by
  refine atWork.steady (restore_steady atWork id) fun frame isFrame => ?_
  rw [saved_restore]
  split
  · rfl
  · exact atWork.unsaved frame isFrame

/-- An element whose look was given back displays nothing. -/
theorem restore_displays (o : Overlay) (id : ElementId) : (o.restore id).Displays id [] := by
  intro name value
  unfold Overrides
  rw [saved_restore, if_pos rfl]
  exact ⟨nofun, nofun⟩

theorem restore_displays_ne (ne : other ≠ id) (displays : o.Displays other shown) :
    (o.restore id).Displays other shown := by
  refine displays.congr ((saved_restore o id other).trans (if_neg ne)) (Or.inr ?_)
  unfold restore
  split
  · rfl
  · exact congrArg Element.style (Page.element_modify_ne o.page ne _)

/-! ### Messages of the host -/

/-- What a message leaves of the values shown on an element since its look was given back. -/
def tally (o : Overlay) (id : ElementId) (shown : List (String × String)) :
    HostMessage → List (String × String)
  | .previewStyle s styles => if o.registry.resolve? o.page s = some id then shown ++ styles else shown
  | .clearPreview (some s) => if o.registry.resolve? o.page s = some id then [] else shown
  | .clearPreview none => []
  | _ => shown

/-- A known selector leads to its element. -/
theorem Points.resolve? (points : o.Points s id) (registered : Page.Registry.Registered o.registry o.page) :
    o.registry.resolve? o.page s = some id :=
  Page.Registry.resolve?_of_given registered points.1 points.2.1

theorem Points.within (points : o.Points s id) (registered : Page.Registry.Registered o.registry o.page) :
    id < o.page.elements.length := by
  refine Nat.lt_of_not_le fun beyond => points.1.marked registered ?_
  unfold Page.tracking Page.element
  rw [List.getElem?_eq_none beyond]
  rfl

/-- Messages about known elements count the same for good. -/
theorem tally_steady {m : HostMessage} (about : m.IsAbout o.Knows) (registered :
    Page.Registry.Registered o.registry o.page) (steady : Steady o o') (id : ElementId)
    (shown : List (String × String)) : o'.tally id shown m = o.tally id shown m := by
  have same (s : String) (knows : o.Knows s) :
      o'.registry.resolve? o'.page s = o.registry.resolve? o.page s := by
    obtain ⟨id', points⟩ := knows
    rw [points.resolve? registered, (points.steady steady).resolve? steady.registered]
  cases m with
  | previewStyle s styles =>
    unfold tally
    dsimp only
    rw [same s about]
  | clearPreview selector? =>
    cases selector? with
    | none => rfl
    | some s =>
      unfold tally
      dsimp only
      rw [same s about]
  | _ => rfl

/-- What it does that a message of the host is obeyed: the overlay goes on with its work, it says
nothing, and the count of what is shown is kept. -/
structure Obeys (o : Overlay) (m : HostMessage) (o' : Overlay) : Prop where
  /-- It goes on with its work. -/
  steady : Steady o o'
  /-- It is at work. -/
  atWork : AtWork o'
  /-- It says nothing. -/
  sent : o'.sent = o.sent
  /-- The count is kept. -/
  displays : ∀ id shown, o.Displays id shown → o'.Displays id (o.tally id shown m)

theorem applyPreview_obeys (atWork : AtWork o) (points : o.Points s id) (styles : Table String String) :
    Obeys o (.previewStyle s styles) (o.applyPreview s styles).1 := by
  have own := points.2.2
  have calm := showStyles_calm atWork own styles
  have styledAtWork := styled_atWork atWork own styles
  have applied : (o.applyPreview s styles).1 = o.showStyles id styles := by
    unfold applyPreview
    rw [points.resolve? atWork.registered]
  rw [applied]
  refine ⟨(styled_steady atWork id styles).trans calm.toSteady, styledAtWork.calm calm, ?_, ?_⟩
  · rw [showStyles_eq]
    split
    · exact drawSelection_sent _ _
    · rfl
  · intro id' shown displays
    unfold tally
    dsimp only
    rw [points.resolve? atWork.registered]
    split
    · rename_i same
      cases same
      exact (styled_displays (points.within atWork.registered) displays styles).calm styledAtWork calm
    · rename_i other
      have ne : id' ≠ id := fun same => other (congrArg some same.symm)
      exact (styled_displays_ne ne displays styles).calm styledAtWork calm

theorem clearPreview_obeys (atWork : AtWork o) (points : o.Points s id) :
    Obeys o (.clearPreview (some s)) (o.clearPreview (some s)) := by
  have cleared : o.clearPreview (some s) = o.restore id := by
    unfold clearPreview
    dsimp only
    rw [points.resolve? atWork.registered]
  rw [cleared]
  refine ⟨restore_steady atWork id, restore_atWork atWork id, ?_, ?_⟩
  · unfold restore
    split <;> rfl
  · intro id' shown displays
    unfold tally
    dsimp only
    rw [points.resolve? atWork.registered]
    split
    · rename_i same
      cases same
      exact restore_displays o id
    · rename_i other
      have ne : id' ≠ id := fun same => other (congrArg some same.symm)
      exact restore_displays_ne ne displays

end Overlay

namespace Frame

open Overlay (AtWork Obeys)

/-- **Messages are obeyed**: in design mode, a message about a known element is obeyed and no fault
comes of it. -/
theorem obey_obeys {f : Frame} {m : HostMessage} (active : f.isActive = true) (atWork : AtWork f.overlay)
    (about : m.IsAbout f.overlay.Knows) :
    ∃ overlay, f.obey m = ({ f with overlay }, .settled) ∧ Obeys f.overlay m overlay := by
  cases m with
  | previewStyle s styles =>
    obtain ⟨id, points⟩ := about
    refine ⟨_, ?_, Overlay.applyPreview_obeys atWork points styles⟩
    unfold obey
    simp [active]
  | clearPreview selector? =>
    cases selector? with
    | none => exact about.elim
    | some s =>
      obtain ⟨id, points⟩ := about
      refine ⟨_, ?_, Overlay.clearPreview_obeys atWork points⟩
      unfold obey
      simp [active]
  | _ => exact about.elim

end Frame

end Retouch
