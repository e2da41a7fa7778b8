import Retouch.Proofs.Overlay.Overriding

/-!
# What elements wear

Styles that are shown on an element for the time being cover what it had, and the overlay saves that.
Underneath, the element keeps its look (`Worn`), except that no property which was ever shown is marked
important: a property that is given back gets its value back, but not the mark (`Worn.restoreLook`). So
with nothing shown on it any more an element looks as it did exactly if none of the properties that were
shown was important (`Worn.alike_iff`).
-/

namespace Retouch

/-- An element without its attributes, its inline style and what it holds. -/
def Element.bare (e : Element) : Element :=
  { e with attributes := [], style := [], important := [], children := [] }

namespace Overlay

open Page (trackingAttribute)

/-! ### Elements that look alike -/

/-- Two elements look alike, whatever they hold and whether they are tracked or not. -/
structure Alike (e₀ e : Element) : Prop where
  /-- They are alike in what neither attributes nor styles say. -/
  bare : e.bare = e₀.bare
  /-- They have the same attributes. -/
  attributes : ∀ name, name ≠ trackingAttribute → e.attribute? name = e₀.attribute? name
  /-- Their inline styles have the same values. -/
  style : ∀ name, Table.get? e.style name = Table.get? e₀.style name
  /-- The same properties are marked important. -/
  important : ∀ name, name ∈ e.important ↔ name ∈ e₀.important

theorem Alike.refl (e : Element) : Alike e e := ⟨rfl, fun _ _ => rfl, fun _ => rfl, fun _ => Iff.rfl⟩

/-- A property that is set is taken away with its value. -/
theorem removeStyle_setStyle (e : Element) (name value : String) :
    (e.setStyle name value false).removeStyle name = e.removeStyle name := by
  unfold Element.setStyle Element.removeStyle
  dsimp only
  rw [Table.erase_set, if_neg Bool.false_ne_true]
  simp

/-- It does not matter whether a property that is set was taken away before. -/
theorem alike_setStyle (e : Element) (name value : String) :
    Alike ((e.removeStyle name).setStyle name value false) (e.setStyle name value false) := by
  refine ⟨rfl, fun _ _ => rfl, fun other => ?_, fun other => ?_⟩
  · unfold Element.setStyle Element.removeStyle
    rw [Table.get?_set, Table.get?_set, Table.get?_erase]
    split <;> rfl
  · simp [Element.setStyle, Element.removeStyle]

/-- Without a property that it does not have, an element looks as it did. -/
theorem alike_removeStyle {e : Element} {name : String} (missing : Table.get? e.style name = none)
    (unimportant : name ∉ e.important) : Alike (e.removeStyle name) e := by
  refine ⟨rfl, fun _ _ => rfl, fun other => ?_, fun other => ?_⟩
  · refine Eq.trans ?_ (Table.get?_erase ..).symm
    split
    · rename_i same
      rw [eq_of_beq same, missing]
    · rfl
  · show other ∈ e.important ↔ other ∈ e.important.filter (· != name)
    rw [List.mem_filter]
    refine (and_iff_left_of_imp fun mem => ?_).symm
    have ne : other ≠ name := fun same => unimportant (same ▸ mem)
    simpa using ne

/-! ### Elements that wear something -/

/-- The look of an element of which nothing is saved. -/
def ownLook (e : Element) : SavedLook := { classes? := e.attribute? "class" }

/-- The value that a property of an inline style has underneath what is shown. -/
def beneath (look : SavedLook) (e : Element) (name : String) : Option String :=
  (Table.get? look.styles name).getD (Table.get? e.style name)

/-- An element, of which a look is saved, looks underneath as it did before styles were `shown` on it. -/
structure Worn (e₀ : Element) (look : SavedLook) (shown : String → Prop) (e : Element) : Prop where
  /-- It is the same in what neither attributes nor styles say. -/
  bare : e.bare = e₀.bare
  /-- It has the same attributes, except for the classes. -/
  attributes : ∀ name, name ≠ trackingAttribute → name ≠ "class" → e.attribute? name = e₀.attribute? name
  /-- Its classes are saved. -/
  classes : look.classes? = e₀.attribute? "class"
  /-- Its inline style has the same values underneath. -/
  style : ∀ name, beneath look e name = Table.get? e₀.style name
  /-- Where nothing is shown now, the important properties are those that were never shown. -/
  important : ∀ name, Table.get? look.styles name = none →
    (name ∈ e.important ↔ name ∈ e₀.important ∧ ¬ shown name)
  /-- What is saved was shown. -/
  saved : ∀ name, Table.get? look.styles name ≠ none → shown name
  /-- No property is saved twice. -/
  distinct : (Table.keys look.styles).Nodup

namespace Worn

variable {e₀ e : Element} {look : SavedLook} {shown shown' : String → Prop}

/-- An element on which nothing was shown yet. -/
theorem start (e : Element) : Worn e (ownLook e) (fun _ => False) e where
  bare := rfl
  attributes _ _ _ := rfl
  classes := rfl
  style _ := rfl
  important _ _ := (and_iff_left id).symm
  saved _ there := absurd rfl there
  distinct := List.nodup_nil

theorem congr_shown (worn : Worn e₀ look shown e) (same : ∀ name, shown name ↔ shown' name) :
    Worn e₀ look shown' e :=
  (funext fun name => propext (same name) : shown = shown') ▸ worn

/-- With nothing shown on it any more, an element looks as it did exactly if nothing that was shown was
important. -/
theorem alike_iff (worn : Worn e₀ (ownLook e) shown e) :
    Alike e₀ e ↔ ∀ name, shown name → name ∉ e₀.important := by
  have important (name : String) := worn.important name rfl
  constructor
  · intro alike name wasShown before
    exact ((important name).mp ((alike.important name).mpr before)).2 wasShown
  · intro unimportant
    refine ⟨worn.bare, fun name untracked => ?_, worn.style, fun name => ?_⟩
    · by_cases classes : name = "class"
      · rw [classes]
        exact worn.classes
      · exact worn.attributes name untracked classes
    · rw [important]
      exact and_iff_left_of_imp fun before wasShown => unimportant name wasShown before

/-- The element is tracked. -/
theorem track (worn : Worn e₀ look shown e) (tracking : String) :
    Worn e₀ look shown (e.setAttribute trackingAttribute tracking) := by
  refine ⟨worn.bare, fun name untracked classes => ?_, worn.classes, worn.style, worn.important, worn.saved,
    worn.distinct⟩
  rw [Page.Registry.attribute?_setAttribute, if_neg (by simpa using untracked)]
  exact worn.attributes name untracked classes

/-- Nothing saved, the look of the element is its own one. -/
theorem own (worn : Worn e₀ look shown e) (none : look.styles = []) :
    look.classes? = e.attribute? "class" → Worn e₀ (ownLook e) shown e := by
  intro classes
  have same : look = ownLook e := by
    cases look
    cases none
    cases classes
    rfl
  exact same ▸ worn

/-! ### Styles shown -/

/-- What is saved of a property that is shown is what it had before it was shown first. -/
theorem saved_showProperty (acc : Element × SavedLook × Text) (property value name : String) :
    Table.get? (Overlay.showProperty acc property value).2.1.styles name =
      if name = cssText property then some (beneath acc.2.1 acc.1 name)
      else Table.get? acc.2.1.styles name := by
  obtain ⟨e, look, classes⟩ := acc
  show Table.get? (if Table.contains look.styles (cssText property) then look else { look with
    styles := Table.set look.styles (cssText property)
      (Table.get? e.style (cssText property)) }).styles name = _
  rw [Table.contains_eq_isSome, beneath]
  cases there : Table.get? look.styles (cssText property) with
  | some before =>
    rw [if_pos Option.isSome_some]
    split
    · rename_i same
      rw [same, there]
      rfl
    · rfl
  | none =>
    rw [if_neg (by simp), Table.get?_set]
    simp only [beq_iff_eq]
    split
    · rename_i same
      rw [same, there]
      rfl
    · rfl

/-- One more property is shown. -/
theorem showProperty {acc : Element × SavedLook × Text} (worn : Worn e₀ acc.2.1 shown acc.1)
    (property value : String) :
    Worn e₀ (Overlay.showProperty acc property value).2.1 (fun name => shown name ∨ name = cssText property)
      (Overlay.showProperty acc property value).1 := by
  have found := saved_showProperty acc property value
  obtain ⟨e, look, classes⟩ := acc
  generalize after : Overlay.showProperty (e, look, classes) property value = out at found
  have element : out.1 = e.setStyle (cssText property) value true := by rw [← after]; rfl
  have saved : out.2.1 = look ∨ out.2.1 = { look with
      styles := Table.set look.styles (cssText property) (Table.get? e.style (cssText property)) } := by
    rw [← after, Overlay.showProperty]
    dsimp only
    split
    · exact Or.inl rfl
    · exact Or.inr rfl
  have classes : out.2.1.classes? = look.classes? := by obtain eq | eq := saved <;> rw [eq]
  have distinct : (Table.keys out.2.1.styles).Nodup := by
    obtain eq | eq := saved
    · rw [eq]
      exact worn.distinct
    · rw [eq]
      exact Table.nodup_keys_set worn.distinct _ _
  rw [element]
  refine ⟨worn.bare, worn.attributes, classes.trans worn.classes, fun name => ?_, fun name unsaved => ?_,
    fun name there => ?_, distinct⟩
  · rw [← worn.style name, beneath, found]
    split
    · rfl
    · rename_i other
      show (Table.get? look.styles name).getD (Table.get? (Table.set e.style _ _) name) = _
      rw [Table.get?_set, if_neg (by simpa using other)]
      rfl
  · rw [found] at unsaved
    split at unsaved
    · cases unsaved
    · rename_i other
      have kept : name ∈ (e.setStyle (cssText property) value true).important ↔ name ∈ e.important := by
        simp [Element.setStyle, other]
      rw [kept, worn.important name unsaved, not_or, and_iff_left (b := ¬ name = cssText property) other]
  · rw [found] at there
    split at there
    · rename_i same
      exact Or.inr same
    · exact Or.inl (worn.saved name there)

theorem showProperties (styles : Table String String) (acc : Element × SavedLook × Text)
    (worn : Worn e₀ acc.2.1 shown acc.1) :
    let out := styles.foldl (fun acc s => Overlay.showProperty acc s.1 s.2) acc
    Worn e₀ out.2.1 (fun name => shown name ∨ ∃ s ∈ styles, cssText s.1 = name) out.1 := by
  induction styles generalizing acc shown with
  | nil => exact worn.congr_shown fun name => by simp
  | cons s styles ih =>
    refine (ih _ (worn.showProperty s.1 s.2)).congr_shown fun name => ?_
    rw [or_assoc, eq_comm (a := name)]
    simp

/-- Of an element with a saved look, the classes may be any. -/
theorem setClass (worn : Worn e₀ look shown e) (classes : String) :
    Worn e₀ look shown (e.setAttribute "class" classes) := by
  refine ⟨worn.bare, fun name untracked other => ?_, worn.classes, worn.style, worn.important, worn.saved,
    worn.distinct⟩
  rw [Page.Registry.attribute?_setAttribute, if_neg (by simpa using other)]
  exact worn.attributes name untracked other

/-! ### The look given back -/

/-- Properties are given back one by one: each gets the value that is saved, and none is important. -/
theorem foldl_restore {styles : Table String (Option String)} (distinct : (Table.keys styles).Nodup)
    (e : Element) :
    let out := styles.foldl (fun e s => match s.2 with
      | some value => e.setStyle s.1 value false
      | none => e.removeStyle s.1) e
    out.bare = e.bare ∧ out.attributes = e.attributes ∧
      (∀ name, Table.get? out.style name = (Table.get? styles name).getD (Table.get? e.style name)) ∧
      ∀ name, name ∈ out.important ↔ name ∈ e.important ∧ Table.get? styles name = none := by
  induction styles generalizing e with
  | nil => exact ⟨rfl, rfl, fun _ => rfl, fun _ => (and_iff_left rfl).symm⟩
  | cons s styles ih =>
    obtain ⟨fresh, distinct⟩ := List.nodup_cons.mp distinct
    have unsaved : Table.get? styles s.1 = none := Table.get?_eq_none_iff.mpr fresh
    obtain ⟨given, first, bare, attributes, style, important⟩ : ∃ given : Element,
        given = (match s.2 with
          | some value => e.setStyle s.1 value false
          | none => e.removeStyle s.1) ∧ given.bare = e.bare ∧ given.attributes = e.attributes ∧
        (∀ name, Table.get? given.style name = if name == s.1 then s.2 else Table.get? e.style name) ∧
        given.important = e.important.filter (· != s.1) := by
      obtain ⟨name, value?⟩ := s
      cases value? with
      | some value => exact ⟨_, rfl, rfl, rfl, fun name => Table.get?_set .., rfl⟩
      | none => exact ⟨_, rfl, rfl, rfl, fun name => Table.get?_erase .., rfl⟩
    rw [List.foldl_cons, ← first]
    obtain ⟨bare', attributes', style', important'⟩ := ih distinct given
    refine ⟨bare'.trans bare, attributes'.trans attributes, fun name => ?_, fun name => ?_⟩
    · rw [style', style, Table.get?_cons]
      split
      · rename_i same
        rw [eq_of_beq same, unsaved]
        rfl
      · rfl
    · rw [important', important, Table.get?_cons]
      by_cases same : name = s.1
      · simp [same]
      · simp [same]

/-- **An element whose look is given back** wears nothing any more. -/
theorem restoreLook (worn : Worn e₀ look shown e) :
    Worn e₀ (ownLook (Overlay.restoreLook look e)) shown (Overlay.restoreLook look e) := by
  obtain ⟨bare, attributes, style, important⟩ := foldl_restore worn.distinct e
  unfold Overlay.restoreLook
  dsimp only
  generalize look.styles.foldl _ e = out at bare attributes style important ⊢
  have back : Worn e₀ { classes? := look.classes? } shown out := by
    refine ⟨bare.trans worn.bare, fun name untracked classes => ?_, worn.classes, fun name => ?_,
      fun name _ => ?_, fun name there => absurd rfl there, List.nodup_nil⟩
    · refine Eq.trans ?_ (worn.attributes name untracked classes)
      exact congrArg (Table.get? · name) attributes
    · exact (style name).trans (worn.style name)
    · rw [important]
      cases there : Table.get? look.styles name with
      | none => rw [worn.important name there, and_iff_left rfl]
      | some before =>
        have wasShown := worn.saved name (by rw [there]; exact Option.some_ne_none before)
        exact ⟨fun mem => (Option.some_ne_none before mem.2).elim, fun mem => absurd wasShown mem.2⟩
  cases classes : look.classes? with
  | some classes? =>
    rw [classes] at back
    refine (back.setClass classes?).own rfl ?_
    exact ((Page.Registry.attribute?_setAttribute ..).trans (if_pos rfl)).symm
  | none =>
    rw [classes] at back
    have removed : Worn e₀ { classes? := none } shown (out.removeAttribute "class") := by
      refine ⟨back.bare, fun name untracked other => ?_, back.classes, back.style, back.important,
        back.saved, back.distinct⟩
      refine Eq.trans ?_ (back.attributes name untracked other)
      exact (Table.get?_erase ..).trans (if_neg (by simpa using other))
    exact removed.own rfl ((Table.get?_erase ..).trans (if_pos (beq_self_eq_true _))).symm

/-! ### Styles set and taken away for good -/

/-- A property that is set on both. -/
theorem setStyle (worn : Worn e₀ (ownLook e) shown e) (name value : String) :
    Worn (e₀.setStyle name value false) (ownLook (e.setStyle name value false)) shown
      (e.setStyle name value false) := by
  refine ⟨worn.bare, worn.attributes, worn.classes, fun other => ?_, fun other unsaved => ?_, worn.saved,
    worn.distinct⟩
  · refine (Table.get?_set ..).trans (Eq.trans ?_ (Table.get?_set ..).symm)
    split
    · rfl
    · exact worn.style other
  · show other ∈ e.important.filter (· != name) ↔ other ∈ e₀.important.filter (· != name) ∧ _
    rw [List.mem_filter, List.mem_filter, worn.important other unsaved]
    exact and_right_comm

/-- A property that is taken away from both. -/
theorem removeStyle (worn : Worn e₀ (ownLook e) shown e) (name : String) :
    Worn (e₀.removeStyle name) (ownLook (e.removeStyle name)) shown (e.removeStyle name) := by
  refine ⟨worn.bare, worn.attributes, worn.classes, fun other => ?_, fun other unsaved => ?_, worn.saved,
    worn.distinct⟩
  · refine (Table.get?_erase ..).trans (Eq.trans ?_ (Table.get?_erase ..).symm)
    split
    · rfl
    · exact worn.style other
  · show other ∈ e.important.filter (· != name) ↔ other ∈ e₀.important.filter (· != name) ∧ _
    rw [List.mem_filter, List.mem_filter, worn.important other unsaved]
    exact and_right_comm

theorem congr {e₀' : Element} (worn : Worn e₀ look shown e) (alike : Alike e₀ e₀') : Worn e₀' look shown e where
  bare := worn.bare.trans alike.bare.symm
  attributes name untracked other :=
    (worn.attributes name untracked other).trans (alike.attributes name untracked).symm
  classes := worn.classes.trans (alike.attributes "class" (by decide)).symm
  style name := (worn.style name).trans (alike.style name).symm
  important name unsaved := by rw [worn.important name unsaved, alike.important]
  saved := worn.saved
  distinct := worn.distinct

/-- Where a property was taken away, an element looks as it did exactly if it did not have this property,
and nothing that was shown was important. -/
theorem alike_iff_of_removeStyle {name : String} (worn : Worn (e₀.removeStyle name) (ownLook e) shown e) :
    Alike e₀ e ↔ (Table.get? e₀.style name = none ∧ name ∉ e₀.important) ∧
      ∀ other, shown other → other ∉ e₀.important := by
  have important (other : String) := worn.important other rfl
  constructor
  · intro alike
    refine ⟨⟨?_, fun before => ?_⟩, fun other wasShown before => ?_⟩
    · rw [← alike.style name]
      exact (worn.style name).trans ((Table.get?_erase ..).trans (if_pos (beq_self_eq_true name)))
    · have kept := ((important name).mp ((alike.important name).mpr before)).1
      simp [Element.removeStyle] at kept
    · exact ((important other).mp ((alike.important other).mpr before)).2 wasShown
  · rintro ⟨⟨missing, unimportant⟩, others⟩
    exact (worn.congr (alike_removeStyle missing unimportant)).alike_iff.mpr others

/-- What an element holds does not matter to its look. -/
theorem congr_children {e' : Element} (worn : Worn e₀ look shown e)
    (same : { e' with children := [] } = { e with children := [] }) : Worn e₀ look shown e' := by
  have bare : e'.bare = e.bare := (congrArg Element.bare same :)
  have attributes : e'.attributes = e.attributes := (congrArg Element.attributes same :)
  have style : e'.style = e.style := (congrArg Element.style same :)
  have important : e'.important = e.important := (congrArg Element.important same :)
  refine ⟨bare.trans worn.bare, fun name untracked other => ?_, worn.classes, fun name => ?_,
    fun name unsaved => ?_, worn.saved, worn.distinct⟩
  · exact (congrArg (Table.get? · name) attributes).trans (worn.attributes name untracked other)
  · rw [← worn.style name, beneath, beneath, style]
  · rw [important, worn.important name unsaved]

end Worn

end Overlay

end Retouch
