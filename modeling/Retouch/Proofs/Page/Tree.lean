import Retouch.Proofs.Page.Guests
import Retouch.Proofs.Page.Registered

/-!
# The tree of a page

Elements may be marked and drawn on without a change to the tree and to the ids (`SameTree`). What is
reached from an element is the element itself and what is reached from those that it holds, so it stays
within every set of elements that holds its own children (`mem_subtreeWithin`).
-/

namespace Retouch.Page

variable {κ : Type} {p p' p'' : Page κ} {id : ElementId}

/-! ### Elements that are tracked -/

/-- A snapshot changes the page by tracking elements, and not otherwise. -/
theorem Registry.snapshot_induction {P : Page κ → Prop}
    (track : ∀ p id tracking, P p → P (p.modify id (·.setAttribute trackingAttribute tracking)))
    (r : Registry) {p : Page κ} (holds : P p) (id : ElementId) (position? : Option SourcePosition) :
    P (Page.snapshot r p id position?).2.1 := by
  have selector (r : Registry) {p : Page κ} (holds : P p) (id : ElementId) : P (r.selectorFor p id).2.1 := by
    have tracked : P (r.track p id).2.1 := by
      unfold Registry.track
      dsimp only
      split
      · exact track p id _ holds
      · exact holds
    unfold selectorFor
    dsimp only
    split <;> exact tracked
  have parent : P (parentSelector r p id).2.1 := by
    unfold parentSelector
    split
    · exact holds
    · dsimp only
      split
      · exact holds
      · exact selector r holds _
  unfold Page.snapshot
  dsimp only
  exact selector _ parent id

/-! ### The same tree -/

/-- A page with the same tree, the same ids and the same listeners. -/
structure SameTree (p p' : Page κ) : Prop where
  /-- Elements hold what they held. -/
  children : p'.elements.map Element.children = p.elements.map Element.children
  /-- Ids are the same. -/
  ids : ∀ id, (p'.element id).id = (p.element id).id
  /-- So are the listeners. -/
  registrations : p'.registrations = p.registrations

namespace SameTree

theorem refl (p : Page κ) : SameTree p p := ⟨rfl, fun _ => rfl, rfl⟩

theorem trans (first : SameTree p p') (second : SameTree p' p'') : SameTree p p'' where
  children := second.children.trans first.children
  ids id := (second.ids id).trans (first.ids id)
  registrations := second.registrations.trans first.registrations

/-- One element is changed, but neither in what it holds nor in its id. -/
theorem modify (p : Page κ) {id : ElementId} {f : Element → Element}
    (children : (f (p.element id)).children = (p.element id).children)
    (ids : (f (p.element id)).id = (p.element id).id) : SameTree p (p.modify id f) where
  children := map_modify children
  ids other := element_modify_same (g := Element.id) ids other
  registrations := rfl

theorem length (same : SameTree p p') : p'.elements.length = p.elements.length := by
  simpa using congrArg List.length same.children

theorem element (same : SameTree p p') (id : ElementId) :
    (p'.element id).children = (p.element id).children := by
  have there (q : Page κ) : (q.element id).children = ((q.elements.map Element.children)[id]?).getD [] := by
    rw [List.getElem?_map, Page.element]
    cases q.elements[id]? <;> rfl
  rw [there, there, same.children]

/-- An element is marked. -/
theorem track (p : Page κ) (id : ElementId) (tracking : String) :
    SameTree p (p.modify id (·.setAttribute trackingAttribute tracking)) := by
  refine modify p rfl ?_
  unfold Element.id
  rw [Registry.attribute?_setAttribute, if_neg (by decide)]

/-- A snapshot is taken. -/
theorem snapshot (r : Registry) (p : Page κ) (id : ElementId) (position? : Option SourcePosition) :
    SameTree p (Page.snapshot r p id position?).2.1 :=
  Registry.snapshot_induction (P := SameTree p) (fun q id tracking same => same.trans (track q id tracking))
    r (refl p) id position?

end SameTree

/-! ### Parents -/

theorem mem_children_of_parent? {parent child : ElementId} (found : p.parent? child = some parent) :
    .element child ∈ (p.element parent).children := by
  obtain ⟨within, holds, -⟩ := List.findIdx?_eq_some_iff_getElem.mp found
  rw [element, List.getElem?_eq_getElem within]
  exact List.contains_iff_mem.mp holds

/-- An element that holds no elements is nobody's parent. -/
theorem parent?_ne_of_bare (bare : (p.element id).elements = []) (child : ElementId) : p.parent? child ≠ some id := by
  intro parent
  have held := Element.mem_elements_iff.mpr (mem_children_of_parent? parent)
  rw [bare] at held
  exact List.not_mem_nil held

theorem length_remove (p : Page κ) (child : ElementId) : (p.remove child).elements.length = p.elements.length := by
  unfold remove
  split
  · rw [(removeChild_eq p _ child).1, length_modify]
  · rfl

/-- Elements other than the parent of an element are left alone when the element is taken away. -/
theorem element_remove (same : p'.elements = p.elements) {child : ElementId}
    (apart : p.parent? child ≠ some id) : (p'.remove child).element id = p.element id := by
  have parent : p'.parent? child = p.parent? child := by rw [parent?, same]; rfl
  unfold remove
  rw [parent]
  cases found : p.parent? child with
  | none => exact element_congr same id
  | some parent =>
    have ne : id ≠ parent := fun eq => apart (eq ▸ found)
    dsimp only
    rw [element_congr (removeChild_eq p' parent child).1, element_modify_ne _ ne, element_congr same]

/-! ### New elements -/

/-- A new element without elements in it is put at the end of another one. -/
theorem element_add (closed : p.IsClosed) {e : Element} (bare : ∀ child, .element child ∉ e.children)
    {parent : ElementId} (there : parent < p.elements.length) :
    let q := p.add parent e
    q.IsClosed ∧ q.elements.length = p.elements.length + 1 ∧ q.element p.elements.length = e ∧
      (q.element parent = { p.element parent with
        children := (p.element parent).children ++ [.element p.elements.length] }) ∧
      ∀ other < p.elements.length, other ≠ parent → q.element other = p.element other := by
  have loose := isLoose_create closed bare
  have longer : parent < (p.create e).1.elements.length := by
    rw [length_create]
    exact Nat.lt_succ_of_lt there
  refine ⟨((Hosts.start closed).add bare there).closed, ?_, ?_, ?_, fun other within ne => ?_⟩
  · rw [add, append_eq loose, length_modify, length_create]
  · rw [add, append_eq loose, element_modify_ne _ (Nat.ne_of_gt there), element_create_new]
  · rw [add, append_eq loose, element_modify_self _ longer, element_create p e there]
  · rw [add, append_eq loose, element_modify_ne _ ne, element_create p e within]

/-! ### What is reached -/

/-- What is reached from an element stays among the elements that have a property which passes on to
children. -/
theorem mem_subtreeWithin {S : ElementId → Prop} (passes : ∀ id, S id → ∀ child ∈ (p.element id).elements, S child)
    (n : Nat) {id other : ElementId} (holds : S id) (mem : other ∈ p.subtreeWithin n id) : S other := by
  induction n generalizing id with
  | zero =>
    obtain rfl := List.mem_singleton.mp mem
    exact holds
  | succ n ih =>
    obtain rfl | mem := List.mem_cons.mp mem
    · exact holds
    · obtain ⟨child, held, mem⟩ := List.mem_flatMap.mp mem
      exact ih (passes id holds child held) mem

/-- An element is reached from itself. -/
theorem mem_subtreeWithin_self (p : Page κ) (n : Nat) (id : ElementId) : id ∈ p.subtreeWithin n id := by
  cases n with
  | zero => exact List.mem_singleton_self id
  | succ n => exact List.mem_cons_self

/-- What is reached from one of its children is reached from an element. -/
theorem mem_subtreeWithin_of_child {n : Nat} {child other : ElementId} (held : child ∈ (p.element id).elements)
    (mem : other ∈ p.subtreeWithin n child) : other ∈ p.subtreeWithin (n + 1) id :=
  List.mem_cons_of_mem _ (List.mem_flatMap.mpr ⟨child, held, mem⟩)

/-- The text of an element that holds no elements. -/
theorem text_of_bare (bare : (p.element id).elements = []) : p.text id = String.join (p.element id).texts := by
  have only (read : Node → String) (itself : ∀ t, read (.text t) = t) (l : List Node)
      (none : l.filterMap Node.element? = []) : l.map read = l.filterMap Node.text? := by
    induction l with
    | nil => rfl
    | cons c l ih =>
      cases c with
      | text t => exact congrArg₂ List.cons (itself t) (ih none)
      | element child => cases none
  unfold text textWithin
  exact congrArg String.join (only _ (fun _ => rfl) _ bare)

end Retouch.Page
