import Mathlib.Data.List.Basic
import Mathlib.Logic.Function.Basic
import Retouch.Proofs.Page.Registered

/-!
# Guests on a page

A tool adds elements of its own to a page and takes them away again: guests, which come after the page's
own elements. Meanwhile the page hosts them (`Hosts`): its elements have the children that they had, but
for texts that were replaced (`Reworded`), and between these the guests. When the last guest has left and
the texts are what they were, so are the children (`Hosts.children_eq`).
-/

namespace Retouch

/-- The elements among the children are the elements that an element holds. -/
theorem Element.mem_elements_iff {e : Element} {id : ElementId} : id ∈ e.elements ↔ .element id ∈ e.children := by
  unfold elements
  rw [List.mem_filterMap]
  refine ⟨fun ⟨c, mem, is⟩ => ?_, fun mem => ⟨_, mem, rfl⟩⟩
  cases c with
  | text t => cases is
  | element _ =>
    cases is
    exact mem

end Retouch

namespace Retouch.Page

variable {κ : Type}

/-! ### Texts replaced among children -/

/-- Children with other texts in place of their texts, and texts put behind them. -/
inductive Reworded : List Node → List Node → Prop where
  /-- Texts are put behind the children. -/
  | texts (ts : List String) : Reworded [] (ts.map .text)
  /-- A text is replaced. -/
  | text {t t' : String} {l l' : List Node} : Reworded l l' → Reworded (.text t :: l) (.text t' :: l')
  /-- An element stays. -/
  | element {id : ElementId} {l l' : List Node} :
    Reworded l l' → Reworded (.element id :: l) (.element id :: l')

namespace Reworded

variable {l l' : List Node}

theorem refl (l : List Node) : Reworded l l := by
  induction l with
  | nil => exact .texts []
  | cons c l ih =>
    cases c with
    | text t => exact .text ih
    | element id => exact .element ih

theorem append (reworded : Reworded l l') (t : String) : Reworded l (l' ++ [.text t]) := by
  induction reworded with
  | texts ts =>
    have all := Reworded.texts (ts ++ [t])
    rwa [List.map_append] at all
  | text _ ih => exact .text ih
  | element _ ih => exact .element ih

theorem replace (reworded : Reworded l l') {new : String} {l'' : List Node}
    (replaced : Element.replaceFirstText? new l' = some l'') : Reworded l l'' := by
  induction reworded generalizing l'' with
  | texts ts =>
    suffices only : ∃ ts' : List String, l'' = ts'.map .text by
      obtain ⟨ts', rfl⟩ := only
      exact .texts ts'
    induction ts generalizing l'' with
    | nil => cases replaced
    | cons t ts ih =>
      rw [List.map_cons, Element.replaceFirstText?] at replaced
      split at replaced
      · obtain ⟨rest, later, rfl⟩ := Option.map_eq_some_iff.mp replaced
        obtain ⟨ts', rfl⟩ := ih later
        exact ⟨t :: ts', rfl⟩
      · cases replaced
        exact ⟨new :: ts, rfl⟩
  | text before ih =>
    rw [Element.replaceFirstText?] at replaced
    split at replaced
    · obtain ⟨rest, later, rfl⟩ := Option.map_eq_some_iff.mp replaced
      exact .text (ih later)
    · cases replaced
      exact .text before
  | element _ ih =>
    rw [Element.replaceFirstText?] at replaced
    obtain ⟨rest, later, rfl⟩ := Option.map_eq_some_iff.mp replaced
    exact .element (ih later)

/-- Elements stay. -/
theorem mem_element (reworded : Reworded l l') {id : ElementId} (mem : .element id ∈ l) : .element id ∈ l' := by
  induction reworded with
  | texts ts => cases mem
  | text _ ih =>
    obtain eq | mem := List.mem_cons.mp mem
    · cases eq
    · exact List.mem_cons_of_mem _ (ih mem)
  | element _ ih =>
    obtain eq | mem := List.mem_cons.mp mem
    · exact List.mem_cons.mpr (.inl eq)
    · exact List.mem_cons_of_mem _ (ih mem)

/-- Children with the same texts are the same. -/
theorem eq_of_texts (reworded : Reworded l l')
    (same : l'.filterMap Node.text? = l.filterMap Node.text?) : l' = l := by
  induction reworded with
  | texts ts =>
    cases ts with
    | nil => rfl
    | cons t ts => cases same
  | text _ ih =>
    obtain ⟨rfl, later⟩ := List.cons.inj same
    rw [ih later]
  | element _ ih => rw [ih same]

end Reworded

/-- The child is one of the elements behind the first `n`. -/
def isGuest (n : Nat) : Node → Bool
  | .element id => n ≤ id
  | .text _ => false

theorem filter_replaceFirstText? {n : Nat} {new : String} {l l' : List Node}
    (replaced : Element.replaceFirstText? new l = some l') :
    l'.filter (isGuest n) = l.filter (isGuest n) ∧
      Element.replaceFirstText? new (l.filter (!isGuest n ·)) = some (l'.filter (!isGuest n ·)) ∧
      ∀ id, .element id ∈ l' → .element id ∈ l := by
  induction l generalizing l' with
  | nil => cases replaced
  | cons c l ih =>
    cases c with
    | text t =>
      have own : isGuest n (.text t) = false := rfl
      rw [List.filter_cons_of_neg (by simp [own]), List.filter_cons_of_pos (by simp [own])]
      rw [Element.replaceFirstText?] at replaced ⊢
      split at replaced
      · rename_i blank
        obtain ⟨rest, later, rfl⟩ := Option.map_eq_some_iff.mp replaced
        obtain ⟨guests, others, elements⟩ := ih later
        refine ⟨?_, ?_, fun id mem => ?_⟩
        · rw [List.filter_cons_of_neg (by simp [own]), guests]
        · rw [if_pos blank, others, List.filter_cons_of_pos (by simp [own]), Option.map_some]
        · obtain eq | mem := List.mem_cons.mp mem
          · cases eq
          · exact List.mem_cons_of_mem _ (elements id mem)
      · rename_i filled
        cases replaced
        refine ⟨List.filter_cons_of_neg (by simp [isGuest]), ?_, fun id mem => ?_⟩
        · rw [if_neg filled, List.filter_cons_of_pos (by simp [isGuest])]
        · obtain eq | mem := List.mem_cons.mp mem
          · cases eq
          · exact List.mem_cons_of_mem _ mem
    | element id =>
      rw [Element.replaceFirstText?] at replaced
      obtain ⟨rest, later, rfl⟩ := Option.map_eq_some_iff.mp replaced
      obtain ⟨guests, others, elements⟩ := ih later
      refine ⟨?_, ?_, fun id' mem => ?_⟩
      · rw [List.filter_cons, List.filter_cons, guests]
      · rw [List.filter_cons, List.filter_cons]
        split
        · rw [Element.replaceFirstText?, others, Option.map_some]
        · exact others
      · obtain eq | mem := List.mem_cons.mp mem
        · exact List.mem_cons.mpr (Or.inl eq)
        · exact List.mem_cons_of_mem _ (elements id' mem)

/-- Children are elements of the page. -/
def IsClosed (p : Page κ) : Prop :=
  ∀ id child, .element child ∈ (p.element id).children → child < p.elements.length

/-- A page is closed if the children of each of its elements are. -/
theorem isClosed_of_forall {p : Page κ}
    (inside : ∀ e ∈ p.elements, ∀ child ∈ e.elements, child < p.elements.length) : p.IsClosed := by
  intro id child mem
  unfold element at mem
  cases there : p.elements[id]? with
  | none =>
    rw [there] at mem
    cases mem
  | some e =>
    rw [there] at mem
    exact inside e (List.mem_of_getElem? there) child (Element.mem_elements_iff.mpr mem)

/-! ### New elements and elements without a parent -/

variable {p p' : Page κ} {id child : ElementId}

/-- A page with a new element at the end of another one. -/
def add (p : Page κ) (parent : ElementId) (e : Element) : Page κ :=
  (p.create e).1.append parent p.elements.length

theorem length_create (p : Page κ) (e : Element) : (p.create e).1.elements.length = p.elements.length + 1 :=
  List.length_append

theorem element_create (p : Page κ) (e : Element) {id : ElementId} (within : id < p.elements.length) :
    (p.create e).1.element id = p.element id := by
  unfold element create
  rw [List.getElem?_append_left within]

theorem element_create_new (p : Page κ) (e : Element) : (p.create e).1.element p.elements.length = e := by
  unfold element create
  rw [List.getElem?_concat_length]
  rfl

theorem mem_children_create {e : Element} (mem : .element child ∈ ((p.create e).1.element id).children) :
    .element child ∈ (p.element id).children ∨ .element child ∈ e.children := by
  obtain old | rfl | beyond := Nat.lt_trichotomy id p.elements.length
  · rw [element_create p e old] at mem
    exact Or.inl mem
  · rw [element_create_new] at mem
    exact Or.inr mem
  · unfold element at mem
    rw [List.getElem?_eq_none (by rw [length_create]; exact beyond)] at mem
    cases mem

/-- An element that is nobody's child. -/
def IsLoose (p : Page κ) (child : ElementId) : Prop := ∀ id, .element child ∉ (p.element id).children

theorem isLoose_create (closed : p.IsClosed) {e : Element} (bare : ∀ child, .element child ∉ e.children) :
    IsLoose (p.create e).1 p.elements.length := by
  intro id mem
  obtain old | new := mem_children_create mem
  · exact Nat.lt_irrefl _ (closed id _ old)
  · exact bare _ new

/-- A loose element has no parent to be taken away from. -/
theorem remove_of_isLoose (loose : IsLoose p child) : p.remove child = p := by
  have none : p.parent? child = none := by
    refine List.findIdx?_eq_none_iff.mpr fun e mem => ?_
    obtain ⟨id, within, rfl⟩ := List.getElem_of_mem mem
    have absent := loose id
    rw [element, List.getElem?_eq_getElem within, Option.getD_some] at absent
    simpa using absent
  rw [remove, none]

theorem append_eq (loose : IsLoose p child) (parent : ElementId) :
    p.append parent child =
      p.modify parent fun e => { e with children := e.children ++ [.element child] } := by
  rw [append, remove_of_isLoose loose]

theorem IsLoose.congr (loose : IsLoose p child)
    (same : ∀ id, (p'.element id).children = (p.element id).children) : IsLoose p' child := by
  intro id
  rw [same]
  exact loose id

theorem IsLoose.create (loose : IsLoose p child) {e : Element} (bare : ∀ child, .element child ∉ e.children) :
    IsLoose (p.create e).1 child := by
  intro id mem
  obtain old | new := mem_children_create mem
  · exact loose id old
  · exact bare _ new

/-- An element stays loose when another one is put somewhere. -/
theorem IsLoose.append {other : ElementId} (loose : IsLoose p child) (otherLoose : IsLoose p other)
    (ne : child ≠ other) (parent : ElementId) : IsLoose (p.append parent other) child := by
  intro id mem
  rw [append_eq otherLoose] at mem
  by_cases eq : id = parent
  · subst eq
    by_cases there : id < p.elements.length
    · rw [element_modify_self p there] at mem
      obtain old | new := List.mem_append.mp mem
      · exact loose id old
      · cases List.mem_singleton.mp new
        exact ne rfl
    · rw [modify_of_le p (Nat.le_of_not_lt there)] at mem
      exact loose id mem
  · rw [element_modify_ne p eq] at mem
    exact loose id mem

/-! ### Children taken away -/

theorem elements_dropFocus (p : Page κ) (id : ElementId) :
    (p.dropFocus id).elements = p.elements ∧ (p.dropFocus id).registrations = p.registrations := by
  unfold dropFocus
  split
  · split <;> exact ⟨rfl, rfl⟩
  · exact ⟨rfl, rfl⟩

theorem removeChild_eq (p : Page κ) (parent child : ElementId) :
    (p.removeChild parent child).elements =
        (p.modify parent fun e => { e with children := e.children.erase (.element child) }).elements ∧
      (p.removeChild parent child).registrations = p.registrations := by
  unfold removeChild
  split
  · exact elements_dropFocus _ child
  · rename_i absent
    refine ⟨List.ext_getElem? fun i => ?_, rfl⟩
    unfold Page.modify
    rw [List.getElem?_modify]
    cases there : p.elements[i]? with
    | none => rfl
    | some e =>
      by_cases eq : parent = i
      · have found : p.element parent = e := by simp [element, eq, there]
        rw [found] at absent
        simp [eq, List.erase_of_not_mem (by simpa using absent)]
      · simp [eq]

theorem element_congr (same : p'.elements = p.elements) (id : ElementId) : p'.element id = p.element id := by
  rw [element, same]
  rfl

theorem setText_rest (p : Page κ) (id : ElementId) (t : String) :
    (p.setText id t).elements.length = p.elements.length ∧
      (p.setText id t).registrations = p.registrations ∧
      ∀ other, other ≠ id → (p.setText id t).element other = p.element other := by
  have removed (children : List ElementId) (q : Page κ) :
      let out := children.foldl (fun p child => p.removeChild id child) q
      out.elements.length = q.elements.length ∧ out.registrations = q.registrations ∧
        ∀ other, other ≠ id → out.element other = q.element other := by
    induction children generalizing q with
    | nil => exact ⟨rfl, rfl, fun _ _ => rfl⟩
    | cons child children ih =>
      obtain ⟨length, registrations, same⟩ := ih (q.removeChild id child)
      obtain ⟨elements, kept⟩ := removeChild_eq q id child
      refine ⟨?_, registrations.trans kept, fun other ne => ?_⟩
      · rw [List.foldl_cons, length, elements, length_modify]
      · rw [List.foldl_cons, same other ne, element_congr elements, element_modify_ne q ne]
  unfold setText
  obtain ⟨length, registrations, same⟩ := removed (p.element id).elements p
  refine ⟨?_, registrations, fun other ne => ?_⟩
  · rw [length_modify, length]
  · rw [element_modify_ne _ ne, same other ne]

/-! ### Elements left as they are -/

/-- The first `n` elements of a page are left as they are, whatever they hold. -/
structure Leaves (n : Nat) (p p' : Page κ) : Prop where
  /-- No element is missing. -/
  longer : p.elements.length ≤ p'.elements.length
  /-- The first `n` elements differ in their children at most. -/
  elements : ∀ id < n, { p'.element id with children := [] } = { p.element id with children := [] }

namespace Leaves

variable {n : Nat} {p'' : Page κ}

theorem refl (n : Nat) (p : Page κ) : Leaves n p p := ⟨Nat.le_refl _, fun _ _ => rfl⟩

theorem trans (first : Leaves n p p') (second : Leaves n p' p'') : Leaves n p p'' where
  longer := Nat.le_trans first.longer second.longer
  elements id own := (second.elements id own).trans (first.elements id own)

theorem congr (same : p'.elements = p.elements) : Leaves n p p' where
  longer := Nat.le_of_eq (congrArg List.length same.symm)
  elements id _ := by rw [element_congr same]

/-- Another element is changed. -/
theorem modify_guest (n : Nat) (p : Page κ) {id : ElementId} (guest : n ≤ id) (f : Element → Element) :
    Leaves n p (p.modify id f) where
  longer := Nat.le_of_eq (length_modify p id f).symm
  elements other own := by rw [element_modify_ne p (Nat.ne_of_lt (Nat.lt_of_lt_of_le own guest))]

/-- Children are changed. -/
theorem modify_children (n : Nat) (p : Page κ) (id : ElementId) (f : Element → List Node) :
    Leaves n p (p.modify id fun e => { e with children := f e }) where
  longer := Nat.le_of_eq (length_modify p id _).symm
  elements other _ := element_modify_same (g := fun e : Element => { e with children := [] }) rfl other

theorem create (within : n ≤ p.elements.length) (e : Element) : Leaves n p (p.create e).1 where
  longer := Nat.le_of_lt (Nat.lt_of_lt_of_eq (Nat.lt_succ_self _) (length_create p e).symm)
  elements id own := by rw [element_create p e (Nat.lt_of_lt_of_le own within)]

theorem removeChild (n : Nat) (p : Page κ) (parent child : ElementId) :
    Leaves n p (p.removeChild parent child) :=
  (modify_children n p parent _).trans (congr (removeChild_eq p parent child).1)

theorem remove (n : Nat) (p : Page κ) (child : ElementId) : Leaves n p (p.remove child) := by
  unfold Page.remove
  split
  · exact removeChild n p _ child
  · exact refl n p

theorem append (n : Nat) (p : Page κ) (parent child : ElementId) : Leaves n p (p.append parent child) :=
  (remove n p child).trans (modify_children n _ parent _)

/-- A new element is put into another one. -/
theorem add (within : n ≤ p.elements.length) (parent : ElementId) (e : Element) : Leaves n p (p.add parent e) :=
  (create within e).trans (append n _ parent _)

theorem setText (n : Nat) (p : Page κ) (id : ElementId) (t : String) : Leaves n p (p.setText id t) := by
  unfold Page.setText
  refine trans ?_ (modify_children n _ id _)
  exact List.foldlRecOn (motive := Leaves n p) _ _ (refl n p) fun q left child _ =>
    left.trans (removeChild n q id child)

end Leaves

/-- A new element is one more. -/
theorem lt_length_add (p : Page κ) (parent : ElementId) (e : Element) :
    p.elements.length < (p.add parent e).elements.length :=
  Nat.lt_of_lt_of_le (Nat.lt_of_lt_of_eq (Nat.lt_succ_self _) (length_create p e).symm)
    (Leaves.append 0 _ parent _).longer

@[simp] theorem registrations_remove (p : Page κ) (id : ElementId) :
    (p.remove id).registrations = p.registrations := by
  unfold remove
  split
  · exact (removeChild_eq p _ id).2
  · rfl

@[simp] theorem registrations_append (p : Page κ) (parent child : ElementId) :
    (p.append parent child).registrations = p.registrations := registrations_remove p child

@[simp] theorem registrations_add (p : Page κ) (parent : ElementId) (e : Element) :
    (p.add parent e).registrations = p.registrations := registrations_append ..

/-! ### What hosts guests -/

/-- The page has the elements of another one, with guests among the children of some. -/
structure Hosts (base : Page κ) (guests : ElementId → List ElementId) (p : Page κ) : Prop where
  /-- No element is missing. -/
  longer : base.elements.length ≤ p.elements.length
  /-- Children are elements of the page. -/
  closed : p.IsClosed
  /-- The guests among the children. -/
  guests : ∀ id < base.elements.length, (p.element id).children.filter (isGuest base.elements.length) =
    (guests id).map .element
  /-- The other children. -/
  others : ∀ id < base.elements.length, Reworded (base.element id).children
    ((p.element id).children.filter (!isGuest base.elements.length ·))

namespace Hosts

variable {base : Page κ} {guests : ElementId → List ElementId} {parent : ElementId}

/-- At first there are no guests. -/
theorem start (closed : p.IsClosed) : Hosts p (fun _ => []) p := by
  have own (id : ElementId) : ∀ c ∈ (p.element id).children, isGuest p.elements.length c = false := by
    intro c mem
    cases c with
    | text t => rfl
    | element child => simpa [isGuest] using closed id child mem
  refine ⟨Nat.le_refl _, closed, fun id _ => ?_, fun id _ => ?_⟩
  · exact List.filter_eq_nil_iff.mpr fun c mem => by simp [own id c mem]
  · rw [List.filter_eq_self.mpr fun c mem => by simp [own id c mem]]
    exact .refl _

/-- When no guests are left and the texts are the same, the children are. -/
theorem children_eq (hosts : Hosts base (fun _ => []) p) (within : id < base.elements.length)
    (texts : (p.element id).texts = (base.element id).texts) :
    (p.element id).children = (base.element id).children := by
  have none := List.filter_eq_nil_iff.mp (hosts.guests id within)
  have reworded := hosts.others id within
  rw [List.filter_eq_self.mpr fun c mem => by simpa using none c mem] at reworded
  exact reworded.eq_of_texts texts

theorem congr (hosts : Hosts base guests p) (length : p'.elements.length = p.elements.length)
    (same : ∀ id, (p'.element id).children = (p.element id).children) : Hosts base guests p' where
  longer := length ▸ hosts.longer
  closed id child mem := length ▸ hosts.closed id child (same id ▸ mem)
  guests id within := by rw [same, hosts.guests id within]
  others id within := by rw [same]; exact hosts.others id within

theorem congr_guests {guests' : ElementId → List ElementId} (hosts : Hosts base guests p)
    (same : ∀ id < base.elements.length, guests' id = guests id) : Hosts base guests' p where
  longer := hosts.longer
  closed := hosts.closed
  guests id within := by rw [same id within, hosts.guests id within]
  others := hosts.others

/-- A change that leaves the children. -/
theorem modify (hosts : Hosts base guests p) {f : Element → Element}
    (same : (f (p.element id)).children = (p.element id).children) : Hosts base guests (p.modify id f) :=
  hosts.congr (length_modify p id f) fun other => element_modify_same (g := Element.children) same other

/-- Whatever becomes of a guest, if its children are elements of the page. -/
theorem modify_guest (hosts : Hosts base guests p) (guest : base.elements.length ≤ id)
    (length : p'.elements.length = p.elements.length)
    (same : ∀ other, other ≠ id → p'.element other = p.element other)
    (closed : ∀ child, .element child ∈ (p'.element id).children → child < p'.elements.length) :
    Hosts base guests p' where
  longer := length ▸ hosts.longer
  closed other child mem := by
    by_cases eq : other = id
    · exact closed child (eq ▸ mem)
    · rw [same other eq] at mem
      exact length ▸ hosts.closed other child mem
  guests other within := by
    rw [same other (Nat.ne_of_lt (Nat.lt_of_lt_of_le within guest)), hosts.guests other within]
  others other within := by
    rw [same other (Nat.ne_of_lt (Nat.lt_of_lt_of_le within guest))]
    exact hosts.others other within

/-- A guest is a child of the elements that it is a guest of. -/
theorem mem_children_iff (hosts : Hosts base guests p) (guest : base.elements.length ≤ child)
    (within : id < base.elements.length) : .element child ∈ (p.element id).children ↔ child ∈ guests id := by
  have among : .element child ∈ (p.element id).children.filter (isGuest base.elements.length) ↔
      .element child ∈ (p.element id).children := by
    rw [List.mem_filter]
    exact and_iff_left (by simpa [isGuest] using guest)
  rw [← among, hosts.guests id within]
  simp

/-- The elements that an element of the page held, it goes on to hold. -/
theorem mem_children (hosts : Hosts base guests p) (within : id < base.elements.length)
    (mem : .element child ∈ (base.element id).children) : .element child ∈ (p.element id).children :=
  (List.mem_filter.mp ((hosts.others id within).mem_element mem)).1

/-! ### New elements -/

/-- A new element without elements in it, not yet in the tree. -/
theorem create (hosts : Hosts base guests p) {e : Element} (bare : ∀ child, .element child ∉ e.children) :
    Hosts base guests (p.create e).1 := by
  refine ⟨by rw [length_create]; exact Nat.le_succ_of_le hosts.longer, fun id child mem => ?_,
    fun id within => ?_, fun id within => ?_⟩
  · rw [length_create]
    obtain old | new := mem_children_create mem
    · exact Nat.lt_succ_of_lt (hosts.closed id child old)
    · exact absurd new (bare child)
  · rw [element_create p e (Nat.lt_of_lt_of_le within hosts.longer), hosts.guests id within]
  · rw [element_create p e (Nat.lt_of_lt_of_le within hosts.longer)]
    exact hosts.others id within

/-- A loose element becomes a guest. -/
theorem append (hosts : Hosts base guests p) (guest : base.elements.length ≤ child)
    (within : child < p.elements.length) (loose : IsLoose p child) (there : parent < p.elements.length) :
    Hosts base (Function.update guests parent (guests parent ++ [child])) (p.append parent child) := by
  have isGuest : isGuest base.elements.length (.element child) = true := by simpa [Page.isGuest] using guest
  rw [append_eq loose]
  have length := length_modify p parent fun e => { e with children := e.children ++ [.element child] }
  have self := element_modify_self p there fun e => { e with children := e.children ++ [.element child] }
  refine ⟨length ▸ hosts.longer, fun id other mem => ?_, fun id own => ?_, fun id own => ?_⟩
  · rw [length]
    by_cases eq : id = parent
    · rw [eq, self] at mem
      obtain old | new := List.mem_append.mp mem
      · exact hosts.closed parent other old
      · cases List.mem_singleton.mp new
        exact within
    · rw [element_modify_ne p eq] at mem
      exact hosts.closed id other mem
  · by_cases eq : id = parent
    · subst eq
      rw [self, Function.update_self, List.filter_append, hosts.guests id own,
        List.filter_cons_of_pos isGuest, List.map_append]
      rfl
    · rw [element_modify_ne p eq, Function.update_of_ne eq, hosts.guests id own]
  · by_cases eq : id = parent
    · subst eq
      rw [self, List.filter_append, List.filter_cons_of_neg (by simp [isGuest]), List.filter_nil,
        List.append_nil]
      exact hosts.others id own
    · rw [element_modify_ne p eq]
      exact hosts.others id own

/-- A new element becomes a guest. -/
theorem add (hosts : Hosts base guests p) {e : Element} (bare : ∀ child, .element child ∉ e.children)
    (there : parent < p.elements.length) :
    Hosts base (Function.update guests parent (guests parent ++ [p.elements.length])) (p.add parent e) :=
  (hosts.create bare).append hosts.longer (by rw [length_create]; exact Nat.lt_succ_self _)
    (isLoose_create hosts.closed bare) (by rw [length_create]; exact Nat.lt_succ_of_lt there)

/-! ### Elements taken away -/

/-- A guest of one element leaves it. -/
theorem remove (hosts : Hosts base guests p) (guest : base.elements.length ≤ child)
    (own : parent < base.elements.length) (mem : child ∈ guests parent)
    (only : ∀ id < base.elements.length, child ∈ guests id → id = parent) :
    Hosts base (Function.update guests parent ((guests parent).erase child)) (p.remove child) := by
  have there := Nat.lt_of_lt_of_le own hosts.longer
  have found : p.parent? child = some parent := by
    refine List.findIdx?_eq_some_iff_getElem.mpr ⟨there, ?_, fun i before => ?_⟩
    · have child := (hosts.mem_children_iff guest own).mpr mem
      rw [element, List.getElem?_eq_getElem there, Option.getD_some] at child
      simpa using child
    · have within : i < base.elements.length := Nat.lt_trans before own
      have absent : .element child ∉ (p.element i).children := fun child => by
        have eq := only i within ((hosts.mem_children_iff guest within).mp child)
        omega
      rw [element, List.getElem?_eq_getElem (Nat.lt_trans before there), Option.getD_some] at absent
      simpa using absent
  have removed : p.remove child = p.removeChild parent child := by rw [Page.remove, found]
  obtain ⟨elements, -⟩ := removeChild_eq p parent child
  rw [removed]
  have length := length_modify p parent fun e => { e with children := e.children.erase (.element child) }
  have self := element_modify_self p there fun e => { e with children := e.children.erase (.element child) }
  rw [← elements] at length
  refine ⟨length ▸ hosts.longer, fun id other mem => ?_, fun id own => ?_, fun id own => ?_⟩
  · rw [length]
    rw [element_congr elements] at mem
    by_cases eq : id = parent
    · rw [eq, self] at mem
      exact hosts.closed parent other (List.mem_of_mem_erase mem)
    · rw [element_modify_ne p eq] at mem
      exact hosts.closed id other mem
  · rw [element_congr elements]
    by_cases eq : id = parent
    · subst eq
      rw [self, Function.update_self, ← List.erase_filter, hosts.guests id own]
      exact (List.map_erase (fun _ _ => Node.element.inj) (guests id)).symm
    · rw [element_modify_ne p eq, Function.update_of_ne eq, hosts.guests id own]
  · rw [element_congr elements]
    by_cases eq : id = parent
    · subst eq
      rw [self, ← List.erase_filter, List.erase_of_not_mem]
      · exact hosts.others id own
      · rw [List.mem_filter]
        simp [isGuest, guest]
    · rw [element_modify_ne p eq]
      exact hosts.others id own

/-! ### Texts -/

/-- The text of an element replaced. -/
theorem replaceDirectText (hosts : Hosts base guests p) (id : ElementId) (new : String) :
    Hosts base guests (p.modify id (·.replaceDirectText new)) := by
  by_cases there : id < p.elements.length
  · have self := element_modify_self p there (·.replaceDirectText new)
    have length := length_modify p id (·.replaceDirectText new)
    have rest : ((p.element id).replaceDirectText new).children.filter (isGuest base.elements.length) =
          (p.element id).children.filter (isGuest base.elements.length) ∧
        (∀ l, Reworded l ((p.element id).children.filter (!isGuest base.elements.length ·)) →
          Reworded l (((p.element id).replaceDirectText new).children.filter
            (!isGuest base.elements.length ·))) ∧
        ∀ child, .element child ∈ ((p.element id).replaceDirectText new).children →
          .element child ∈ (p.element id).children := by
      unfold Element.replaceDirectText
      dsimp only
      cases replaced : Element.replaceFirstText? new (p.element id).children with
      | none =>
        rw [Option.getD_none, List.filter_append, List.filter_append]
        refine ⟨by simp [isGuest], fun l reworded => ?_, fun child mem => by simpa using mem⟩
        rw [List.filter_cons_of_pos (by simp [isGuest]), List.filter_nil]
        exact reworded.append new
      | some children =>
        obtain ⟨guests, others, elements⟩ :=
          filter_replaceFirstText? (n := base.elements.length) replaced
        exact ⟨guests, fun l reworded => reworded.replace others, elements⟩
    obtain ⟨same, reword, elements⟩ := rest
    refine ⟨length ▸ hosts.longer, fun other child mem => ?_, fun other own => ?_, fun other own => ?_⟩
    · rw [length]
      by_cases eq : other = id
      · rw [eq, self] at mem
        exact hosts.closed id child (elements child mem)
      · rw [element_modify_ne p eq] at mem
        exact hosts.closed other child mem
    · by_cases eq : other = id
      · subst eq
        rw [self, same, hosts.guests other own]
      · rw [element_modify_ne p eq, hosts.guests other own]
    · by_cases eq : other = id
      · subst eq
        rw [self]
        exact reword _ (hosts.others other own)
      · rw [element_modify_ne p eq]
        exact hosts.others other own
  · rw [modify_of_le p (Nat.le_of_not_lt there)]
    exact hosts

/-- A text is put into a guest. -/
theorem setText (hosts : Hosts base guests p) (guest : base.elements.length ≤ id) (t : String) :
    Hosts base guests (p.setText id t) := by
  obtain ⟨length, -, same⟩ := setText_rest p id t
  refine hosts.modify_guest guest length same fun child mem => ?_
  by_cases there : id < (p.setText id t).elements.length
  · unfold Page.setText at mem there
    rw [length_modify] at there
    rw [element_modify_self _ there] at mem
    cases List.mem_singleton.mp mem
  · unfold element at mem
    rw [List.getElem?_eq_none (Nat.le_of_not_lt there)] at mem
    cases mem

end Hosts

end Retouch.Page
