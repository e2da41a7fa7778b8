import Retouch.Page.Descriptor
import Retouch.Proofs.Table

/-!
# What the registry knows

The editor marks elements, draws on them and styles them, but as long as no text is edited it leaves
the tree and the ids of elements alone, and takes no mark away again (`Keeps`). So what is connected
stays connected.

A tracking value is given out once, so a selector that was given out for an element leads to that
element for good (`resolve?_of_given`). This rests on an invariant of registry and page together
(`Registered`), which holds of a page that was never marked and is preserved whenever a snapshot is
taken (`snapshot_marks`).
-/

namespace Retouch.Page

variable {κ : Type}

/-! ### One element changed -/

theorem length_modify (p : Page κ) (id : ElementId) (f : Element → Element) :
    (p.modify id f).elements.length = p.elements.length := List.length_modify f p.elements id

/-- The element that is changed. -/
theorem element_modify_self (p : Page κ) {id : ElementId} (within : id < p.elements.length)
    (f : Element → Element) : (p.modify id f).element id = f (p.element id) := by
  unfold element modify
  rw [List.getElem?_modify, List.getElem?_eq_getElem within]
  simp

/-- The other elements are not changed. -/
theorem element_modify_ne (p : Page κ) {id other : ElementId} (ne : other ≠ id)
    (f : Element → Element) : (p.modify id f).element other = p.element other := by
  unfold element modify
  rw [List.getElem?_modify_ne f p.elements (Ne.symm ne)]

/-- There is nothing to change beyond the last element. -/
theorem modify_of_le (p : Page κ) {id : ElementId} (beyond : p.elements.length ≤ id)
    (f : Element → Element) : p.modify id f = p := by
  unfold modify
  rw [List.modify_eq_self beyond]

/-- What a change leaves of an element, it leaves of every element. -/
theorem element_modify_same {α : Type} {p : Page κ} {id : ElementId} {f : Element → Element}
    {g : Element → α} (same : g (f (p.element id)) = g (p.element id)) (other : ElementId) :
    g ((p.modify id f).element other) = g (p.element other) := by
  by_cases eq : other = id
  · subst eq
    by_cases within : other < p.elements.length
    · rw [element_modify_self p within, same]
    · rw [modify_of_le p (Nat.le_of_not_lt within)]
  · rw [element_modify_ne p eq]

/-- What a change leaves of an element, it leaves of the list of all. -/
theorem map_modify {α : Type} {p : Page κ} {id : ElementId} {f : Element → Element} {g : Element → α}
    (same : g (f (p.element id)) = g (p.element id)) :
    (p.modify id f).elements.map g = p.elements.map g := by
  refine List.ext_getElem? fun i => ?_
  unfold modify
  rw [List.getElem?_map, List.getElem?_map, List.getElem?_modify]
  cases there : p.elements[i]? with
  | none => rfl
  | some e =>
    by_cases eq : id = i
    · have found : p.element id = e := by simp [element, eq, there]
      rw [found] at same
      simp [eq, same]
    · simp [eq]

/-! ### Pages that are kept -/

/-- The tracking value of an element, empty if it has none. -/
def tracking (p : Page κ) (id : ElementId) : String :=
  ((p.element id).attribute? trackingAttribute).getD ""

/-- A page with the same tree and the same ids, on which elements that were marked still are. -/
structure Keeps (p p' : Page κ) : Prop where
  /-- The tree is the same. -/
  children : p'.elements.map Element.children = p.elements.map Element.children
  /-- The ids are the same. -/
  ids : ∀ id, (p'.element id).id = (p.element id).id
  /-- The marks are there still. -/
  tracked : ∀ id, tracking p id ≠ "" → tracking p' id = tracking p id

namespace Keeps

variable {p p' p'' : Page κ}

theorem refl (p : Page κ) : Keeps p p := ⟨rfl, fun _ => rfl, fun _ _ => rfl⟩

theorem trans (first : Keeps p p') (second : Keeps p' p'') : Keeps p p'' where
  children := second.children.trans first.children
  ids id := (second.ids id).trans (first.ids id)
  tracked id marked := by
    have same := first.tracked id marked
    rw [second.tracked id (same ▸ marked), same]

theorem length (keeps : Keeps p p') : p'.elements.length = p.elements.length := by
  simpa using congrArg List.length keeps.children

theorem parent? (keeps : Keeps p p') (id : ElementId) : p'.parent? id = p.parent? id := by
  have found (q : Page κ) : q.parent? id =
      (q.elements.map Element.children).findIdx? (·.contains (.element id)) := by
    rw [List.findIdx?_map]
    rfl
  rw [found, found, keeps.children]

theorem ancestorsWithin (keeps : Keeps p p') (n : Nat) (id : ElementId) :
    p'.ancestorsWithin n id = p.ancestorsWithin n id := by
  induction n generalizing id with
  | zero => rfl
  | succ n ih =>
    unfold Page.ancestorsWithin
    rw [keeps.parent?]
    cases p.parent? id with
    | none => rfl
    | some parent => exact congrArg (parent :: ·) (ih parent)

/-- What is connected stays connected. -/
theorem isConnected (keeps : Keeps p p') (id : ElementId) : p'.isConnected id = p.isConnected id := by
  unfold Page.isConnected ancestors
  rw [keeps.ancestorsWithin, keeps.length]

/-- A change to one element that leaves its children, its id and its mark. -/
theorem modify {id : ElementId} {f : Element → Element}
    (children : (f (p.element id)).children = (p.element id).children)
    (ids : (f (p.element id)).id = (p.element id).id)
    (tracked : (f (p.element id)).attribute? trackingAttribute =
      (p.element id).attribute? trackingAttribute) : Keeps p (p.modify id f) where
  children := map_modify children
  ids other := element_modify_same (g := Element.id) ids other
  tracked other _ := by
    unfold tracking
    rw [element_modify_same (g := fun e => e.attribute? trackingAttribute) tracked other]

end Keeps

/-- The parent of an element is on the page. -/
theorem lt_of_parent? {p : Page κ} {id parent : ElementId} (found : p.parent? id = some parent) :
    parent < p.elements.length := (List.findIdx?_eq_some_iff_getElem.mp found).1

end Retouch.Page

namespace Retouch.Page.Registry

variable {κ : Type}

/-! ### Tracking values are told apart -/

/-- The tracking value of a number. -/
def trackingText (n : Nat) (salt : String) : String := "el-" ++ toString n ++ "-" ++ salt

theorem toList_trackingText (n : Nat) (salt : String) :
    (trackingText n salt).toList = ['e', 'l', '-'] ++ Nat.toDigits 10 n ++ '-' :: salt.toList := by
  simp [trackingText, Nat.toString_eq_repr, Nat.repr]

/-- The number at the end of a text behind a hyphen. -/
theorem eq_of_digits {front front' : List Char} {m n : Nat}
    (same : front ++ '-' :: Nat.toDigits 10 m = front' ++ '-' :: Nat.toDigits 10 n) : m = n := by
  have last (front : List Char) (k : Nat) :
      (front ++ '-' :: Nat.toDigits 10 k).reverse.takeWhile Char.isDigit = (Nat.toDigits 10 k).reverse := by
    rw [List.reverse_append, List.reverse_cons, List.append_assoc, List.takeWhile_append_of_pos]
    · simp
    · intro c hc
      exact Nat.isDigit_of_mem_toDigits (by decide) (by decide) (List.mem_reverse.mp hc)
  have digits := congrArg (fun l => (List.takeWhile Char.isDigit l.reverse).reverse) same
  simp only [last, List.reverse_reverse] at digits
  have numbers := congrArg (fun l => Nat.ofDigitChars 10 l 0) digits
  simpa using numbers

/-- **Tracking values are told apart.** -/
theorem trackingText_injective {m n : Nat} {salt : String}
    (same : trackingText m salt = trackingText n salt) : m = n := by
  have lists := congrArg String.toList same
  rw [toList_trackingText, toList_trackingText] at lists
  have figures : ['e', 'l'] ++ '-' :: Nat.toDigits 10 m = ['e', 'l'] ++ '-' :: Nat.toDigits 10 n :=
    List.append_cancel_right lists
  exact eq_of_digits figures

theorem trackingText_ne_empty (n : Nat) (salt : String) : trackingText n salt ≠ "" := by
  intro empty
  have lists := congrArg String.toList empty
  rw [toList_trackingText] at lists
  simp at lists

/-- A selector tells the number of its tracking value. -/
theorem toList_selectorText (n : Nat) (salt id : String) : ∃ front,
    (selectorText (trackingText n salt) id).toList =
      front ++ '-' :: Nat.toDigits 10 n ++ ('-' :: salt.toList ++ ['"', ']']) := by
  have base : ("[" ++ trackingAttribute ++ "=\"" ++ trackingText n salt ++ "\"]").toList =
      "[data-liveedit-id=\"el".toList ++ '-' :: Nat.toDigits 10 n ++ ('-' :: salt.toList ++ ['"', ']']) := by
    simp [toList_trackingText, trackingAttribute]
  unfold selectorText
  dsimp only
  split
  · exact ⟨_, base⟩
  · refine ⟨("#" ++ id).toList ++ "[data-liveedit-id=\"el".toList, ?_⟩
    rw [String.toList_append, base]
    simp

/-- **Selectors of different tracking values are told apart.** -/
theorem selectorText_injective {m n : Nat} {salt id id' : String}
    (same : selectorText (trackingText m salt) id = selectorText (trackingText n salt) id') : m = n := by
  obtain ⟨front, left⟩ := toList_selectorText m salt id
  obtain ⟨front', right⟩ := toList_selectorText n salt id'
  have lists := congrArg String.toList same
  rw [left, right] at lists
  exact eq_of_digits (List.append_cancel_right lists)

/-! ### The invariant -/

/-- Every mark was given out, no two elements have the same one, and the registry leads from a
tracking value to its element. -/
structure Registered (r : Registry) (p : Page κ) : Prop where
  /-- Marks are tracking values that were given out. -/
  given : ∀ id, tracking p id ≠ "" → ∃ n ≤ r.given, tracking p id = trackingText n r.salt
  /-- Marks are told apart. -/
  distinct : ∀ id id', tracking p id ≠ "" → tracking p id = tracking p id' → id = id'
  /-- The registry leads to elements with the mark. -/
  elements : ∀ t id, Table.get? r.elements t = some id → tracking p id = t ∧ t ≠ ""
  /-- Selectors are made of tracking values that lead to elements. -/
  selectors : ∀ t s, (t, s) ∈ r.selectors →
    (∃ idText, s = selectorText t idText) ∧ ∃ id, Table.get? r.elements t = some id

/-- A selector was given out for an element. -/
structure GivenFor (r : Registry) (p : Page κ) (s : String) (id : ElementId) : Prop where
  /-- It is the selector of the element's mark. -/
  selector : Table.get? r.selectors (tracking p id) = some s
  /-- The mark leads to the element. -/
  element : Table.get? r.elements (tracking p id) = some id

variable {r r' : Registry} {p p' : Page κ} {s s' : String} {id id' : ElementId}

theorem GivenFor.marked (given : GivenFor r p s id) (registered : Registered r p) : tracking p id ≠ "" :=
  (registered.elements _ _ given.element).2

/-- An element has one selector. -/
theorem GivenFor.unique (given : GivenFor r p s id) (given' : GivenFor r p s' id) : s = s' :=
  Option.some.inj (given.selector.symm.trans given'.selector)

/-- A selector that was given out is not empty. -/
theorem GivenFor.filled (given : GivenFor r p s id) (registered : Registered r p) :
    s.isEmpty = false := by
  obtain ⟨⟨idText, rfl⟩, -⟩ := registered.selectors _ s (Table.mem_of_get? given.selector)
  refine Bool.eq_false_iff.mpr fun empty => ?_
  have lists := congrArg String.toList (String.isEmpty_iff.mp empty)
  unfold selectorText at lists
  dsimp only at lists
  split at lists <;> simp at lists

/-- A selector was given out for one tracking value. -/
theorem Registered.eq_of_selector (registered : Registered r p) {t t' : String}
    (mem : (t, s) ∈ r.selectors) (mem' : (t', s) ∈ r.selectors) : t = t' := by
  have number (t : String) (mem : (t, s) ∈ r.selectors) : ∃ n, t = trackingText n r.salt := by
    obtain ⟨-, id, leads⟩ := registered.selectors t s mem
    obtain ⟨mark, marked⟩ := registered.elements t id leads
    rw [← mark] at marked ⊢
    obtain ⟨n, -, eq⟩ := registered.given id marked
    exact ⟨n, eq⟩
  obtain ⟨m, rfl⟩ := number t mem
  obtain ⟨n, rfl⟩ := number t' mem'
  obtain ⟨⟨idText, eq⟩, -⟩ := registered.selectors _ s mem
  obtain ⟨⟨idText', eq'⟩, -⟩ := registered.selectors _ s mem'
  rw [selectorText_injective (eq.symm.trans eq')]

/-- A selector that was given out for one mark only leads to the element with this mark. -/
theorem GivenFor.resolve? (given : GivenFor r p s id) (only : ∀ e ∈ r.selectors, e.2 = s → e.1 = tracking p id)
    (connected : p.isConnected id = true) : r.resolve? p s = some id := by
  have mem : (tracking p id, s) ∈ r.selectors := Table.mem_of_get? given.selector
  have leads : (Table.get? r.elements (tracking p id)).filter p.isConnected = some id := by
    rw [given.element]
    exact Option.filter_some_pos connected
  have known : (r.selectors.findSome? fun e => if e.2 == s then
      (Table.get? r.elements e.1).filter p.isConnected else none) = some id := by
    generalize r.selectors = l at mem only
    induction l with
    | nil => cases mem
    | cons e l ih =>
      rw [List.findSome?_cons]
      by_cases same : e.2 = s
      · rw [if_pos (by simpa using same), only e (List.mem_cons_self ..) same, leads]
      · rw [if_neg (by simpa using same)]
        refine ih ?_ fun e' he' => only e' (List.mem_cons_of_mem _ he')
        obtain rfl | later := List.mem_cons.mp mem
        · exact absurd rfl same
        · exact later
  unfold Registry.resolve?
  dsimp only
  split
  · rename_i found
    exact found.symm.trans known
  · rename_i unknown
    cases unknown.symm.trans known

/-- **A selector leads to the element that it was given out for**, as long as that is on the page. -/
theorem resolve?_of_given (registered : Registered r p) (given : GivenFor r p s id)
    (connected : p.isConnected id = true) : r.resolve? p s = some id := by
  have mem : (tracking p id, s) ∈ r.selectors := Table.mem_of_get? given.selector
  refine given.resolve? ?_ connected
  rintro ⟨t, s'⟩ mem' rfl
  exact registered.eq_of_selector mem' mem

/-- A page that was never marked, before anything was given out. -/
theorem Registered.start (unmarked : ∀ id, tracking p id = "") (elements : r.elements = [])
    (selectors : r.selectors = []) : Registered r p where
  given id marked := absurd (unmarked id) marked
  distinct id _ marked := absurd (unmarked id) marked
  elements t id leads := by
    rw [elements] at leads
    cases leads
  selectors t s mem := by
    rw [selectors] at mem
    cases mem

/-- The invariant speaks of marks only. -/
theorem Registered.congr (registered : Registered r p) (same : ∀ id, tracking p' id = tracking p id) :
    Registered r p' where
  given id := by
    rw [same]
    exact registered.given id
  distinct id id' := by
    rw [same, same]
    exact registered.distinct id id'
  elements t id := by
    rw [same]
    exact registered.elements t id
  selectors := registered.selectors

theorem GivenFor.congr (given : GivenFor r p s id) (same : tracking p' id = tracking p id) :
    GivenFor r p' s id :=
  ⟨same ▸ given.selector, same ▸ given.element⟩

/-! ### Marking elements -/

/-- What it does to the registry and the page that elements are marked: the invariant holds, the page
is kept with its styles, and the selectors that were given out lead where they led. -/
structure Marks (r : Registry) (p : Page κ) (r' : Registry) (p' : Page κ) : Prop where
  /-- The invariant holds. -/
  registered : Registered r' p'
  /-- The page is kept. -/
  keeps : Keeps p p'
  /-- Styles are left alone. -/
  styles : ∀ id, (p'.element id).style = (p.element id).style
  /-- Selectors lead where they led. -/
  given : ∀ s id, GivenFor r p s id → GivenFor r' p' s id

theorem Marks.refl (registered : Registered r p) : Marks r p r p :=
  ⟨registered, .refl p, fun _ => rfl, fun _ _ given => given⟩

theorem Marks.trans {r'' : Registry} {p'' : Page κ} (first : Marks r p r' p')
    (second : Marks r' p' r'' p'') : Marks r p r'' p'' where
  registered := second.registered
  keeps := first.keeps.trans second.keeps
  styles id := (second.styles id).trans (first.styles id)
  given s id given := second.given s id (first.given s id given)

/-- An attribute that is set is there. -/
theorem attribute?_setAttribute (e : Element) (name other value : String) :
    (e.setAttribute name value).attribute? other =
      if other == name then some value else e.attribute? other := Table.get?_set ..

/-- An element that carries a new tracking value. -/
def fresh (r : Registry) : String := trackingText (r.given + 1) r.salt

theorem tracking_fresh (r : Registry) (p : Page κ) (id' : ElementId) {id : ElementId}
    (within : id < p.elements.length) :
    tracking (p.modify id (·.setAttribute trackingAttribute r.fresh)) id' =
      if id' = id then r.fresh else tracking p id' := by
  unfold tracking
  split
  · rename_i same
    rw [same, element_modify_self p within, attribute?_setAttribute, if_pos (beq_self_eq_true _)]
    rfl
  · rename_i other
    rw [element_modify_ne p other]

/-- A new mark is told apart from all others. -/
theorem Registered.mark (registered : Registered r p) (within : id < p.elements.length)
    (unmarked : tracking p id = "") :
    Marks r p { r with given := r.given + 1 }
      (p.modify id (·.setAttribute trackingAttribute r.fresh)) := by
  have marks := fun id' => tracking_fresh r p id' within
  have old (id' : ElementId) (marked : tracking p id' ≠ "") :
      tracking (p.modify id (·.setAttribute trackingAttribute r.fresh)) id' = tracking p id' := by
    rw [marks, if_neg]
    rintro rfl
    exact marked unmarked
  have new (id' : ElementId) : tracking p id' ≠ r.fresh := by
    intro same
    have marked : tracking p id' ≠ "" := same ▸ trackingText_ne_empty _ _
    obtain ⟨n, hn, eq⟩ := registered.given id' marked
    have := trackingText_injective (eq.symm.trans same)
    omega
  refine ⟨⟨?_, ?_, ?_, registered.selectors⟩, ⟨?_, ?_, old⟩, ?_, ?_⟩
  · intro id'
    rw [marks]
    split
    · exact fun _ => ⟨r.given + 1, Nat.le_refl _, rfl⟩
    · intro marked
      obtain ⟨n, hn, eq⟩ := registered.given id' marked
      exact ⟨n, Nat.le_succ_of_le hn, eq⟩
  · intro id₁ id₂
    rw [marks, marks]
    split
    · rename_i eq₁
      split
      · rename_i eq₂
        exact fun _ _ => eq₁.trans eq₂.symm
      · exact fun _ same => absurd same.symm (new id₂)
    · split
      · exact fun _ same => absurd same (new id₁)
      · exact registered.distinct id₁ id₂
  · intro t id' leads
    obtain ⟨mark, marked⟩ := registered.elements t id' leads
    exact ⟨(old id' (mark ▸ marked)).trans mark, marked⟩
  · exact map_modify rfl
  · refine fun other => element_modify_same (g := Element.id) ?_ other
    unfold Element.id
    rw [attribute?_setAttribute, if_neg (by decide)]
  · exact fun other => element_modify_same (g := Element.style) rfl other
  · intro s id' given
    have same := old id' (given.marked registered)
    exact ⟨same ▸ given.selector, same ▸ given.element⟩

theorem track_marks (registered : Registered r p) (within : id < p.elements.length) :
    Marks r p (r.track p id).1 (r.track p id).2.1 ∧
      tracking (r.track p id).2.1 id = (r.track p id).2.2 ∧ (r.track p id).2.2 ≠ "" := by
  unfold track
  dsimp only
  split
  · rename_i empty
    refine ⟨registered.mark within (String.isEmpty_iff.mp empty), ?_, trackingText_ne_empty _ _⟩
    exact (tracking_fresh r p id within).trans (if_pos rfl)
  · rename_i marked
    exact ⟨.refl registered, rfl, fun empty => marked (String.isEmpty_iff.mpr empty)⟩

/-- It does not matter that another mark is entered. -/
theorem GivenFor.enter (given : GivenFor r p s id') (distinct : tracking p id' = tracking p id → id = id') :
    GivenFor { r with elements := Table.set r.elements (tracking p id) id } p s id' := by
  refine ⟨given.selector, (Table.get?_set ..).trans ?_⟩
  split
  · rename_i same
    exact congrArg some (distinct (eq_of_beq same))
  · exact given.element

/-- The registry leads from a mark to its element from now on. -/
theorem Registered.enter (registered : Registered r p) (marked : tracking p id ≠ "") :
    Marks r p { r with elements := Table.set r.elements (tracking p id) id } p := by
  have leads (t : String) := Table.get?_set r.elements (tracking p id) t id
  refine ⟨⟨registered.given, registered.distinct, ?_, ?_⟩, .refl p, fun _ => rfl, ?_⟩
  · intro t id' found
    rw [leads] at found
    split at found
    · rename_i same
      cases found
      exact ⟨(eq_of_beq same).symm, eq_of_beq same ▸ marked⟩
    · exact registered.elements t id' found
  · intro t s mem
    obtain ⟨text, id', found⟩ := registered.selectors t s mem
    refine ⟨text, ?_⟩
    rw [leads]
    split
    · exact ⟨id, rfl⟩
    · exact ⟨id', found⟩
  · exact fun s id' given => given.enter fun same => registered.distinct id id' marked same.symm

/-- It does not matter that a selector is given out for a mark that has none. -/
theorem GivenFor.name (given : GivenFor r p s id') (unnamed : Table.get? r.selectors (tracking p id) = none)
    (selector : String) :
    GivenFor { r with selectors := Table.set r.selectors (tracking p id) selector } p s id' := by
  refine ⟨?_, given.element⟩
  have other : tracking p id' ≠ tracking p id := by
    intro same
    have named := given.selector
    rw [same, unnamed] at named
    cases named
  exact (Table.get?_set ..).trans ((if_neg (by simpa using other)).trans given.selector)

/-- A selector is given out for a mark that has none. -/
theorem Registered.name (registered : Registered r p) (leads : Table.get? r.elements (tracking p id) = some id)
    (unnamed : Table.get? r.selectors (tracking p id) = none) (idText : String) :
    Marks r p
      { r with
        selectors := Table.set r.selectors (tracking p id) (selectorText (tracking p id) idText) }
      p := by
  refine ⟨⟨registered.given, registered.distinct, registered.elements, ?_⟩, .refl p, fun _ => rfl, ?_⟩
  · intro t s mem
    obtain new | old := Table.mem_of_mem_set mem
    · cases new
      exact ⟨⟨idText, rfl⟩, id, leads⟩
    · exact registered.selectors t s old
  · exact fun s id' given => given.name unnamed _

/-- **A selector is given out for an element**, and it is its selector from now on. -/
theorem selectorFor_marks (registered : Registered r p) (within : id < p.elements.length) :
    Marks r p (r.selectorFor p id).1 (r.selectorFor p id).2.1 ∧
      GivenFor (r.selectorFor p id).1 (r.selectorFor p id).2.1 (r.selectorFor p id).2.2 id := by
  obtain ⟨marks, mark, marked⟩ := track_marks registered within
  unfold selectorFor
  generalize r.track p id = tracked at marks mark marked ⊢
  obtain ⟨r₁, p₁, t⟩ := tracked
  dsimp only at marks mark marked ⊢
  subst mark
  have entered := marks.trans (marks.registered.enter marked)
  have leads : Table.get? (Table.set r₁.elements (tracking p₁ id) id) (tracking p₁ id) = some id :=
    (Table.get?_set ..).trans (if_pos (beq_self_eq_true _))
  split
  · rename_i selector named
    exact ⟨entered, named, leads⟩
  · rename_i unnamed
    refine ⟨entered.trans (entered.registered.name leads unnamed (p₁.element id).id), ?_, leads⟩
    exact (Table.get?_set ..).trans (if_pos (beq_self_eq_true _))

theorem parentSelector_marks (registered : Registered r p) (id : ElementId) :
    Marks r p (parentSelector r p id).1 (parentSelector r p id).2.1 := by
  unfold parentSelector
  split
  · exact .refl registered
  · rename_i parent found
    dsimp only
    split
    · exact .refl registered
    · exact (selectorFor_marks registered (lt_of_parent? found)).1

/-- **A snapshot** marks its element and its parent, and carries the selector of the element. -/
theorem snapshot_marks (registered : Registered r p) (within : id < p.elements.length)
    (position? : Option SourcePosition) :
    Marks r p (snapshot r p id position?).1 (snapshot r p id position?).2.1 ∧
      GivenFor (snapshot r p id position?).1 (snapshot r p id position?).2.1
        (snapshot r p id position?).2.2.selector id := by
  have parent := parentSelector_marks registered id
  have within' : id < (parentSelector r p id).2.1.elements.length := by rwa [parent.keeps.length]
  obtain ⟨own, given⟩ := selectorFor_marks parent.registered within'
  unfold snapshot
  dsimp only
  exact ⟨parent.trans own, given⟩

end Retouch.Page.Registry
