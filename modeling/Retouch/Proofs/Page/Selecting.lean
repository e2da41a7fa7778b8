import Mathlib.Data.List.TakeWhile
import Retouch.Proofs.Page.Tree
import Retouch.Proofs.Text

/-!
# Selectors in the course of time

The selector of an element ends with the element's tracking value in quotes. So selectors of different
tracking values differ (`selectorText_inj`), and the elements that a selector names all carry its tracking
value (`tracking_of_query?`), whatever id it has in front: no attribute that is read from the start of the
selector reaches into the end of it.

While selectors are given out, elements are made, moved, taken away and given other ids, and the registry
forgets those that are not on the page (`Change`). Whatever is done, no other element is ever given the
selector of an element, and the selector leads to no other one; and until the element is forgotten, its
selector stays the same and leads to it whenever it is on the page (`selectors_stay`). What tracking values
end in may differ from one to the next.
-/

namespace Retouch.Page

open Retouch.Text
open Retouch.Locate (isWordOrHyphen)

variable {κ : Type}

/-! ### Tracking values in quotes -/

/-- A text that can be told from the quotes around it and from a bracket. -/
structure IsMark (t : String) : Prop where
  /-- It starts with a letter. -/
  start : ∃ rest, t.toList = 'e' :: rest
  /-- It has no quotes in it. -/
  plain : '"' ∉ t.toList

/-- Tracking values are such texts, if what they end in has no quotes in it. -/
theorem isMark_trackingText (n : Nat) {salt : String} (plain : '"' ∉ salt.toList) :
    IsMark (Registry.trackingText n salt) := by
  have digit {c : Char} (mem : c ∈ Nat.toDigits 10 n) : c.isDigit = true :=
    Nat.isDigit_of_mem_toDigits (by decide) (by decide) mem
  constructor
  · rw [Registry.toList_trackingText]
    exact ⟨_, rfl⟩
  · rw [Registry.toList_trackingText]
    intro mem
    obtain mem | mem := List.mem_append.mp mem
    · obtain mem | mem := List.mem_append.mp mem
      · exact absurd mem (by decide)
      · exact absurd (digit mem) (by decide)
    · obtain eq | mem := List.mem_cons.mp mem
      · exact absurd eq (by decide)
      · exact plain mem

/-- Tracking values of different numbers differ, whatever they end in. -/
theorem number_of_trackingText {m n : Nat} {salt salt' : String}
    (same : Registry.trackingText m salt = Registry.trackingText n salt') : m = n := by
  have digits (k : Nat) (salt : String) :
      ((Registry.trackingText k salt).toList.drop 3).takeWhile Char.isDigit = Nat.toDigits 10 k := by
    rw [Registry.toList_trackingText, List.append_assoc, List.cons_append, List.cons_append, List.cons_append,
      List.drop_succ_cons, List.drop_succ_cons, List.drop_succ_cons, List.drop_zero, List.nil_append,
      List.takeWhile_append_of_pos fun c mem => Nat.isDigit_of_mem_toDigits (by decide) (by decide) mem,
      List.takeWhile_cons_of_neg (by decide), List.append_nil]
  have numbers := congrArg (fun l => Nat.ofDigitChars 10 l 0) ((digits m salt).symm.trans (same ▸ digits n salt'))
  simpa using numbers

/-- A selector's text from the bracket on. -/
def markPart (t : String) : Text := '[' :: (trackingAttribute.toList ++ '=' :: '"' :: (t.toList ++ ['"', ']']))

theorem toList_selectorText_eq (t id : String) :
    ∃ front, (Registry.selectorText t id).toList = front ++ markPart t := by
  have base : ("[" ++ trackingAttribute ++ "=\"" ++ t ++ "\"]").toList = markPart t := by
    simp [markPart]
  unfold Registry.selectorText
  dsimp only
  split
  · exact ⟨[], base⟩
  · refine ⟨("#" ++ id).toList, ?_⟩
    rw [String.toList_append, base]

/-- **Selectors of different tracking values differ.** -/
theorem selectorText_inj {t t' id id' : String} (mark : IsMark t) (mark' : IsMark t')
    (same : Registry.selectorText t id = Registry.selectorText t' id') : t = t' := by
  -- what stands between the last two quotes
  let quoted (l : Text) : Text := ((l.reverse.drop 2).takeWhile (· != '"')).reverse
  have read {t : String} (mark : IsMark t) (front : Text) : quoted (front ++ markPart t) = t.toList := by
    have others : ∀ c ∈ t.toList.reverse, (c != '"') = true := by
      intro c mem
      rw [bne_iff_ne]
      rintro rfl
      exact mark.plain (List.mem_reverse.mp mem)
    simp [quoted, markPart, List.takeWhile_append_of_pos others]
  obtain ⟨front, whole⟩ := toList_selectorText_eq t id
  obtain ⟨front', whole'⟩ := toList_selectorText_eq t' id'
  rw [← String.toList_inj, ← read mark front, ← read mark' front', ← whole, ← whole', same]

/-! ### Attributes read from a selector -/

namespace Query

/-- What is read of an attribute. -/
theorem attributeAt?_spec {t : Text} {name value : Text} {n : Nat}
    (found : attributeAt? t = some ((name, value), n)) : ∃ rest,
      t = '[' :: (name ++ '=' :: '"' :: (value ++ '"' :: ']' :: rest)) ∧
      (∀ c ∈ name, isWordOrHyphen c = true) ∧ '"' ∉ value ∧ n = name.length + value.length + 5 := by
  have cut (p : Char → Bool) (l : Text) : l = l.takeWhile p ++ l.drop (l.takeWhile p).length :=
    (List.prefix_iff_eq_append.mp (List.takeWhile_prefix p)).symm
  unfold attributeAt? at found
  simp only [Option.bind_eq_bind, Option.bind_eq_some_iff] at found
  obtain ⟨behind, opened, behind', equals, rest, closed, read⟩ := found
  split at read
  · cases read
  · obtain ⟨⟨rfl, rfl⟩, rfl⟩ := Option.some.inj read
    refine ⟨rest, ?_, fun c mem => List.mem_takeWhile_imp mem, fun mem => ?_, rfl⟩
    · calc t = '[' :: behind := dropHead?_eq_some opened
        _ = '[' :: (behind.takeWhile isWordOrHyphen ++ '=' :: '"' :: behind') :=
          congrArg _ ((cut isWordOrHyphen behind).trans (congrArg _ (dropHead?_eq_some equals)))
        _ = '[' :: (behind.takeWhile isWordOrHyphen ++ '=' :: '"' ::
              (behind'.takeWhile (· != '"') ++ '"' :: ']' :: rest)) :=
          congrArg (fun l => '[' :: (behind.takeWhile isWordOrHyphen ++ '=' :: '"' :: l))
            ((cut (· != '"') behind').trans (congrArg _ (dropHead?_eq_some closed)))
    · simpa using List.mem_takeWhile_imp mem

/-- An attribute in brackets is read. -/
theorem attributeAt?_read {name value : Text} (filled : name ≠ [])
    (word : ∀ c ∈ name, isWordOrHyphen c = true) (plain : '"' ∉ value) (rest : Text) :
    attributeAt? ('[' :: (name ++ '=' :: '"' :: (value ++ '"' :: ']' :: rest))) =
      some ((name, value), name.length + value.length + 5) := by
  have others : ∀ c ∈ value, (c != '"') = true := by
    intro c mem
    rw [bne_iff_ne]
    rintro rfl
    exact plain mem
  have named (rest : Text) : (name ++ '=' :: rest).takeWhile isWordOrHyphen = name := by
    rw [List.takeWhile_append_of_pos word, List.takeWhile_cons_of_neg (by decide), List.append_nil]
  have quoted (rest : Text) : (value ++ '"' :: rest).takeWhile (· != '"') = value := by
    rw [List.takeWhile_append_of_pos others, List.takeWhile_cons_of_neg (by decide), List.append_nil]
  have some : name.isEmpty = false := by simpa using filled
  simp only [attributeAt?, dropHead?, beq_self_eq_true, if_true, Option.bind_eq_bind, Option.bind_some, named,
    quoted, List.drop_left, some, Bool.false_eq_true, if_false]

/-- What stands in front of a character that a text does not have starts with that text. -/
theorem exists_of_append_cons {front behind t rest : Text} {c : Char} (whole : front ++ c :: behind = t ++ rest)
    (other : c ∉ t) : ∃ front', front = t ++ front' ∧ rest = front' ++ c :: behind := by
  obtain ⟨gap, eq, same⟩ | split := List.append_eq_append_iff.mp whole
  · cases gap with
    | nil => exact ⟨[], by rw [eq, List.append_nil, List.append_nil], same.symm⟩
    | cons d gap =>
      obtain ⟨rfl, -⟩ := List.cons.inj same
      exact absurd (eq ▸ List.mem_append_right _ (List.mem_cons_self ..)) other
  · exact split

/-- An attribute that is read in front of the last bracket does not reach into it: the bracket could only
stand in its value, but the first quote behind the bracket is not followed by another bracket. -/
theorem length_le_of_attributeAt? {front : Text} {t : String} (mark : IsMark t) (filled : front ≠ [])
    {found : Text × Text} {n : Nat} (read : attributeAt? (front ++ markPart t) = some (found, n)) :
    n ≤ front.length := by
  obtain ⟨rest, whole, word, plain, rfl⟩ := attributeAt?_spec read
  obtain ⟨name, value⟩ := found
  obtain ⟨c, front, rfl⟩ := List.exists_cons_of_ne_nil filled
  dsimp only at whole word plain ⊢
  rw [List.cons_append] at whole
  obtain ⟨-, whole⟩ := List.cons.inj whole
  have unnamed : '[' ∉ name ++ ['=', '"'] := by
    intro mem
    obtain mem | mem := List.mem_append.mp mem
    · exact absurd (word _ mem) (by decide)
    · exact absurd mem (by decide)
  have opened : front ++ markPart t = (name ++ ['=', '"']) ++ (value ++ '"' :: ']' :: rest) := by
    rw [whole, List.append_assoc]
    rfl
  obtain ⟨front', rfl, closed⟩ := exists_of_append_cons opened unnamed
  obtain ⟨behind, rfl, ends⟩ | ⟨behind, rfl, ends⟩ := List.append_eq_append_iff.mp closed
  · -- the attribute ends before the bracket
    obtain ⟨behind', rfl, -⟩ := exists_of_append_cons (t := ['"', ']']) ends.symm (by decide)
    simp only [List.length_append, List.length_cons, List.length_nil]
    omega
  · -- the bracket is in the value
    exfalso
    obtain ⟨letters, start⟩ := mark.start
    have head : markPart t = ('[' :: trackingAttribute.toList ++ ['=']) ++ '"' :: (t.toList ++ ['"', ']']) := by
      simp [markPart]
    rw [← markPart, head] at ends
    have other : '"' ∉ behind := fun mem => plain (List.mem_append_right _ mem)
    obtain ⟨between, same, after⟩ := exists_of_append_cons ends other
    cases between with
    | nil =>
      rw [start] at after
      exact absurd (List.cons.inj (List.cons.inj after).2).1 (by decide)
    | cons d between =>
      obtain ⟨rfl, -⟩ := List.cons.inj after
      have mem : '"' ∈ '[' :: trackingAttribute.toList ++ ['='] := by
        rw [same]
        exact List.mem_append_right _ (List.mem_cons_self ..)
      exact absurd mem (by decide)

/-- The tracking value is read, whatever is in front of it. -/
theorem mem_attributesFrom {t : String} (mark : IsMark t) (front : Text) {skip : Nat} (le : skip ≤ front.length) :
    (trackingAttribute.toList, t.toList) ∈ attributesFrom skip (front ++ markPart t) := by
  induction front generalizing skip with
  | nil =>
    obtain rfl := Nat.le_zero.mp le
    have read := attributeAt?_read (by decide : trackingAttribute.toList ≠ []) (by decide) mark.plain []
    unfold markPart
    rw [List.nil_append, attributesFrom, read]
    exact List.mem_cons_self ..
  | cons c front ih =>
    cases skip with
    | succ skip => exact ih (Nat.le_of_succ_le_succ le)
    | zero =>
      rw [List.cons_append, attributesFrom]
      split
      · rename_i found n read
        have inside := length_le_of_attributeAt? mark (List.cons_ne_nil c front) read
        exact List.mem_cons_of_mem _ (ih (Nat.sub_le_of_le_add inside))
      · exact ih (Nat.zero_le _)

end Query

/-- **Whatever a selector names carries its tracking value.** -/
theorem tracking_of_query? {p : Page κ} {t idText : String} (mark : IsMark t) {id : ElementId}
    (found : p.query? (Registry.selectorText t idText) = some id) : tracking p id = t := by
  obtain ⟨front, whole⟩ := toList_selectorText_eq t idText
  unfold query? at found
  dsimp only at found
  split at found
  · cases found
  · have hit := List.find?_some found
    unfold Query.hits at hit
    obtain ⟨-, all⟩ := Bool.and_eq_true_iff.mp hit
    have mem : (trackingAttribute.toList, t.toList) ∈
        (Query.ofText (Registry.selectorText t idText).toList).attributes := by
      unfold Query.ofText
      rw [whole]
      exact Query.mem_attributesFrom mark front (Nat.zero_le _)
    have carried := List.all_eq_true.mp all _ mem
    have value : (p.element id).attribute? trackingAttribute = some t := by simpa using carried
    rw [tracking, value]
    rfl

end Retouch.Page

namespace Retouch.Page

open Registry (GivenFor selectorText trackingText tracking_fresh)

variable {κ : Type}

/-! ### Pages whose elements are tracked -/

/-- The element carries no tracking value. -/
def IsUntracked (e : Element) : Prop := (e.attribute? trackingAttribute).getD "" = ""

instance (e : Element) : Decidable (IsUntracked e) := inferInstanceAs (Decidable (_ = _))

/-- A page and what is known of its elements. -/
structure TrackedPage (κ : Type) where
  /-- What is known. -/
  registry : Registry
  /-- The page. -/
  page : Page κ

/-- What is done with a page while selectors are given out. -/
inductive Change where
  /-- A new element is made. -/
  | create (e : Element) (untracked : IsUntracked e)
  /-- An element is moved to the end of another one. -/
  | append (parent child : ElementId)
  /-- An element is taken away from its parent. -/
  | remove (id : ElementId)
  /-- An element is given another id, or none. -/
  | rename (id : ElementId) (name? : Option String)
  /-- A selector is given out for an element; if it is tracked only now, its tracking value ends in `salt`. -/
  | select (id : ElementId) (salt : String) (plain : '"' ∉ salt.toList)
  /-- Elements that are not on the page are forgotten. -/
  | forget

namespace TrackedPage

/-- The selector of an element. -/
def selectorFor (w : TrackedPage κ) (id : ElementId) (salt : String) : TrackedPage κ × String :=
  let (registry, page, selector) := ({ w.registry with salt } : Registry).selectorFor w.page id
  (⟨registry, page⟩, selector)

/-- The page after something was done. Selectors are given out for elements that there are. -/
def perform (w : TrackedPage κ) : Change → TrackedPage κ
  | .create e _ => { w with page := (w.page.create e).1 }
  | .append parent child => { w with page := w.page.append parent child }
  | .remove id => { w with page := w.page.remove id }
  | .rename id (some name) => { w with page := w.page.modify id (·.setAttribute "id" name) }
  | .rename id none => { w with page := w.page.modify id (·.removeAttribute "id") }
  | .select id salt _ => if id < w.page.elements.length then (w.selectorFor id salt).1 else w
  | .forget => { w with registry := (w.registry.forgetDetached w.page).1 }

/-- The page after all that was done. -/
def run (w : TrackedPage κ) (changes : List Change) : TrackedPage κ := changes.foldl perform w

/-- An element is forgotten when something is done. -/
def Forgets (w : TrackedPage κ) (id : ElementId) : Change → Prop
  | .forget => w.page.isConnected id = false
  | _ => False

/-- An element is not forgotten in the course of time. -/
def IsKept (id : ElementId) : TrackedPage κ → List Change → Prop
  | _, [] => True
  | w, c :: changes => ¬ w.Forgets id c ∧ (w.perform c).IsKept id changes

end TrackedPage

/-! ### Marks that stay -/

section Marks

variable {p p' : Page κ} {id : ElementId}

theorem tracking_modify {f : Element → Element}
    (same : (f (p.element id)).attribute? trackingAttribute = (p.element id).attribute? trackingAttribute)
    (other : ElementId) : tracking (p.modify id f) other = tracking p other :=
  congrArg (·.getD "") (element_modify_same (g := fun e => e.attribute? trackingAttribute) same other)

theorem tracking_remove (p : Page κ) (child other : ElementId) :
    tracking (p.remove child) other = tracking p other := by
  unfold remove
  split
  · rename_i parent _
    have removed : tracking (p.removeChild parent child) other = tracking (p.modify parent _) other :=
      congrArg (fun e : Element => (e.attribute? trackingAttribute).getD "")
        (element_congr (removeChild_eq p parent child).1 other)
    exact removed.trans (tracking_modify rfl other)
  · rfl

theorem tracking_append (p : Page κ) (parent child other : ElementId) :
    tracking (p.append parent child) other = tracking p other :=
  (tracking_modify rfl other).trans (tracking_remove p child other)

theorem tracking_create (p : Page κ) {e : Element} (untracked : IsUntracked e) (other : ElementId) :
    tracking (p.create e).1 other = tracking p other := by
  obtain within | eq | beyond := Nat.lt_trichotomy other p.elements.length
  · rw [tracking, element_create p e within, tracking]
  · subst eq
    have missing : tracking p p.elements.length = "" := by
      rw [tracking, element, List.getElem?_eq_none (Nat.le_refl _)]
      rfl
    rw [tracking, element_create_new, missing]
    exact untracked
  · have missing (q : Page κ) (beyond : q.elements.length ≤ other) : tracking q other = "" := by
      rw [tracking, element, List.getElem?_eq_none beyond]
      rfl
    rw [missing _ (length_create p e ▸ beyond), missing p (Nat.le_of_lt beyond)]

end Marks

/-! ### The invariant -/

/-- What is known is in order: marks are tracking values that were given out, each to one element, and the
registry leads from marks to their elements and selectors. -/
structure InOrder (w : TrackedPage κ) : Prop where
  /-- Marks are tracking values that were given out. -/
  given : ∀ id, tracking w.page id ≠ "" →
    ∃ n ≤ w.registry.given, ∃ salt, '"' ∉ salt.toList ∧ tracking w.page id = trackingText n salt
  /-- Marks are told apart. -/
  distinct : ∀ id id', tracking w.page id ≠ "" → tracking w.page id = tracking w.page id' → id = id'
  /-- Elements are known by their marks. -/
  elements : ∀ t id, (t, id) ∈ w.registry.elements → tracking w.page id = t ∧ t ≠ ""
  /-- Selectors are made of marks that lead to elements. -/
  selectors : ∀ t s, (t, s) ∈ w.registry.selectors →
    (∃ idText, s = selectorText t idText) ∧ ∃ id, Table.get? w.registry.elements t = some id

/-- A page that goes on: no element is missing, and none has lost its mark. -/
structure GoesOn (w w' : TrackedPage κ) : Prop where
  /-- No element is missing. -/
  longer : w.page.elements.length ≤ w'.page.elements.length
  /-- Marks stay. -/
  marks : ∀ id, tracking w.page id ≠ "" → tracking w'.page id = tracking w.page id

variable {w w' w'' : TrackedPage κ} {id : ElementId} {s : String}

theorem GoesOn.refl (w : TrackedPage κ) : GoesOn w w := ⟨Nat.le_refl _, fun _ _ => rfl⟩

theorem GoesOn.trans (first : GoesOn w w') (second : GoesOn w' w'') : GoesOn w w'' where
  longer := Nat.le_trans first.longer second.longer
  marks id marked := by
    have same := first.marks id marked
    rw [second.marks id (same ▸ marked), same]

namespace InOrder

theorem isMark (inOrder : InOrder w) (marked : tracking w.page id ≠ "") : IsMark (tracking w.page id) := by
  obtain ⟨n, -, salt, plain, eq⟩ := inOrder.given id marked
  rw [eq]
  exact isMark_trackingText n plain

/-- A page without marks, before anything is known. -/
theorem start (untracked : ∀ e ∈ w.page.elements, IsUntracked e) (elements : w.registry.elements = [])
    (selectors : w.registry.selectors = []) : InOrder w := by
  have unmarked (id : ElementId) : tracking w.page id = "" := by
    unfold tracking element
    cases there : w.page.elements[id]? with
    | none => rfl
    | some e => exact untracked e (List.mem_of_getElem? there)
  refine ⟨fun id marked => absurd (unmarked id) marked, fun id _ marked => absurd (unmarked id) marked, ?_, ?_⟩
  · rw [elements]
    exact fun _ _ none => nomatch none
  · rw [selectors]
    exact fun _ _ none => nomatch none

/-- It matters only which marks elements have. -/
theorem congr {page : Page κ} (inOrder : InOrder w) (same : ∀ id, tracking page id = tracking w.page id) :
    InOrder { w with page } := by
  obtain ⟨given, distinct, elements, selectors⟩ := inOrder
  refine ⟨?_, ?_, ?_, selectors⟩
  · intro id
    rw [same]
    exact given id
  · intro id id'
    rw [same, same]
    exact distinct id id'
  · intro t id
    rw [same]
    exact elements t id

/-! ### Selectors given out -/

/-- An element gets a mark. -/
theorem mark (inOrder : InOrder w) (within : id < w.page.elements.length) (unmarked : tracking w.page id = "")
    {salt : String} (plain : '"' ∉ salt.toList) :
    let t := trackingText (w.registry.given + 1) salt
    let w' : TrackedPage κ := ⟨{ w.registry with salt, given := w.registry.given + 1 },
      w.page.modify id (·.setAttribute trackingAttribute t)⟩
    InOrder w' ∧ tracking w'.page id = t ∧ ∀ id', tracking w.page id' ≠ "" →
      tracking w'.page id' = tracking w.page id' := by
  have marks := fun id' => tracking_fresh { w.registry with salt } w.page id' within
  let t := trackingText (w.registry.given + 1) salt
  have old (id' : ElementId) (marked : tracking w.page id' ≠ "") :
      tracking (w.page.modify id (·.setAttribute trackingAttribute t)) id' = tracking w.page id' := by
    refine (marks id').trans (if_neg ?_)
    rintro rfl
    exact marked unmarked
  have new (id' : ElementId) : tracking w.page id' ≠ t := by
    intro same
    have marked : tracking w.page id' ≠ "" := same ▸ Registry.trackingText_ne_empty _ _
    obtain ⟨n, le, salt', -, eq⟩ := inOrder.given id' marked
    have := number_of_trackingText (eq.symm.trans same)
    omega
  refine ⟨⟨?_, ?_, ?_, inOrder.selectors⟩, (marks id).trans (if_pos rfl), old⟩
  · intro id' marked
    by_cases eq : id' = id
    · exact ⟨_, Nat.le_refl _, salt, plain, (marks id').trans (if_pos eq)⟩
    · have same := (marks id').trans (if_neg eq)
      obtain ⟨n, le, salt', plain', text⟩ := inOrder.given id' (same ▸ marked)
      exact ⟨n, Nat.le_succ_of_le le, salt', plain', same.trans text⟩
  · intro id₁ id₂ marked same
    have marks₁ := marks id₁
    have marks₂ := marks id₂
    split at marks₁ <;> split at marks₂
    · rename_i eq₁ eq₂
      exact eq₁.trans eq₂.symm
    · exact absurd (marks₂.symm.trans (same.symm.trans marks₁)) (new id₂)
    · exact absurd (marks₁.symm.trans (same.trans marks₂)) (new id₁)
    · exact inOrder.distinct id₁ id₂ (marks₁ ▸ marked) (marks₁.symm.trans (same.trans marks₂))
  · intro t' id' mem
    obtain ⟨mark, marked⟩ := inOrder.elements t' id' mem
    exact ⟨(old id' (mark ▸ marked)).trans mark, marked⟩

/-- A mark leads to its element from now on. -/
theorem enter (inOrder : InOrder w) (marked : tracking w.page id ≠ "") :
    InOrder ⟨{ w.registry with elements := Table.set w.registry.elements (tracking w.page id) id }, w.page⟩ := by
  refine ⟨inOrder.given, inOrder.distinct, fun t id' mem => ?_, fun t s mem => ?_⟩
  · obtain new | old := Table.mem_of_mem_set mem
    · cases new
      exact ⟨rfl, marked⟩
    · exact inOrder.elements t id' old
  · obtain ⟨text, id', found⟩ := inOrder.selectors t s mem
    refine ⟨text, ?_⟩
    rw [Table.get?_set]
    split
    · exact ⟨id, rfl⟩
    · exact ⟨id', found⟩

/-- A mark gets a selector. -/
theorem name (inOrder : InOrder w) (leads : Table.get? w.registry.elements (tracking w.page id) = some id)
    (idText : String) :
    InOrder ⟨{ w.registry with
      selectors := Table.set w.registry.selectors (tracking w.page id) (selectorText (tracking w.page id) idText) },
      w.page⟩ := by
  refine ⟨inOrder.given, inOrder.distinct, inOrder.elements, fun t s mem => ?_⟩
  obtain new | old := Table.mem_of_mem_set mem
  · cases new
    exact ⟨⟨idText, rfl⟩, id, leads⟩
  · exact inOrder.selectors t s old

/-- An element that has a mark is entered, and a selector is given out for it unless it has one. -/
theorem select_marked (inOrder : InOrder w) (marked : tracking w.page id ≠ "") :
    ∃ registry selector, w.registry.selectorFor w.page id = (registry, w.page, selector) ∧
      InOrder ⟨registry, w.page⟩ ∧ GivenFor registry w.page selector id ∧
      ∀ s id', GivenFor w.registry w.page s id' → GivenFor registry w.page s id' := by
  have tracked : w.registry.track w.page id = (w.registry, w.page, tracking w.page id) :=
    if_neg fun empty => marked (String.isEmpty_iff.mp empty)
  have entered := inOrder.enter marked
  have leads : Table.get? (Table.set w.registry.elements (tracking w.page id) id) (tracking w.page id) = some id :=
    (Table.get?_set ..).trans (if_pos (beq_self_eq_true _))
  have stays (s : String) (id' : ElementId) (given : GivenFor w.registry w.page s id') :
      GivenFor { w.registry with elements := Table.set w.registry.elements (tracking w.page id) id } w.page s id' :=
    given.enter fun same => inOrder.distinct id id' marked same.symm
  unfold Registry.selectorFor
  rw [tracked]
  dsimp only
  split
  · rename_i selector named
    exact ⟨_, _, rfl, entered, ⟨named, leads⟩, stays⟩
  · rename_i unnamed
    exact ⟨_, _, rfl, entered.name leads _, ⟨(Table.get?_set ..).trans (if_pos (beq_self_eq_true _)), leads⟩,
      fun s id' given => (stays s id' given).name unnamed _⟩

/-- **A selector is given out**: what is known stays in order, the selectors that were given out are kept,
and the selector is that of the element from now on. -/
theorem select (inOrder : InOrder w) (within : id < w.page.elements.length) {salt : String}
    (plain : '"' ∉ salt.toList) :
    let w' := (w.selectorFor id salt).1
    InOrder w' ∧ GoesOn w w' ∧ GivenFor w'.registry w'.page (w.selectorFor id salt).2 id ∧
      ∀ s id', GivenFor w.registry w.page s id' → GivenFor w'.registry w'.page s id' := by
  unfold TrackedPage.selectorFor
  by_cases unmarked : tracking w.page id = ""
  · -- the element is marked first, and that is as if it had been marked before
    obtain ⟨inOrder₁, mark, old⟩ := inOrder.mark within unmarked plain
    generalize new : TrackedPage.mk _ _ = w₁ at inOrder₁ mark old
    have marked : tracking w₁.page id ≠ "" := mark ▸ Registry.trackingText_ne_empty _ _
    have tracked : ({ w.registry with salt } : Registry).track w.page id =
        w₁.registry.track w₁.page id := by
      have here : w₁.registry.track w₁.page id = (w₁.registry, w₁.page, tracking w₁.page id) :=
        if_neg fun empty => marked (String.isEmpty_iff.mp empty)
      rw [here, mark, ← new]
      exact if_pos (String.isEmpty_iff.mpr unmarked)
    have first : ({ w.registry with salt } : Registry).selectorFor w.page id =
        w₁.registry.selectorFor w₁.page id := by
      unfold Registry.selectorFor
      rw [tracked]
    obtain ⟨registry, selector, second, inOrder', given, kept⟩ := inOrder₁.select_marked marked
    rw [first, second]
    refine ⟨inOrder', ⟨?_, old⟩, given, fun s id' given => kept s id' ?_⟩
    · rw [← new]
      exact Nat.le_of_eq (length_modify ..).symm
    · have same : tracking w₁.page id' = tracking w.page id' :=
        old id' (inOrder.elements _ _ (Table.mem_of_get? given.element)).2
      have stays := given.congr same
      rw [← new] at stays ⊢
      exact ⟨stays.selector, stays.element⟩
  · have inOrder₀ : InOrder ⟨{ w.registry with salt }, w.page⟩ :=
      ⟨inOrder.given, inOrder.distinct, inOrder.elements, inOrder.selectors⟩
    obtain ⟨registry, selector, first, inOrder', given, kept⟩ := inOrder₀.select_marked (show tracking w.page id ≠ "" from unmarked)
    rw [first]
    exact ⟨inOrder', ⟨Nat.le_refl _, fun _ _ => rfl⟩, given,
      fun s id' given => kept s id' ⟨given.selector, given.element⟩⟩

/-! ### Elements forgotten -/

/-- Elements that are not on the page are forgotten, and what is known of the others is in order. -/
theorem forget (inOrder : InOrder w) : InOrder { w with registry := (w.registry.forgetDetached w.page).1 } := by
  refine ⟨inOrder.given, inOrder.distinct, fun t id mem => inOrder.elements t id (List.mem_filter.mp mem).1,
    fun t s mem => ?_⟩
  obtain ⟨known, fresh⟩ := List.mem_filter.mp mem
  obtain ⟨text, id, found⟩ := inOrder.selectors t s known
  exact ⟨text, id, Table.get?_filter_of_pos found fresh⟩

/-- An element that is on the page is not forgotten. -/
theorem given_forget (inOrder : InOrder w) (given : GivenFor w.registry w.page s id)
    (connected : w.page.isConnected id = true) :
    GivenFor (w.registry.forgetDetached w.page).1 w.page s id := by
  have known := Table.mem_of_get? given.element
  have fresh : (!((w.registry.elements.filter fun e => !w.page.isConnected e.2).map (·.1)).contains
      (tracking w.page id)) = true := by
    rw [Bool.not_eq_true', List.contains_eq_mem, decide_eq_false_iff_not]
    intro stale
    obtain ⟨e, mem, same⟩ := List.mem_map.mp stale
    obtain ⟨mem, gone⟩ := List.mem_filter.mp mem
    have mark := (inOrder.elements e.1 e.2 mem).1
    have eq := inOrder.distinct id e.2 (inOrder.elements _ _ known).2 (same.symm.trans mark.symm)
    rw [← eq, connected] at gone
    cases gone
  exact ⟨Table.get?_filter_of_pos given.selector fresh, Table.get?_filter_of_pos given.element fresh⟩

/-! ### All changes -/

/-- **Whatever is done**, what is known stays in order, the page goes on, and a selector that was given out
stays that of its element, unless the element is forgotten. -/
theorem perform (inOrder : InOrder w) (c : Change) :
    InOrder (w.perform c) ∧ GoesOn w (w.perform c) ∧
      ∀ s id, GivenFor w.registry w.page s id → ¬ w.Forgets id c →
        GivenFor (w.perform c).registry (w.perform c).page s id := by
  have quiet {page : Page κ} (longer : w.page.elements.length ≤ page.elements.length)
      (same : ∀ id, tracking page id = tracking w.page id) :
      InOrder { w with page } ∧ GoesOn w { w with page } ∧ ∀ s id, GivenFor w.registry w.page s id →
        GivenFor w.registry page s id :=
    ⟨inOrder.congr same, ⟨longer, fun id _ => same id⟩, fun s id given => given.congr (same id)⟩
  cases c with
  | create e untracked =>
    obtain ⟨inOrder', goesOn, kept⟩ :=
      quiet (Nat.le_of_lt (Nat.lt_of_lt_of_eq (Nat.lt_succ_self _) (length_create ..).symm))
      (tracking_create w.page untracked)
    exact ⟨inOrder', goesOn, fun s id given _ => kept s id given⟩
  | append parent child =>
    obtain ⟨inOrder', goesOn, kept⟩ := quiet (Nat.le_of_eq ((length_modify ..).trans (length_remove ..)).symm)
      (tracking_append w.page parent child)
    exact ⟨inOrder', goesOn, fun s id given _ => kept s id given⟩
  | remove id =>
    obtain ⟨inOrder', goesOn, kept⟩ := quiet (Nat.le_of_eq (length_remove ..).symm) (tracking_remove w.page id)
    exact ⟨inOrder', goesOn, fun s id given _ => kept s id given⟩
  | rename id name? =>
    cases name? with
    | some name =>
      obtain ⟨inOrder', goesOn, kept⟩ :=
        quiet (Nat.le_of_eq (length_modify w.page id (·.setAttribute "id" name)).symm)
        (tracking_modify ((Registry.attribute?_setAttribute ..).trans (if_neg (by decide))))
      exact ⟨inOrder', goesOn, fun s id given _ => kept s id given⟩
    | none =>
      obtain ⟨inOrder', goesOn, kept⟩ := quiet (Nat.le_of_eq (length_modify w.page id (·.removeAttribute "id")).symm)
        (tracking_modify ((Table.get?_erase ..).trans (if_neg (by decide))))
      exact ⟨inOrder', goesOn, fun s id given _ => kept s id given⟩
  | select id salt plain =>
    by_cases within : id < w.page.elements.length
    · obtain ⟨inOrder', goesOn, -, kept⟩ := inOrder.select within plain
      simp only [TrackedPage.perform, if_pos within]
      exact ⟨inOrder', goesOn, fun s id given _ => kept s id given⟩
    · simp only [TrackedPage.perform, if_neg within]
      exact ⟨inOrder, .refl w, fun _ _ given _ => given⟩
  | forget =>
    refine ⟨inOrder.forget, ⟨Nat.le_refl _, fun _ _ => rfl⟩, fun s id given kept => ?_⟩
    exact inOrder.given_forget given ((Bool.not_eq_false _).mp kept)

/-- By induction on all that is done. -/
theorem run (inOrder : InOrder w) (changes : List Change) :
    InOrder (w.run changes) ∧ GoesOn w (w.run changes) ∧
      ∀ s id, GivenFor w.registry w.page s id → w.IsKept id changes →
        GivenFor (w.run changes).registry (w.run changes).page s id := by
  induction changes generalizing w with
  | nil => exact ⟨inOrder, .refl w, fun _ _ given _ => given⟩
  | cons c changes ih =>
    obtain ⟨inOrder₁, first, given₁⟩ := inOrder.perform c
    obtain ⟨inOrder₂, second, given₂⟩ := ih inOrder₁
    exact ⟨inOrder₂, first.trans second, fun s id given kept => given₂ s id (given₁ s id given kept.1) kept.2⟩

/-! ### Where selectors lead -/

/-- What a registry knows of a selector is an element with its mark. -/
theorem tracking_of_resolve? (inOrder : InOrder w) {t idText : String} (mark : IsMark t)
    (found : w.registry.resolve? w.page (selectorText t idText) = some id) : tracking w.page id = t := by
  unfold Registry.resolve? at found
  dsimp only at found
  split at found
  · rename_i id' known
    obtain rfl := Option.some.inj found
    obtain ⟨⟨t', s⟩, mem, leads⟩ := List.exists_of_findSome?_eq_some known
    dsimp only at leads
    split at leads
    · rename_i same
      obtain ⟨entry, -⟩ := Option.filter_eq_some_iff.mp leads
      obtain ⟨mark', marked⟩ := inOrder.elements t' id' (Table.mem_of_get? entry)
      obtain ⟨⟨idText', rfl⟩, -⟩ := inOrder.selectors t' s mem
      rw [mark', selectorText_inj (mark' ▸ inOrder.isMark (mark'.symm ▸ marked)) mark (eq_of_beq same)]
    · cases leads
  · exact tracking_of_query? mark found

/-- A selector that was given out for an element is the one that is given out for it again. -/
theorem selectorFor_of_given (inOrder : InOrder w) (given : GivenFor w.registry w.page s id) (salt : String) :
    (w.selectorFor id salt).2 = s := by
  have inOrder₀ : InOrder ⟨{ w.registry with salt }, w.page⟩ :=
    ⟨inOrder.given, inOrder.distinct, inOrder.elements, inOrder.selectors⟩
  have marked := (inOrder.elements _ _ (Table.mem_of_get? given.element)).2
  obtain ⟨registry, selector, found, -, again, kept⟩ := inOrder₀.select_marked (show tracking w.page id ≠ "" from marked)
  unfold TrackedPage.selectorFor
  rw [found]
  exact again.unique (kept s id ⟨given.selector, given.element⟩)

/-- A selector that was given out leads to its element, as long as that is on the page. -/
theorem resolve?_of_given (inOrder : InOrder w) (given : GivenFor w.registry w.page s id)
    (connected : w.page.isConnected id = true) : w.registry.resolve? w.page s = some id := by
  refine given.resolve? ?_ connected
  rintro ⟨t, s'⟩ mem rfl
  obtain ⟨⟨idText, whole⟩, id', found⟩ := inOrder.selectors t _ mem
  obtain ⟨⟨idText', whole'⟩, -⟩ := inOrder.selectors _ _ (Table.mem_of_get? given.selector)
  obtain ⟨rfl, marked⟩ := inOrder.elements t id' (Table.mem_of_get? found)
  have marked' := (inOrder.elements _ _ (Table.mem_of_get? given.element)).2
  exact selectorText_inj (inOrder.isMark marked) (inOrder.isMark marked') (whole.symm.trans whole')

end InOrder

/-- **Selectors stay**: on a page without marks, with nothing known yet, things are done, a selector is given
out for an element, and more things are done. Then no other element is given the selector, and it leads to no
other one. Unless the element was forgotten, it is given the same selector again, and the selector leads to it
if it is on the page. -/
theorem selectors_stay {w : TrackedPage κ} (untracked : ∀ e ∈ w.page.elements, IsUntracked e)
    (elements : w.registry.elements = []) (selectors : w.registry.selectors = []) (before later : List Change)
    {id : ElementId} (within : id < (w.run before).page.elements.length) (salt : String)
    (plain : '"' ∉ salt.toList) :
    let s := ((w.run before).selectorFor id salt).2
    let w' := ((w.run before).perform (.select id salt plain)).run later
    (∀ id' < w'.page.elements.length, ∀ salt', '"' ∉ salt'.toList → (w'.selectorFor id' salt').2 = s → id' = id) ∧
      (∀ id', w'.registry.resolve? w'.page s = some id' → id' = id) ∧
      (((w.run before).perform (.select id salt plain)).IsKept id later →
        (∀ salt', (w'.selectorFor id salt').2 = s) ∧
          (w'.page.isConnected id = true → w'.registry.resolve? w'.page s = some id)) := by
  intro s w'
  obtain ⟨inOrder₁, -, -⟩ := (InOrder.start untracked elements selectors).run before
  obtain ⟨inOrder₂, -, given, -⟩ := inOrder₁.select within plain
  have selected : (w.run before).perform (.select id salt plain) = ((w.run before).selectorFor id salt).1 :=
    if_pos within
  rw [← selected] at inOrder₂ given
  obtain ⟨inOrder', goesOn, kept⟩ := inOrder₂.run later
  obtain ⟨⟨idText, whole⟩, -⟩ := inOrder₂.selectors _ _ (Table.mem_of_get? given.selector)
  have marked := (inOrder₂.elements _ _ (Table.mem_of_get? given.element)).2
  have mark := inOrder₂.isMark marked
  have same := goesOn.marks id marked
  refine ⟨fun id' within' salt' plain' again => ?_, fun id' found => ?_, fun isKept => ?_⟩
  · obtain ⟨inOrder'', further, given', -⟩ := inOrder'.select within' plain'
    obtain ⟨⟨idText', whole'⟩, -⟩ := inOrder''.selectors _ _ (Table.mem_of_get? given'.selector)
    have marked' := (inOrder''.elements _ _ (Table.mem_of_get? given'.element)).2
    have eq := selectorText_inj (inOrder''.isMark marked') mark (whole'.symm.trans (again.trans whole))
    refine inOrder''.distinct id' id marked' (eq.trans ?_)
    rw [further.marks id (same.symm ▸ marked), same]
  · have found : w'.registry.resolve? w'.page
        (selectorText (tracking ((w.run before).perform (.select id salt plain)).page id) idText) = some id' := by
      rw [← whole]
      exact found
    have eq := inOrder'.tracking_of_resolve? mark found
    exact inOrder'.distinct id' id (eq ▸ marked) (eq.trans same.symm)
  · have given' := kept s id given isKept
    exact ⟨inOrder'.selectorFor_of_given given', inOrder'.resolve?_of_given given'⟩

/-- A page with two paragraphs that have the same id. -/
def twins : TrackedPage Unit where
  registry := {}
  page := { elements := [
    { tag := "html", children := [.element head, .element body] }, { tag := "head" },
    { tag := "body", children := [.element 3, .element 4] },
    { tag := "p", attributes := [("id", "a")] }, { tag := "p", attributes := [("id", "a")] }] }

/-- The other paragraph is selected, the first one loses its id, both are taken away, and the first one is put
back before elements are forgotten. -/
def reshuffle : List Change :=
  [.select 4 "123" (by decide), .rename 3 none, .remove 3, .remove 4, .append body 3, .forget]

/-- The first paragraph is told apart from the other one, and its selector leads to it after all this. -/
theorem twins_told_apart :
    let s := (twins.selectorFor 3 "0ab").2
    let w := ((twins.run []).perform (.select 3 "0ab" (by decide))).run reshuffle
    (w.selectorFor 4 "456").2 ≠ s ∧ (w.selectorFor 3 "456").2 = s ∧ w.registry.resolve? w.page s = some 3 := by
  obtain ⟨others, -, same⟩ := selectors_stay (w := twins) (by decide) rfl rfl [] reshuffle
    (by decide : 3 < (twins.run []).page.elements.length) "0ab" (by decide)
  have kept : ((twins.run []).perform (.select 3 "0ab" (by decide))).IsKept 3 reshuffle :=
    ⟨id, id, id, id, id, show ¬ isConnected _ 3 = false by decide +kernel, trivial⟩
  obtain ⟨again, leads⟩ := same kept
  refine ⟨fun eq => ?_, again "456", leads (by decide +kernel)⟩
  exact absurd (others 4 (by decide +kernel) "456" (by decide) eq) (by decide)

end Retouch.Page
