import Mathlib.Data.List.Basic
import Retouch.Proofs.Text
import Retouch.Style.Declarations
import Retouch.Style.ObjectLiteral

/-!
# One item edited

Declarations of an inline style and members of a style object are edited alike: the first item of a name is
exchanged for a new one or taken out, and without such an item the new one is put at the end. `Edited` says so
of any list, and both kinds of inline style keep to it (`Declaration.apply_eq_ok_iff`, `ObjectLiteral.edited_apply`).

Of several items of one name the last one takes effect, and an edit changes the first. So what is left of the
name after an edit is told by the number of such items before (`Edited.none_left_iff`, `Edited.last_named`).
-/

namespace Retouch.Style

open Retouch.Text

variable {α : Type} {named : α → Bool} {new? : Option α} {new : α} {items items' items'' : List α}

/-! ### Edits of a list -/

/-- What one edit makes of a list: the first item of the name is exchanged for the new one, or taken out if
there is none; without an item of the name, the new one comes last. -/
inductive Edited (named : α → Bool) (new? : Option α) : List α → List α → Prop where
  /-- An item of the name is there. -/
  | found {before : List α} {a : α} {after : List α} (none : ∀ b ∈ before, named b = false)
    (is : named a = true) : Edited named new? (before ++ a :: after) (before ++ new?.toList ++ after)
  /-- No item of the name is there. -/
  | missing {items : List α} (none : ∀ b ∈ items, named b = false) :
    Edited named new? items (items ++ new?.toList)

namespace Edited

/-- Without items, there is just the new one. -/
theorem nil_iff : Edited named new? [] items' ↔ items' = new?.toList := by
  constructor
  · intro edited
    generalize start : ([] : List α) = items at edited
    cases edited with
    | found => simp at start
    | missing => simp [← start]
  · rintro rfl
    have missing : Edited named new? [] ([] ++ new?.toList) := .missing (List.forall_mem_nil _)
    exact missing

/-- An edit is about the item in front, or goes on behind it. -/
theorem cons_iff {a : α} {rest : List α} :
    Edited named new? (a :: rest) items' ↔
      if named a then items' = new?.toList ++ rest
      else ∃ rest', items' = a :: rest' ∧ Edited named new? rest rest' := by
  constructor
  · intro edited
    generalize start : a :: rest = items at edited
    cases edited with
    | @found before b after none is =>
      cases before with
      | nil =>
        obtain ⟨rfl, rfl⟩ : a = b ∧ rest = after := by simpa using start
        simp [is]
      | cons c before =>
        obtain ⟨rfl, rfl⟩ : a = c ∧ rest = before ++ b :: after := by simpa using start
        obtain ⟨other, none⟩ := List.forall_mem_cons.mp none
        simpa [other] using Edited.found none is
    | missing none =>
      subst start
      obtain ⟨other, none⟩ := List.forall_mem_cons.mp none
      simpa [other] using Edited.missing none
  · intro result
    by_cases is : named a = true
    · rw [if_pos is] at result
      have found : Edited named new? ([] ++ a :: rest) ([] ++ new?.toList ++ rest) :=
        .found (List.forall_mem_nil _) is
      exact result ▸ found
    · rw [if_neg is] at result
      obtain ⟨rest', rfl, edited⟩ := result
      have other : named a = false := by simpa using is
      cases edited with
      | @found before b after none is =>
        have found : Edited named new? (a :: before ++ b :: after) (a :: before ++ new?.toList ++ after) :=
          .found (List.forall_mem_cons.mpr ⟨other, none⟩) is
        exact found
      | missing none => exact .missing (List.forall_mem_cons.mpr ⟨other, none⟩)

/-- An edit has one result. -/
theorem unique (first : Edited named new? items items') (second : Edited named new? items items'') :
    items' = items'' := by
  induction items generalizing items' items'' with
  | nil => rw [nil_iff.mp first, nil_iff.mp second]
  | cons a rest ih =>
    rw [cons_iff] at first second
    by_cases is : named a = true
    · rw [if_pos is] at first second
      rw [first, second]
    · rw [if_neg is] at first second
      obtain ⟨rest', rfl, first⟩ := first
      obtain ⟨rest'', rfl, second⟩ := second
      rw [ih first second]

/-- A function that looks for the first item of the name edits. -/
theorem of_recursion {f : List α → List α} (nil : f [] = new?.toList)
    (cons : ∀ a rest, f (a :: rest) = if named a then new?.toList ++ rest else a :: f rest)
    (items : List α) : Edited named new? items (f items) := by
  induction items with
  | nil => exact nil_iff.mpr nil
  | cons a rest ih =>
    rw [cons_iff, cons]
    split
    · rfl
    · exact ⟨_, rfl, ih⟩

/-- What is there after an edit was there before, or is new. -/
theorem mem (edited : Edited named new? items items') {a : α} (mem : a ∈ items') :
    a ∈ items ∨ new? = some a := by
  cases edited <;> simp at mem ⊢ <;> tauto

/-- Items of other names stay. -/
theorem mem_of_other (edited : Edited named new? items items') {a : α} (mem : a ∈ items)
    (other : named a = false) : a ∈ items' := by
  cases edited with
  | @found before b after none is =>
    rcases List.mem_append.mp mem with front | behind
    · simp [front]
    · rcases List.mem_cons.mp behind with rfl | behind
      · simp [is] at other
      · simp [behind]
  | missing => simp [mem]

/-! ### What is left of a name -/

/-- If the new item, if there is one, is not of the name, the edit leaves none of it exactly if there was at
most one. -/
theorem none_left_iff (edited : Edited named new? items items') (other : ∀ a ∈ new?, named a = false) :
    (∀ a ∈ items', named a = false) ↔ items.countP named ≤ 1 := by
  have fresh : ∀ a ∈ new?.toList, named a = false := fun a mem => other a (Option.mem_toList.mp mem)
  cases edited with
  | @found before b after none is =>
    have front : before.countP named = 0 := List.countP_eq_zero.mpr fun a mem => by simp [none a mem]
    have count : (before ++ b :: after).countP named = after.countP named + 1 := by
      simp [List.countP_append, List.countP_cons_of_pos is, front]
    have left : (∀ a ∈ before ++ new?.toList ++ after, named a = false) ↔ after.countP named = 0 := by
      simp only [List.countP_eq_zero, Bool.not_eq_true, List.forall_mem_append]
      exact ⟨fun all => all.2, fun behind => ⟨⟨none, fresh⟩, behind⟩⟩
    rw [left, count]
    omega
  | missing none =>
    have count : items.countP named = 0 := List.countP_eq_zero.mpr fun a mem => by simp [none a mem]
    rw [count]
    exact iff_of_true (List.forall_mem_append.mpr ⟨none, fresh⟩) (Nat.zero_le 1)

/-- With at most one item of the name before, the new one is the last one of the name. -/
theorem last_named (edited : Edited named (some new) items items') (is : named new = true)
    (single : items.countP named ≤ 1) : (items'.filter named).getLast? = some new := by
  have no : ∀ {l : List α}, (∀ a ∈ l, named a = false) → l.filter named = [] := fun none =>
    List.filter_eq_nil_iff.mpr fun a mem => by simp [none a mem]
  cases edited with
  | @found before b after none isB =>
    have count : after.countP named = 0 := by
      rw [List.countP_append, List.countP_cons_of_pos isB] at single
      omega
    have behind : ∀ a ∈ after, named a = false := by simpa using List.countP_eq_zero.mp count
    simp [no none, no behind, is]
  | missing none => simp [no none, is]

end Edited

/-- The item that takes effect, which is the last one of the name, is as it should be. -/
def IsInForce (named : α → Bool) (holds : α → Prop) (items : List α) : Prop :=
  ∃ a, (items.filter named).getLast? = some a ∧ holds a

/-- With at most one item of the name before, the new one is in force exactly if it is of the name. -/
theorem Edited.isInForce_iff (edited : Edited named (some new) items items') (holds : α → Prop)
    (is : holds new) (single : items.countP named ≤ 1) : IsInForce named holds items' ↔ named new = true := by
  constructor
  · rintro ⟨a, last, -⟩
    obtain ⟨mem, isA⟩ := List.mem_filter.mp (List.mem_of_getLast? last)
    by_contra other
    have none := (edited.none_left_iff (by simpa using other)).mpr single
    cases isA.symm.trans (none a mem)
  · exact fun named => ⟨new, edited.last_named named single, is⟩

/-! ### Declarations -/

/-- The key of the declaration that a change is about. -/
def changedKey (change : StyleChange) : Text := kebabCase change.property.toList

/-- The new value of a change as it is written; empty to remove the property. -/
def freshValue (change : StyleChange) : Text := strip change.newValue.toList

/-- The declaration that a change writes, if it does not take one away. -/
def declared? (change : StyleChange) : Option Declaration :=
  if (freshValue change).isEmpty then none else some ⟨changedKey change, freshValue change⟩

/-- The new value has no character that would end a declaration or a value in double quotes. -/
def IsAccepted (change : StyleChange) : Prop := ∀ c ∈ freshValue change, c ∉ Declaration.breakers

instance (change : StyleChange) : Decidable (IsAccepted change) :=
  decidableForallChar (freshValue change)

theorem Declaration.edited_set (key value : Text) (ds : List Declaration) :
    Edited (·.key == key) (some ⟨key, value⟩) ds (Declaration.set key value ds) :=
  .of_recursion rfl (fun _ _ => rfl) ds

theorem Declaration.edited_erase (key : Text) (ds : List Declaration) :
    Edited (·.key == key) none ds (Declaration.erase key ds) :=
  .of_recursion rfl (fun _ _ => rfl) ds

/-- A change edits declarations exactly if its value is accepted. -/
theorem Declaration.apply_eq_ok_iff {ds ds' : List Declaration} {change : StyleChange} :
    Declaration.apply ds change = .ok ds' ↔
      IsAccepted change ∧ Edited (·.key == changedKey change) (declared? change) ds ds' := by
  have edited : Edited (·.key == changedKey change) (declared? change) ds
      (if (freshValue change).isEmpty then erase (changedKey change) ds
        else set (changedKey change) (freshValue change) ds) := by
    unfold declared?
    split
    · exact edited_erase _ ds
    · exact edited_set _ _ ds
  have accepted : IsAccepted change ↔ ¬ (freshValue change).any breakers.contains = true := by
    simp [IsAccepted]
  unfold Declaration.apply
  rw [accepted]
  change (if (freshValue change).any breakers.contains then _ else
    Except.ok (if (freshValue change).isEmpty then erase (changedKey change) ds
      else set (changedKey change) (freshValue change) ds)) = _ ↔ _
  split
  · simp_all
  · rename_i fits
    simp only [Except.ok.injEq, fits, Bool.false_eq_true, not_false_eq_true, true_and]
    exact ⟨fun eq => eq ▸ edited, edited.unique⟩

/-! ### Members of style objects -/

namespace ObjectLiteral

/-- The name of the member that a change is about. -/
def changedName (change : StyleChange) : Text := camelCase change.property.toList

/-- The member that a change writes, if it does not take one away. -/
def member? (change : StyleChange) : Option StyleEntry :=
  if (freshValue change).isEmpty then none
  else some ⟨some (keyText (changedName change)), valueText (freshValue change)⟩

theorem edited_set (name value : Text) (entries : List StyleEntry) :
    Edited (·.name? == some name) (some ⟨some (keyText name), valueText value⟩) entries
      (set name value entries) :=
  .of_recursion rfl (fun _ _ => rfl) entries

theorem edited_erase (name : Text) (entries : List StyleEntry) :
    Edited (·.name? == some name) none entries (erase name entries) :=
  .of_recursion rfl (fun _ _ => rfl) entries

/-- A change edits members. -/
theorem edited_apply (entries : List StyleEntry) (change : StyleChange) :
    Edited (·.name? == some (changedName change)) (member? change) entries (apply entries change) := by
  change Edited _ _ _ (if (freshValue change).isEmpty then erase (changedName change) entries
    else set (changedName change) (freshValue change) entries)
  unfold member?
  split
  · exact edited_erase _ entries
  · exact edited_set _ _ entries

end ObjectLiteral

end Retouch.Style
