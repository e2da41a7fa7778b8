/-!
# Tables in order of insertion

A table pairs keys with values and keeps the order in which the keys first came. Setting a value under
a key that is there leaves the key in its place; a new key comes last. The laws say what a key leads to
after a value is set or a key is taken out.
-/

namespace Retouch

/-- A table: its keys and values in order. -/
abbrev Table (κ α : Type) := List (κ × α)

namespace Table

variable {κ α : Type} [BEq κ]

/-- The value under a key. -/
def get? (t : Table κ α) (key : κ) : Option α := t.lookup key

/-- The key is there. -/
def contains (t : Table κ α) (key : κ) : Bool := t.any fun e => e.1 == key

/-- The table with a value set under a key. -/
def set (t : Table κ α) (key : κ) (value : α) : Table κ α :=
  match t with
  | [] => [(key, value)]
  | (k, v) :: rest => if k == key then (k, value) :: rest else (k, v) :: set rest key value

/-- The table without a key. -/
def erase (t : Table κ α) (key : κ) : Table κ α := t.filter fun e => !(e.1 == key)

/-- The table with the values of another one set. -/
def merge (t new : Table κ α) : Table κ α := new.foldl (fun t e => set t e.1 e.2) t

/-- The keys in order. -/
def keys (t : Table κ α) : List κ := t.map (·.1)

/-! ### What a key leads to -/

/-- The empty table holds nothing. -/
@[simp] theorem get?_nil (key : κ) : get? ([] : Table κ α) key = none := rfl

/-- A look-up tries the first key first. -/
theorem get?_cons (e : κ × α) (t : Table κ α) (key : κ) :
    get? (e :: t) key = if key == e.1 then some e.2 else get? t key := by
  obtain ⟨k, v⟩ := e
  cases h : key == k <;> simp [get?, List.lookup_cons, h]

/-- A key is there exactly if there is a value under it. -/
theorem contains_eq_isSome [LawfulBEq κ] (t : Table κ α) (key : κ) :
    contains t key = (get? t key).isSome := by
  induction t with
  | nil => rfl
  | cons e t ih =>
    rw [get?_cons]
    by_cases h : key = e.1
    · simp [contains, h]
    · have hne : (e.1 == key) = false := beq_false_of_ne fun eq => h eq.symm
      simp only [contains] at ih
      simp [contains, hne, h, ih]

/-- After a value is set, it is what the key leads to, and the other keys lead to what they did. -/
theorem get?_set [LawfulBEq κ] (t : Table κ α) (key other : κ) (value : α) :
    get? (set t key value) other = if other == key then some value else get? t other := by
  induction t with
  | nil => rw [set, get?_cons]
  | cons e t ih =>
    by_cases h : e.1 = key
    · subst h
      rw [set, if_pos (beq_self_eq_true _), get?_cons, get?_cons]
      cases other == e.1 <;> rfl
    · have hne : (e.1 == key) = false := beq_false_of_ne h
      rw [set, hne, get?_cons]
      by_cases ho : other = e.1
      · subst ho
        simp [get?_cons, hne]
      · simp [get?_cons, ho, ih]

/-- After a key is taken out, it leads nowhere, and the other keys lead to what they did. -/
theorem get?_erase [LawfulBEq κ] (t : Table κ α) (key other : κ) :
    get? (erase t key) other = if other == key then none else get? t other := by
  induction t with
  | nil => simp [erase]
  | cons e t ih =>
    by_cases h : e.1 = key
    · subst h
      have : erase (e :: t) e.1 = erase t e.1 := by simp [erase]
      rw [this, ih, get?_cons]
      cases other == e.1 <;> rfl
    · have : erase (e :: t) key = e :: erase t key := by simp [erase, h]
      rw [this, get?_cons, get?_cons, ih]
      by_cases ho : other = e.1
      · subst ho
        simp [h]
      · simp [ho]

/-- Setting a value adds its key and no other. -/
theorem mem_keys_set [LawfulBEq κ] (t : Table κ α) (key other : κ) (value : α) :
    other ∈ keys (set t key value) ↔ other = key ∨ other ∈ keys t := by
  induction t with
  | nil => simp [set, keys]
  | cons e t ih =>
    by_cases h : e.1 = key
    · subst h
      simp [set, keys]
    · have hne : (e.1 == key) = false := beq_false_of_ne h
      simp only [keys] at ih
      simp [set, hne, keys, ih]
      exact or_left_comm

end Table

end Retouch
