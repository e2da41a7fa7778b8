import Retouch.Table

/-!
# Tables with distinct keys

What a table holds and what its keys lead to are the same if no key comes twice. Setting a value keeps
keys distinct, setting the value that is there changes nothing, and of two values set under one key
the second one counts.
-/

namespace Retouch.Table

variable {κ α : Type} [BEq κ] [LawfulBEq κ]

/-- After values are merged in, a key without a new value leads to what it did. -/
theorem get?_merge_of_none (t new : Table κ α) {key : κ} (missing : get? new key = none) :
    get? (merge t new) key = get? t key := by
  unfold merge
  induction new generalizing t with
  | nil => rfl
  | cons e new ih =>
    rw [get?_cons] at missing
    split at missing
    · cases missing
    · rename_i other
      rw [List.foldl_cons, ih _ missing, get?_set, if_neg other]

/-- What a key leads to is in the table. -/
theorem mem_of_get? {t : Table κ α} {key : κ} {value : α} (found : get? t key = some value) :
    (key, value) ∈ t := by
  induction t with
  | nil => cases found
  | cons e t ih =>
    rw [get?_cons] at found
    split at found
    · rename_i same
      cases found
      rw [eq_of_beq same]
      exact List.mem_cons_self ..
    · exact List.mem_cons_of_mem _ (ih found)

/-- In a table with distinct keys, a key leads to what is in the table under it. -/
theorem get?_of_mem {t : Table κ α} (distinct : (keys t).Nodup) {key : κ} {value : α}
    (mem : (key, value) ∈ t) : get? t key = some value := by
  induction t with
  | nil => cases mem
  | cons e t ih =>
    obtain ⟨fresh, distinct⟩ := List.nodup_cons.mp distinct
    rw [get?_cons]
    obtain rfl | later := List.mem_cons.mp mem
    · rw [if_pos (beq_self_eq_true key)]
    · rw [if_neg, ih distinct later]
      intro same
      exact fresh (List.mem_map.mpr ⟨_, later, eq_of_beq same⟩)

/-- After a value is set, the table holds it and what it held before. -/
theorem mem_of_mem_set {t : Table κ α} {key : κ} {value : α} {e : κ × α}
    (mem : e ∈ set t key value) : e = (key, value) ∨ e ∈ t := by
  induction t with
  | nil => exact Or.inl (List.mem_singleton.mp mem)
  | cons e' t ih =>
    by_cases same : e'.1 = key
    · rw [set, if_pos (by simp [same]), same] at mem
      obtain new | old := List.mem_cons.mp mem
      · exact Or.inl new
      · exact Or.inr (List.mem_cons_of_mem _ old)
    · rw [set, if_neg (by simp [same])] at mem
      obtain rfl | later := List.mem_cons.mp mem
      · exact Or.inr (List.mem_cons_self ..)
      · exact (ih later).imp id (List.mem_cons_of_mem _)

/-- To set the value that is there changes nothing. -/
theorem set_of_get? {t : Table κ α} {key : κ} {value : α} (found : get? t key = some value) :
    set t key value = t := by
  induction t with
  | nil => cases found
  | cons e t ih =>
    rw [get?_cons] at found
    by_cases same : e.1 = key
    · rw [if_pos (by simp [same])] at found
      rw [set, if_pos (by simp [same]), ← Option.some.inj found]
    · rw [if_neg (by simpa using Ne.symm same)] at found
      rw [set, if_neg (by simpa using same), ih found]

/-- Of two values set under one key, the second one counts. -/
theorem set_set (t : Table κ α) (key : κ) (value value' : α) :
    set (set t key value) key value' = set t key value' := by
  induction t with
  | nil => simp [set]
  | cons e t ih =>
    by_cases same : e.1 = key
    · simp [set, same]
    · simp [set, same, ih]

/-- Of two values set one after the other, the first one a change, the second one gives the table back
exactly if it is the value that was there. -/
theorem set_set_eq_iff {t : Table κ α} {key key' : κ} {old value value' : α}
    (found : get? t key = some old) (changed : set t key value ≠ t) :
    set (set t key value) key' value' = t ↔ key' = key ∧ value' = old := by
  constructor
  · intro restored
    have same : key' = key := by
      refine Classical.byContradiction fun other => ?_
      -- the first value would still be there, so it is the old one and no change
      have there : get? (set (set t key value) key' value') key = some value := by
        rw [get?_set, if_neg (by simpa using Ne.symm other), get?_set, if_pos (beq_self_eq_true key)]
      rw [restored, found] at there
      cases there
      exact changed (set_of_get? found)
    subst same
    rw [← restored, get?_set, if_pos (beq_self_eq_true key')] at found
    exact ⟨rfl, Option.some.inj found⟩
  · rintro ⟨rfl, rfl⟩
    rw [set_set]
    exact set_of_get? found

/-- A value set under a key that is there leaves the keys. -/
theorem keys_set_of_get? {t : Table κ α} {key : κ} {old : α} (found : get? t key = some old) (value : α) :
    keys (set t key value) = keys t := by
  induction t with
  | nil => cases found
  | cons e t ih =>
    rw [get?_cons] at found
    by_cases same : e.1 = key
    · simp [set, same, keys]
    · rw [if_neg (by simpa using Ne.symm same)] at found
      have rest := ih found
      simp only [keys] at rest
      simp [set, same, keys, rest]

/-- A key leads nowhere exactly if it is not there. -/
theorem get?_eq_none_iff {t : Table κ α} {key : κ} : get? t key = none ↔ key ∉ keys t := by
  induction t with
  | nil => simp [keys]
  | cons e t ih =>
    rw [get?_cons]
    by_cases same : key = e.1
    · simp [same, keys]
    · simp only [keys] at ih
      simp [same, keys, ih]

/-- Setting a value keeps keys distinct. -/
theorem nodup_keys_set {t : Table κ α} (distinct : (keys t).Nodup) (key : κ) (value : α) :
    (keys (set t key value)).Nodup := by
  induction t with
  | nil => exact List.nodup_cons.mpr ⟨List.not_mem_nil, List.nodup_nil⟩
  | cons e t ih =>
    obtain ⟨fresh, later⟩ := List.nodup_cons.mp distinct
    by_cases same : e.1 = key
    · rw [set, if_pos (by simp [same])]
      exact distinct
    · rw [set, if_neg (by simp [same])]
      refine List.nodup_cons.mpr ⟨fun mem => ?_, ih later⟩
      obtain eq | old := (mem_keys_set t key e.1 value).mp mem
      · exact same eq
      · exact fresh old

/-- A key that is not there is taken out at no cost. -/
theorem erase_of_not_mem {t : Table κ α} {key : κ} (new : key ∉ keys t) : erase t key = t := by
  refine List.filter_eq_self.mpr fun e mem => ?_
  have other : e.1 ≠ key := by
    rintro rfl
    exact new (List.mem_map_of_mem mem)
  simpa using other

/-- A key that leads nowhere leads nowhere among the entries that are kept. -/
theorem get?_filter_of_none {t : Table κ α} {key : κ} (missing : get? t key = none)
    (keeps : κ × α → Bool) : get? (t.filter keeps) key = none := by
  cases found : get? (t.filter keeps) key with
  | none => rfl
  | some value =>
    have mem := (List.mem_filter.mp (mem_of_get? found)).1
    have there : contains t key = true := List.any_eq_true.mpr ⟨_, mem, beq_self_eq_true key⟩
    rw [contains_eq_isSome, missing] at there
    cases there

/-- A key leads to what it did if that is kept. -/
theorem get?_filter_of_pos {t : Table κ α} {key : κ} {value : α} (found : get? t key = some value)
    {keeps : κ × α → Bool} (kept : keeps (key, value) = true) :
    get? (t.filter keeps) key = some value := by
  induction t with
  | nil => cases found
  | cons e t ih =>
    rw [get?_cons] at found
    by_cases same : key = e.1
    · rw [if_pos (by simp [same])] at found
      cases found
      have first : keeps e = true := by rwa [same] at kept
      rw [List.filter_cons_of_pos first, get?_cons, if_pos (by simp [same])]
    · rw [if_neg (by simp [same])] at found
      rw [List.filter_cons]
      split
      · rw [get?_cons, if_neg (by simp [same]), ih found]
      · exact ih found

/-- Of entries with distinct keys, at most one goes with a key. -/
theorem length_le_length_erase {t : Table κ α} (distinct : (keys t).Nodup) (key : κ) :
    t.length ≤ (erase t key).length + 1 := by
  induction t with
  | nil => exact Nat.zero_le _
  | cons e t ih =>
    obtain ⟨fresh, later⟩ := List.nodup_cons.mp distinct
    by_cases same : e.1 = key
    · subst same
      have rest : erase (e :: t) e.1 = t := by
        rw [erase, List.filter_cons_of_neg (by simp)]
        exact erase_of_not_mem fresh
      rw [rest]
      exact Nat.le_refl _
    · have kept : erase (e :: t) key = e :: erase t key := List.filter_cons_of_pos (by simpa using same)
      rw [kept, List.length_cons, List.length_cons]
      exact Nat.succ_le_succ (ih later)

/-- With a key that is there, an entry goes. -/
theorem length_erase_lt {t : Table κ α} {key : κ} (there : key ∈ keys t) :
    (erase t key).length < t.length := by
  obtain ⟨e, mem, rfl⟩ := List.mem_map.mp there
  exact List.length_filter_lt_length_iff_exists.mpr ⟨e, mem, by simp⟩

/-- A key that is taken out is not there. -/
theorem not_mem_keys_erase (t : Table κ α) (key : κ) : key ∉ keys (erase t key) := by
  intro mem
  obtain ⟨e, mem, rfl⟩ := List.mem_map.mp mem
  simpa using (List.mem_filter.mp mem).2

omit [LawfulBEq κ] in
/-- A key that is taken out twice is taken out. -/
theorem erase_erase (t : Table κ α) (key : κ) : erase (erase t key) key = erase t key := by
  simp [erase]

/-- A value set under a key goes with the key. -/
theorem erase_set (t : Table κ α) (key : κ) (value : α) : erase (set t key value) key = erase t key := by
  induction t with
  | nil => simp [set, erase]
  | cons e t ih =>
    by_cases same : e.1 = key
    · simp [set, erase, same]
    · simp only [erase] at ih
      simp [set, erase, same, ih]

omit [LawfulBEq κ] in
/-- A key is taken out of two tables one by one. -/
theorem erase_append (t u : Table κ α) (key : κ) :
    erase (t ++ u) key = erase t key ++ erase u key := List.filter_append ..

/-- After a key is put last with a value, it leads to the value, and the other keys lead to what they did. -/
theorem get?_erase_concat (t : Table κ α) (key other : κ) (value : α) :
    get? (erase t key ++ [(key, value)]) other = if other == key then some value else get? t other := by
  have erased := get?_erase t key other
  unfold get? at erased ⊢
  rw [List.lookup_append, erased, List.lookup_cons, List.lookup_nil]
  cases other == key with
  | true => rfl
  | false => exact Option.or_none

end Retouch.Table
