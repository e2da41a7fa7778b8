import Mathlib.Data.List.Dedup
import Mathlib.Data.List.DropRight
import Retouch.Proofs.Backend.Walk

/-!
# The latest edits

A journal with room for some number of edits holds that many of the latest ones, in the order in which
each was recorded last, with what was recorded of it then. To record an edit again takes it from its place
and puts it last; so nothing has to go for it (`get?_record_of_held`). To record another one makes room by
the oldest. That this is always the edit that was not recorded for the longest time is seen from all
records there ever were: with the earlier ones of each edit left out (`latest`), the journal is their end
(`records_recordAll_eq`), however often ids come again.
-/

namespace Retouch.Journal

/-! ### The latest record of each edit -/

/-- Of records made one after the other, the last one of each edit. -/
def latest : Table String EditRecord → Table String EditRecord
  | [] => []
  | e :: later => if e.1 ∈ Table.keys later then latest later else e :: latest later

theorem keys_concat (edits : Table String EditRecord) (e : String × EditRecord) :
    Table.keys (edits ++ [e]) = Table.keys edits ++ [e.1] := List.map_append ..

/-- One more record takes the place of the earlier ones of its edit. -/
theorem latest_concat (edits : Table String EditRecord) (e : String × EditRecord) :
    latest (edits ++ [e]) = Table.erase (latest edits) e.1 ++ [e] := by
  induction edits with
  | nil => rfl
  | cons first later ih =>
    rw [List.cons_append, latest, latest, keys_concat, ih]
    by_cases again : first.1 ∈ Table.keys later
    · rw [if_pos (List.mem_append_left _ again), if_pos again]
    · rw [if_neg again]
      by_cases same : first.1 = e.1
      · have erased : Table.erase (first :: latest later) e.1 = Table.erase (latest later) e.1 :=
          List.filter_cons_of_neg (by simp [same])
        rw [if_pos (by simp [same]), erased]
      · have kept : Table.erase (first :: latest later) e.1 = first :: Table.erase (latest later) e.1 :=
          List.filter_cons_of_pos (by simp [same])
        rw [if_neg (by simp [again, same]), kept, List.cons_append]

/-- The edits are those of the records, in the order of the last record of each. -/
theorem keys_latest (edits : Table String EditRecord) :
    Table.keys (latest edits) = (Table.keys edits).dedup := by
  induction edits with
  | nil => rfl
  | cons e later ih =>
    have keys : Table.keys (e :: later) = e.1 :: Table.keys later := rfl
    rw [latest, keys]
    split
    · rename_i again
      rw [List.dedup_cons_of_mem again, ih]
    · rename_i once
      rw [List.dedup_cons_of_notMem once, ← ih]
      rfl

theorem nodup_keys_latest (edits : Table String EditRecord) : (Table.keys (latest edits)).Nodup := by
  rw [keys_latest]
  exact List.nodup_dedup _

/-- What is kept of an edit is its record that is found first from the last one back. -/
theorem get?_latest (edits : Table String EditRecord) (id : String) :
    Table.get? (latest edits) id = Table.get? edits.reverse id := by
  induction edits using List.reverseRecOn with
  | nil => rfl
  | append_singleton edits e ih =>
    rw [latest_concat, List.reverse_append, List.reverse_singleton, List.singleton_append, Table.get?_cons,
      Table.get?_erase_concat, ih]

/-! ### The end of a table -/

/-- The end of what is put together is that of its second part, if that is long enough. -/
theorem rtake_append_of_le_length {α : Type} {n : Nat} {back : List α} (le : n ≤ back.length)
    (front : List α) : (front ++ back).rtake n = back.rtake n := by
  have behind : (front ++ back).length - n = front.length + (back.length - n) := by
    rw [List.length_append]
    omega
  rw [List.rtake, behind, List.drop_length_add_append, List.rtake]

/-- To make room for one more entry, nothing has to be known of what had to go before. -/
theorem rtake_erase_concat {t : Table String EditRecord} (distinct : (Table.keys t).Nodup) (n : Nat)
    (e : String × EditRecord) :
    (Table.erase (t.rtake n) e.1 ++ [e]).rtake n = (Table.erase t e.1 ++ [e]).rtake n := by
  obtain few | many := Nat.le_total t.length n
  · rw [List.rtake.eq_def t, Nat.sub_eq_zero_of_le few, List.drop_zero]
  · have erased : Table.erase t e.1 =
        Table.erase (t.take (t.length - n)) e.1 ++ Table.erase (t.rtake n) e.1 := by
      rw [← Table.erase_append, List.rtake, List.take_append_drop]
    have length : (t.rtake n).length = n := by
      rw [List.rtake, List.length_drop]
      omega
    have distinct' : (Table.keys (t.rtake n)).Nodup :=
      distinct.sublist ((List.drop_sublist _ t).map _)
    have le := Table.length_le_length_erase distinct' e.1
    rw [length] at le
    -- what had to go stands in front, so it is not in the end of the table either
    have enough : n ≤ (Table.erase (t.rtake n) e.1 ++ [e]).length := by
      rwa [List.length_append, List.length_singleton]
    rw [erased, List.append_assoc, rtake_append_of_le_length enough]

/-! ### What the journal holds -/

/-- **Journals hold the end** of the latest records. -/
theorem records_recordAll_eq (capacity : Nat) (edits : Table String EditRecord) :
    (({ capacity } : Journal).recordAll edits).records = (latest edits).rtake capacity := by
  induction edits using List.reverseRecOn with
  | nil => exact List.drop_nil.symm
  | append_singleton edits e ih =>
    have room : (({ capacity } : Journal).recordAll edits).capacity = capacity := capacity_recordAll ..
    have recorded : (({ capacity } : Journal).recordAll (edits ++ [e])).records =
        (Table.erase (({ capacity } : Journal).recordAll edits).records e.1 ++ [e]).rtake
          (({ capacity } : Journal).recordAll edits).capacity := by
      unfold recordAll
      rw [List.foldl_concat]
      rfl
    rw [recorded, room, ih, latest_concat, rtake_erase_concat (nodup_keys_latest edits)]

/-- To record an edit that is held leaves every other edit as it is. -/
theorem get?_record_of_held {j : Journal} (within : j.records.length ≤ j.capacity) {id : String}
    (held : id ∈ Table.keys j.records) (r : EditRecord) {other : String} (differ : other ≠ id) :
    (j.record id r).get? other = j.get? other := by
  have room : (Table.erase j.records id ++ [(id, r)]).length - j.capacity = 0 := by
    have less := Table.length_erase_lt held
    rw [List.length_append, List.length_singleton]
    omega
  have put := Table.get?_erase_concat j.records id other r
  rw [if_neg (by simpa using differ)] at put
  unfold get? record
  dsimp only
  rw [room, List.drop_zero, put]

/-- **Journals hold the latest edits**: after any records, with repeated ids or without, the journal
holds as many of the different ids as there is room for, those that were recorded last and in the order
of their last records. Each leads to what was recorded of it last, and to record one of them again makes
none of the others go. -/
theorem recordAll_holds (capacity : Nat) (edits : Table String EditRecord) :
    let j := ({ capacity } : Journal).recordAll edits
    let held := (Table.keys edits).dedup.rtake capacity
    Table.keys j.records = held ∧
      (∀ id, j.get? id = if id ∈ held then Table.get? edits.reverse id else none) ∧
      ∀ id ∈ held, ∀ r other, other ≠ id → (j.record id r).get? other = j.get? other := by
  intro j held
  have records : j.records = (latest edits).rtake capacity := records_recordAll_eq capacity edits
  have keys : Table.keys j.records = held := by
    have length : (Table.keys (latest edits)).length = (latest edits).length := List.length_map _
    unfold held
    rw [records, ← keys_latest, List.rtake, List.rtake, length, Table.keys, List.map_drop]
    rfl
  refine ⟨keys, fun id => ?_, fun id mem r other differ => ?_⟩
  · split
    · rename_i mem
      rw [← get?_latest]
      obtain ⟨r, found⟩ : ∃ r, Table.get? j.records id = some r := by
        rw [← Option.isSome_iff_exists, Option.isSome_iff_ne_none, Ne, Table.get?_eq_none_iff, not_not, keys]
        exact mem
      have listed : (id, r) ∈ latest edits := by
        have mem := Table.mem_of_get? found
        rw [records] at mem
        exact List.mem_of_mem_drop mem
      exact found.trans (Table.get?_of_mem (nodup_keys_latest edits) listed).symm
    · rename_i missing
      exact Table.get?_eq_none_iff.mpr (keys ▸ missing)
  · have within : j.records.length ≤ j.capacity := by
      have room : j.capacity = capacity := capacity_recordAll ..
      rw [records, room, List.rtake, List.length_drop]
      omega
    exact get?_record_of_held within (keys ▸ mem) r differ

/-- Edits on record in an order that comes back to the first of them. -/
def comingBack : Table String EditRecord :=
  [("e1", ⟨"src/App.tsx", "<p>".toList, "<h1>".toList⟩),
    ("e2", ⟨"src/Home.tsx", "<b>".toList, "<i>".toList⟩),
    ("e3", ⟨"src/Shop.tsx", "<a>".toList, "<q>".toList⟩),
    ("e1", ⟨"src/App.tsx", "<h1>".toList, "<h2>".toList⟩)]

/-- With room for two, the edit that came back is there with its second record, and the second of the
others; to record the older of the two again leaves the other one. -/
theorem recordAll_comingBack :
    let j := ({ capacity := 2 } : Journal).recordAll comingBack
    Table.keys j.records = ["e3", "e1"] ∧
      j.get? "e1" = some ⟨"src/App.tsx", "<h1>".toList, "<h2>".toList⟩ ∧
      (j.record "e3" ⟨"src/Shop.tsx", [], []⟩).get? "e1" = j.get? "e1" := by
  obtain ⟨keys, found, kept⟩ := recordAll_holds 2 comingBack
  exact ⟨keys.trans (by decide), (found "e1").trans (by decide),
    kept "e3" (by decide) ⟨"src/Shop.tsx", [], []⟩ "e1" (by decide)⟩

end Retouch.Journal
