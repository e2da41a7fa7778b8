import Retouch.Proofs.Backend.Undo

/-!
# Style changes that fail

When style changes fail, the storage is what it was, whatever it keeps besides the files. The journal is
not always: a new edit is entered before its file is saved, and is not taken out again if the save is
refused. So the journal is what it was exactly if no new edit was worked out, or if the record of it was
the latest one already (`failed_leaves_iff`).
-/

namespace Retouch

/-- A storage that is left as it is by a save that it refuses. -/
class AtomicStorage (σ : Type) [Storage σ] : Prop where
  /-- A refused save changes nothing at all. -/
  refused (store : σ) (path : String) (contents : Contents) (note reason : String) :
    (Storage.save store path contents note).2 = some reason →
      (Storage.save store path contents note).1 = store

instance : AtomicStorage Memory where
  refused m path contents note reason := by
    change (m.save path contents note).2 = some reason → (m.save path contents note).1 = m
    unfold Memory.save
    split
    · exact fun _ => rfl
    · nofun

namespace Journal

/-- To enter a record changes nothing: the journal keeps no records at all, or this one is its latest. -/
def HasLatest (j : Journal) (id : String) (r : EditRecord) : Prop :=
  (j.capacity = 0 ∧ j.records = []) ∨
    ∃ older, j.records = older ++ [(id, r)] ∧ id ∉ Table.keys older ∧ j.records.length ≤ j.capacity

/-- **When a record changes nothing.** -/
theorem record_eq_self_iff (j : Journal) (id : String) (r : EditRecord) :
    j.record id r = j ↔ j.HasLatest id r := by
  have fields : j.record id r = j ↔ (j.record id r).records = j.records := by
    constructor
    · intro same
      rw [same]
    · intro same
      show { j with records := (j.record id r).records } = j
      rw [same]
  have length : (Table.erase j.records id ++ [(id, r)]).length =
      (Table.erase j.records id).length + 1 := by
    rw [List.length_append, List.length_singleton]
  rw [fields]
  unfold record HasLatest
  dsimp only
  constructor
  · intro same
    by_cases none : j.capacity = 0
    · rw [none, Nat.sub_zero, List.drop_length] at same
      exact Or.inl ⟨none, same.symm⟩
    · have kept : (Table.erase j.records id ++ [(id, r)]).length - j.capacity ≤
          (Table.erase j.records id).length := by omega
      have short := congrArg List.length same
      rw [List.length_drop] at short
      rw [List.drop_append_of_le_length kept] at same
      refine Or.inr ⟨_, same.symm, ?_, by omega⟩
      intro mem
      obtain ⟨e, he, eq⟩ := List.mem_map.mp mem
      exact Table.not_mem_keys_erase j.records id (List.mem_map.mpr ⟨e, List.mem_of_mem_drop he, eq⟩)
  · rintro (⟨none, empty⟩ | ⟨older, last, new, within⟩)
    · rw [none, empty, Nat.sub_zero, List.drop_length]
    · have erased : Table.erase j.records id = older := by
        have single : Table.erase [(id, r)] id = [] := by simp [Table.erase]
        rw [last, Table.erase_append, single, List.append_nil, Table.erase_of_not_mem new]
      rw [erased, ← last, Nat.sub_eq_zero_of_le within, List.drop_zero]

end Journal

namespace Backend

variable {σ : Type} [Storage σ]

/-- A save of style changes that is refused leaves the backend as it is. -/
theorem saveStyles_refused [AtomicStorage σ] {b b' : Backend σ} {r : StyleUpdate} {file : SourceFile}
    {modified : Text} {reason : String} (refused : b.saveStyles r file modified = (b', some reason)) :
    b' = b := by
  unfold saveStyles save at refused
  split at refused
  · cases refused
  · obtain ⟨rfl, told⟩ := Prod.mk.inj refused
    obtain ⟨reason', refusal, -⟩ := Option.map_eq_some_iff.mp told
    have store := AtomicStorage.refused b.store file.1 (.text modified) _ _ refusal
    exact congrArg (fun store => { b with store }) store

/-- Style changes that fail leave the backend as it is, but for the record of a new edit that could not
be saved. -/
theorem answerStyles_failed [AtomicStorage σ] {b : Backend σ} {r : StyleUpdate}
    (failed : (b.answerStyles r).2.success = false) :
    ((∀ file w, ¬ b.Restyles r file w) ∧ (b.answerStyles r).1 = b) ∨
      ∃ file w, b.Restyles r file w ∧ (b.answerStyles r).1 = b.enter r.entryId? w.record? := by
  unfold answerStyles at failed ⊢
  dsimp only at failed ⊢
  split
  · rename_i e unresolved
    refine Or.inl ⟨fun file w restyles => ?_, rfl⟩
    cases unresolved.symm.trans restyles.resolved
  · rename_i file resolved
    rw [resolved] at failed
    dsimp only at failed
    split
    · rename_i report unworked
      refine Or.inl ⟨fun file' w restyles => ?_, rfl⟩
      cases Except.ok.inj (resolved.symm.trans restyles.resolved)
      cases unworked.symm.trans restyles.restyled
    · rename_i w restyled
      rw [restyled] at failed
      dsimp only at failed
      split
      · rename_i b' reason refused
        exact Or.inr ⟨file, w, ⟨resolved, restyled⟩, saveStyles_refused refused⟩
      · rename_i b' saved
        rw [saved] at failed
        cases failed

/-- **What style changes that fail leave behind.** The storage is what it was. So is the journal, exactly
if the record of any new edit that was worked out was the latest one already. -/
theorem failed_leaves_iff [AtomicStorage σ] (b : Backend σ) (r : StyleUpdate)
    (failed : (b.answerStyles r).2.success = false) :
    (b.answerStyles r).1.store = b.store ∧
      ((b.answerStyles r).1.journal = b.journal ↔
        ∀ file w id record, b.Restyles r file w → r.entryId? = some id → w.record? = some record →
          b.journal.HasLatest id record) := by
  obtain ⟨unworked, same⟩ | ⟨file, w, restyles, entered⟩ := answerStyles_failed failed
  · rw [same]
    exact ⟨rfl, fun _ file w _ _ restyles => absurd restyles (unworked file w), fun _ => rfl⟩
  · rw [entered]
    refine ⟨(enter_store b r.entryId? w.record?).1, ?_, ?_⟩
    · intro same file' w' id record restyles' named recorded
      obtain ⟨-, rfl⟩ := restyles.unique restyles'
      unfold enter at same
      rw [named, recorded] at same
      exact (b.journal.record_eq_self_iff id record).mp same
    · intro latest
      unfold enter
      split
      · rename_i id record named recorded
        exact (b.journal.record_eq_self_iff id record).mpr (latest file w id record restyles named recorded)
      · rfl

/-- The project with one tag, when its files cannot be saved. -/
def locked : Backend Memory := { single with store := { single.store with refuses := true } }

/-- An edit of the locked project fails; the files and the saves so far stay, and since the journal does
not, the record of the edit is a new one. -/
theorem locked_failed :
    (locked.answerStyles enlarge).2.success = false ∧
      (locked.answerStyles enlarge).1.store = locked.store ∧
      ¬ ∀ file w id record, locked.Restyles enlarge file w → enlarge.entryId? = some id →
        w.record? = some record → locked.journal.HasLatest id record := by
  have failed : (locked.answerStyles enlarge).2.success = false := by decide +kernel
  obtain ⟨store, journal⟩ := failed_leaves_iff locked enlarge failed
  refine ⟨failed, store, fun latest => ?_⟩
  have same := congrArg Journal.records (journal.mpr latest)
  revert same
  decide +kernel

/-- The edit that could not be saved is on record. -/
theorem locked_recorded :
    (locked.answerStyles enlarge).2.success = false ∧
      locked.journal.records = [] ∧
      (locked.answerStyles enlarge).1.journal.records =
        [("e1", ⟨"a.tsx", "<p class=\"text-lg promo\"/>".toList, "<p class=\"text-xl promo\"/>".toList⟩)] := by
  decide +kernel

end Backend

end Retouch
