import Retouch.Backend.Answer
import Retouch.Proofs.Table

/-!
# Style changes answered

What an answer to style changes says about the project: if it tells of success, one file was found,
its text was worked out anew, and that text stands in the file now; if it does not,
the files are what they were (`answerStyles_cases`).
-/

namespace Retouch

/-- A storage that does what it says: a text that it has saved is listed from then on, the other
files as before; if it refuses a save, the listing stays. -/
class FaithfulStorage (σ : Type) [Storage σ] : Prop where
  /-- A saved text is listed. -/
  accepted (store : σ) (path : String) (t : Text) (note : String) :
    (Storage.save store path (.text t) note).2 = none →
      Storage.files (Storage.save store path (.text t) note).1 = Table.set (Storage.files store) path t
  /-- A refused save changes nothing. -/
  refused (store : σ) (path : String) (t : Text) (note reason : String) :
    (Storage.save store path (.text t) note).2 = some reason →
      Storage.files (Storage.save store path (.text t) note).1 = Storage.files store

instance : FaithfulStorage Memory where
  accepted m path t note := by
    change (m.save path (.text t) note).2 = none →
      (m.save path (.text t) note).1.sources = Table.set m.sources path t
    unfold Memory.save
    split
    · nofun
    · exact fun _ => rfl
  refused m path t note reason := by
    change (m.save path (.text t) note).2 = some reason →
      (m.save path (.text t) note).1.sources = m.sources
    unfold Memory.save
    split
    · exact fun _ => rfl
    · nofun

/-! ### The file of an element -/

namespace Resolution

theorem searched_mem {files : List SourceFile} {endings : List String} {file : SourceFile}
    (mem : file ∈ searched files endings) : file ∈ files := by
  unfold searched at mem
  obtain component | other := List.mem_append.mp mem
  · exact (List.mem_filter.mp (List.mem_filter.mp component).1).1
  · exact (List.mem_filter.mp (List.mem_filter.mp other).1).1

theorem named?_mem {files : List SourceFile} {paths : List (Option String)} {file : SourceFile}
    (found : named? files paths = some file) : file ∈ files := by
  unfold named? at found
  obtain ⟨reported, -, found⟩ := List.exists_of_findSome?_eq_some found
  split at found
  · cases found
  · obtain ⟨t, listed, rfl⟩ := Option.map_eq_some_iff.mp found
    exact Table.mem_of_get? listed

theorem byText?_mem {files : List SourceFile} {text? : Option String} {limits : SearchLimits}
    {file : SourceFile} (found : byText? files text? limits = some file) : file ∈ files := by
  unfold byText? at found
  split at found
  · cases found
  · split at found
    · cases found
    · exact List.mem_of_find?_eq_some found

theorem byId?_mem {files : List SourceFile} {selector : String} {file : SourceFile}
    (found : byId? files selector = some file) : file ∈ files := by
  unfold byId? at found
  split at found
  · cases found
  · exact List.mem_of_find?_eq_some found

theorem byClasses?_mem {files : List SourceFile} {classes? : Option String} {file : SourceFile}
    (found : byClasses? files classes? = some file) : file ∈ files := by
  unfold byClasses? at found
  obtain ⟨c, -, found⟩ := List.exists_of_findSome?_eq_some found
  exact List.mem_of_find?_eq_some found

/-- The file of an element is a file of the project. -/
theorem resolve_mem {files : List SourceFile} {endings : List String} {path? : Option String}
    {position? : Option SourcePosition} {hints : Hints} {limits : SearchLimits} {file : SourceFile}
    (found : resolve files endings path? position? hints limits = .ok file) : file ∈ files := by
  unfold resolve at found
  dsimp only at found
  split at found
  · rename_i chosen
    cases found
    simp only [Option.orElse_eq_orElse, Option.orElse_eq_or, Option.or_eq_some_iff] at chosen
    obtain named | ⟨-, byText | ⟨-, byId | ⟨-, byClasses⟩⟩⟩ := chosen
    · exact named?_mem named
    · exact searched_mem (byText?_mem byText)
    · exact searched_mem (byId?_mem byId)
    · exact searched_mem (byClasses?_mem byClasses)
  · cases found

end Resolution

/-! ### What an answer says -/

/-- What style changes say about their element. -/
def StyleUpdate.hints (r : StyleUpdate) : Hints :=
  .ofPosition r.selector r.position? r.text? r.classes?

namespace Backend

variable {σ : Type} [Storage σ]

/-- What becomes of a file under style changes: a recorded edit taken back or made again to the letter,
or else the changes converted. -/
def restyle (b : Backend σ) (r : StyleUpdate) (file : SourceFile) : Except StyleReport Restyling :=
  match b.replay? r r.hints file with
  | some w => .ok w
  | none => b.convert r r.hints file

/-- Style changes are worked out for a file of the project. -/
structure Restyles (b : Backend σ) (r : StyleUpdate) (file : SourceFile) (w : Restyling) : Prop where
  /-- The file is the one that holds the element. -/
  resolved : b.resolve r.path? r.position? r.hints = .ok file
  /-- This becomes of it. -/
  restyled : b.restyle r file = .ok w

/-- Only one outcome is worked out. -/
theorem Restyles.unique {b : Backend σ} {r : StyleUpdate} {file file' : SourceFile} {w w' : Restyling}
    (one : b.Restyles r file w) (other : b.Restyles r file' w') : file' = file ∧ w' = w := by
  have same : file' = file := Except.ok.inj (other.resolved.symm.trans one.resolved)
  subst same
  exact ⟨rfl, Except.ok.inj (other.restyled.symm.trans one.restyled)⟩

omit [Storage σ] in
theorem enter_store (b : Backend σ) (entryId? : Option String) (record? : Option EditRecord) :
    (b.enter entryId? record?).store = b.store ∧ (b.enter entryId? record?).settings = b.settings := by
  unfold enter
  split <;> exact ⟨rfl, rfl⟩

omit [Storage σ] in
theorem deployUnless_store (b : Backend σ) (skips : Bool) :
    (b.deployUnless skips).store = b.store ∧ (b.deployUnless skips).journal = b.journal ∧
      (b.deployUnless skips).settings = b.settings := by
  unfold deployUnless deploy
  split
  · exact ⟨rfl, rfl, rfl⟩
  · split <;> exact ⟨rfl, rfl, rfl⟩

/-- A file with distinct paths around it is listed under its path. -/
theorem Restyles.listed {b : Backend σ} {r : StyleUpdate} {file : SourceFile} {w : Restyling}
    (restyles : b.Restyles r file w) (distinct : (Table.keys (Storage.files b.store)).Nodup) :
    Table.get? (Storage.files b.store) file.1 = some file.2 :=
  Table.get?_of_mem distinct (Resolution.resolve_mem restyles.resolved)

/-- What saving style changes does to the files and to the journal. -/
theorem saveStyles_files [FaithfulStorage σ] (b : Backend σ) (r : StyleUpdate) {file : SourceFile}
    (listed : Table.get? (Storage.files b.store) file.1 = some file.2) (modified : Text) :
    (b.saveStyles r file modified).1.journal = b.journal ∧
      (b.saveStyles r file modified).1.settings = b.settings ∧
      ((b.saveStyles r file modified).2 = none →
        Storage.files (b.saveStyles r file modified).1.store =
          Table.set (Storage.files b.store) file.1 modified) ∧
      ((b.saveStyles r file modified).2 ≠ none →
        Storage.files (b.saveStyles r file modified).1.store = Storage.files b.store) := by
  unfold saveStyles
  split
  · rename_i same
    refine ⟨rfl, rfl, fun _ => ?_, fun _ => rfl⟩
    rw [eq_of_beq same, Table.set_of_get? listed]
  · refine ⟨rfl, rfl, fun saved => ?_, fun refused => ?_⟩
    · exact FaithfulStorage.accepted _ _ _ _ (Option.map_eq_none_iff.mp saved)
    · obtain ⟨reason, refusal⟩ := Option.ne_none_iff_exists'.mp refused
      obtain ⟨reason', refusal, -⟩ := Option.map_eq_some_iff.mp refusal
      exact FaithfulStorage.refused _ _ _ _ _ refusal

omit [Storage σ] in
/-- What could not be worked out is reported as a failure. -/
theorem restyle_error {b : Backend σ} {r : StyleUpdate} {file : SourceFile} {report : StyleReport}
    (failed : b.restyle r file = .error report) : report.success = false := by
  unfold restyle convert at failed
  dsimp only at failed
  split at failed
  · cases failed
  · split at failed
    · cases failed
      rfl
    · split at failed
      · cases failed
        rfl
      · cases failed

/-- Style changes that are told to be made: the text that was worked out stands in the file, and a new
edit is on record. -/
structure Written (b : Backend σ) (r : StyleUpdate) (file : SourceFile) (w : Restyling)
    (answer : Backend σ × StyleReport) : Prop where
  /-- The text was worked out. -/
  restyles : b.Restyles r file w
  /-- The changes are told to be made. -/
  success : answer.2.success = true
  /-- They are told to be made in that file. -/
  path : answer.2.path? = some file.1
  /-- Saving was not refused. -/
  saved : ((b.enter r.entryId? w.record?).saveStyles r file w.modified).2 = none
  /-- The text stands in the file. -/
  files : Storage.files answer.1.store = Table.set (Storage.files b.store) file.1 w.modified
  /-- A new edit is on record. -/
  journal : answer.1.journal = (b.enter r.entryId? w.record?).journal
  /-- The settings stay. -/
  settings : answer.1.settings = b.settings

/-- What style changes do, by the success that is told: the text that was worked out stands in the
file; or the files are what they were, and if a text was worked out, it could not be saved. -/
theorem answerStyles_cases [FaithfulStorage σ] (b : Backend σ) (r : StyleUpdate)
    (distinct : (Table.keys (Storage.files b.store)).Nodup) :
    ((b.answerStyles r).2.success = false ∧
      Storage.files (b.answerStyles r).1.store = Storage.files b.store ∧
      ∀ file w, b.Restyles r file w →
        ((b.enter r.entryId? w.record?).saveStyles r file w.modified).2 ≠ none) ∨
    ∃ file w, b.Written r file w (b.answerStyles r) := by
  unfold answerStyles
  dsimp only
  split
  · rename_i e unresolved
    refine Or.inl ⟨rfl, rfl, fun file w restyles => ?_⟩
    cases unresolved.symm.trans restyles.resolved
  · rename_i file resolved
    split
    · rename_i report failed
      refine Or.inl ⟨restyle_error failed, rfl, fun file' w restyles => ?_⟩
      cases Except.ok.inj (resolved.symm.trans restyles.resolved)
      cases failed.symm.trans restyles.restyled
    · rename_i w restyled
      have restyles : b.Restyles r file w := ⟨resolved, restyled⟩
      obtain ⟨store, settings⟩ := enter_store b r.entryId? w.record?
      have listed : Table.get? (Storage.files (b.enter r.entryId? w.record?).store) file.1 =
          some file.2 := by
        rw [store]
        exact restyles.listed distinct
      obtain ⟨journal, settings', saved, refused⟩ :=
        saveStyles_files (b.enter r.entryId? w.record?) r listed w.modified
      rw [store] at saved refused
      split
      · rename_i b' reason outcome
        rw [outcome] at refused
        refine Or.inl ⟨rfl, refused (Option.some_ne_none _), fun file' w' restyles' => ?_⟩
        obtain ⟨rfl, rfl⟩ := restyles.unique restyles'
        rw [outcome]
        exact Option.some_ne_none _
      · rename_i b' outcome
        rw [outcome] at saved journal settings'
        obtain ⟨told, journal', settings''⟩ := deployUnless_store (b'.tell (.stylesPatched file.1
          r.selector w.applied (w.failed.map fun f => f.property ++ ": " ++ f.reason))) r.skipsDeploy
        refine Or.inr ⟨file, w, restyles, rfl, rfl, congrArg Prod.snd outcome, ?_, ?_, ?_⟩
        · dsimp only
          rw [told]
          exact saved rfl
        · exact journal'.trans journal
        · exact settings''.trans (settings'.trans settings)

end Backend

end Retouch
