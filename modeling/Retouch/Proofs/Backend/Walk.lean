import Mathlib.Data.List.FinRange
import Mathlib.Data.List.Induction
import Retouch.Proofs.Backend.Position
import Retouch.Proofs.Backend.Swap
import Retouch.Proofs.Table

/-!
# Walks over the versions of a file

A tag of a file was edited again and again, and each edit is on record. The journal keeps texts, not
places; what leads it back to the tag are the line and the column that the hints give. Both are those of
the start of the tag, which no version of the file moves (`lineAndColumn_splice`). So every step back
and forth finds the tag, whatever else in the file reads like it, and a walk of such steps comes to the
same text whenever it comes to the same version (`EditChain.walks`).
-/

namespace Retouch

open Retouch.Text Retouch.Markup Retouch.Locate

/-- A text put in place of another one leaves the line and the column where it starts. -/
theorem Backend.lineAndColumn_splice {source : Text} {start : Nat} (stop : Nat) (new : Text)
    (within : start ≤ source.length) :
    Backend.lineAndColumn (splice source start stop new) start = Backend.lineAndColumn source start := by
  unfold Backend.lineAndColumn lineOf
  rw [take_splice stop new within]

/-! ### What the journal keeps -/

namespace Journal

/-- The journal after edits are recorded one after the other. -/
def recordAll (j : Journal) (edits : Table String EditRecord) : Journal :=
  edits.foldl (fun j e => j.record e.1 e.2) j

theorem capacity_recordAll (j : Journal) (edits : Table String EditRecord) :
    (j.recordAll edits).capacity = j.capacity := by
  induction edits generalizing j with
  | nil => rfl
  | cons e edits ih => exact ih (j.record e.1 e.2)

/-- As many edits as there is room for are all kept, as the latest ones. -/
theorem records_recordAll (j : Journal) {edits : Table String EditRecord}
    (distinct : (Table.keys edits).Nodup) (within : edits.length ≤ j.capacity) :
    ∃ older, (j.recordAll edits).records = older ++ edits ∧
      ∀ id ∈ Table.keys edits, id ∉ Table.keys older := by
  induction edits using List.reverseRecOn with
  | nil => exact ⟨j.records, (List.append_nil _).symm, nofun⟩
  | append_singleton edits e ih =>
    rw [List.length_append, List.length_singleton] at within
    have keys : Table.keys (edits ++ [e]) = Table.keys edits ++ [e.1] := List.map_append ..
    rw [keys] at distinct ⊢
    obtain ⟨distinct, -, fresh⟩ := List.nodup_append.mp distinct
    obtain ⟨older, records, apart⟩ := ih distinct (by omega)
    have new : e.1 ∉ Table.keys edits := fun mem => fresh e.1 mem e.1 (List.mem_singleton.mpr rfl) rfl
    have erased : Table.erase (older ++ edits) e.1 = Table.erase older e.1 ++ edits := by
      rw [Table.erase_append, Table.erase_of_not_mem new]
    have recorded : (j.recordAll (edits ++ [e])).records =
        ((Table.erase older e.1 ++ (edits ++ [e])).drop
          ((Table.erase older e.1 ++ (edits ++ [e])).length - j.capacity)) := by
      unfold recordAll at records ⊢
      rw [List.foldl_concat, record]
      dsimp only
      rw [records, erased, List.append_assoc]
      exact congrArg (fun n => List.drop (_ - n) _) (capacity_recordAll j edits)
    -- what goes to make room is older than all of them
    rw [List.drop_append_of_le_length (by simp only [List.length_append, List.length_singleton]; omega)]
      at recorded
    refine ⟨_, recorded, fun id mem old => ?_⟩
    obtain ⟨o, listed, rfl⟩ := List.mem_map.mp old
    obtain ⟨listed, other⟩ := List.mem_filter.mp (List.mem_of_mem_drop listed)
    obtain mem | mem := List.mem_append.mp mem
    · exact apart o.1 mem (List.mem_map_of_mem listed)
    · exact absurd (List.mem_singleton.mp mem) (by simpa using other)

/-- Each of these edits is on record. -/
theorem get?_recordAll (j : Journal) {edits : Table String EditRecord}
    (distinct : (Table.keys edits).Nodup) (within : edits.length ≤ j.capacity) {id : String}
    {r : EditRecord} (mem : (id, r) ∈ edits) : (j.recordAll edits).get? id = some r := by
  obtain ⟨older, records, apart⟩ := j.records_recordAll distinct within
  have absent : Table.get? older id = none := by
    refine List.lookup_eq_none_iff.mpr fun e old => bne_iff_ne.mpr ?_
    rintro rfl
    exact apart e.1 (List.mem_map.mpr ⟨_, mem, rfl⟩) (List.mem_map_of_mem old)
  have kept := Table.get?_of_mem distinct mem
  unfold Table.get? at absent kept
  unfold get? Table.get?
  rw [records, List.lookup_append, absent, kept]
  rfl

end Journal

/-! ### Versions of a file -/

/-- A tag of a file that `n` edits gave one text after the other. -/
structure EditChain (n : Nat) where
  /-- The file. -/
  path : String
  /-- Its source, with any text of the tag. -/
  source : Text
  /-- The tag. -/
  tag : Tag
  /-- The texts of the tag, before the first edit and after each one. -/
  text : Fin (n + 1) → Text
  /-- The ids of the edits. -/
  entry : Fin n → String
  /-- The tag is read from the source. -/
  read : IsRead source tag
  /-- With each of its texts, the tag is read as just that text. -/
  reads (k : Fin (n + 1)) :
    (readTag? (splice source tag.start (tag.close + 1) (text k)) tag.start).map
      (·.text (splice source tag.start (tag.close + 1) (text k))) = some (text k)
  /-- No two edits have one id. -/
  distinct : entry.Injective

/-- The version that a step starts from: an edit is taken back after it was made. -/
def Direction.origin {n : Nat} (d : Direction) (e : Fin n) : Fin (n + 1) :=
  match d with
  | .undo => e.succ
  | .redo => e.castSucc

/-- The version that a step leads to. -/
def Direction.target {n : Nat} (d : Direction) (e : Fin n) : Fin (n + 1) :=
  match d with
  | .undo => e.castSucc
  | .redo => e.succ

/-- Steps over versions, each one from where the step before led: an edit taken back or made again. -/
inductive VersionWalk (n : Nat) : Fin (n + 1) → List (Direction × Fin n) → Fin (n + 1) → Prop where
  /-- No step at all. -/
  | stay (k : Fin (n + 1)) : VersionWalk n k [] k
  /-- A step and a walk from where it leads. -/
  | move {k : Fin (n + 1)} {steps : List (Direction × Fin n)} (d : Direction) (e : Fin n)
      (onward : VersionWalk n (d.target e) steps k) : VersionWalk n (d.origin e) ((d, e) :: steps) k

namespace EditChain

variable {n : Nat} (c : EditChain n)

/-- A version of the file. -/
def version (k : Fin (n + 1)) : Text := splice c.source c.tag.start (c.tag.close + 1) (c.text k)

/-- The records of the edits. -/
def edits : Table String EditRecord :=
  List.ofFn fun e => (c.entry e, ⟨c.path, c.text e.castSucc, c.text e.succ⟩)

/-- A version after steps that a journal replays one after the other; none if one of them cannot be
done to the letter. -/
def replayAll? (j : Journal) (hints : Hints) (limits : SearchLimits) (source : Text)
    (steps : List (Direction × Fin n)) : Option Text :=
  steps.foldlM (fun source step => j.replay? (c.entry step.2) step.1 c.path source hints limits) source

theorem start_le : c.tag.start ≤ c.source.length := by
  obtain ⟨le, lt, -⟩ := readTag?_span c.read
  omega

/-- The edits are recorded under their own ids. -/
theorem distinct_edits : (Table.keys c.edits).Nodup := by
  have keys : Table.keys c.edits = List.ofFn c.entry := by
    unfold Table.keys edits
    rw [List.map_ofFn]
    rfl
  rw [keys]
  exact List.nodup_ofFn.mpr c.distinct

/-- In each version, the tag reads as it should, and it is the one that the hints lead to. -/
theorem found {hints : Hints} (points : hints.PointsTo c.source c.tag.start) (limits : SearchLimits)
    (k : Fin (n + 1)) :
    ∃ tag, findTag? (c.version k) hints limits = some (tag, .lineNumber) ∧
      tag.start = c.tag.start ∧ tag.text (c.version k) = c.text k := by
  obtain ⟨tag, read, text⟩ := Option.map_eq_some_iff.mp (c.reads k)
  have start := start_of_readTag? read
  have same : Backend.lineAndColumn (c.version k) tag.start =
      Backend.lineAndColumn c.source c.tag.start := by
    rw [start]
    exact Backend.lineAndColumn_splice _ _ c.start_le
  have points' : hints.PointsTo (c.version k) tag.start := ⟨same ▸ points.line, same ▸ points.column⟩
  exact ⟨tag, points'.findTag? (isRead_of_readTag? read) limits, start, text⟩

/-- To put one text of the tag in place of another one gives the version with that text. -/
theorem splice_version (k k' : Fin (n + 1)) :
    splice (c.version k) c.tag.start (c.tag.start + (c.text k).length) (c.text k') = c.version k' := by
  unfold version
  rw [splice, take_splice _ _ c.start_le, drop_splice _ _ c.start_le]
  rfl

/-- A version is swapped into another one at the tag. -/
theorem swap?_version {hints : Hints} (points : hints.PointsTo c.source c.tag.start)
    (limits : SearchLimits) (k k' : Fin (n + 1)) :
    Journal.swap? (c.version k) (c.text k) (c.text k') hints limits = some (c.version k') := by
  obtain ⟨tag, found, start, text⟩ := c.found points limits k
  have place : Journal.swapPlace? (c.version k) (c.text k) hints limits = some c.tag.start := by
    unfold Journal.swapPlace?
    rw [found, Option.map_some, Option.filter_some, if_pos (by simpa using text)]
    exact congrArg some start
  rw [Journal.swap?_eq, place, Option.map_some, c.splice_version k k']

/-- **One step.** An edit that is taken back or made again leads from version to version. -/
theorem replay?_version {j : Journal} (within : n ≤ j.capacity) {hints : Hints}
    (points : hints.PointsTo c.source c.tag.start) (limits : SearchLimits) (d : Direction) (e : Fin n) :
    (j.recordAll c.edits).replay? (c.entry e) d c.path (c.version (d.origin e)) hints limits =
      some (c.version (d.target e)) := by
  have room : c.edits.length ≤ j.capacity := by
    unfold edits
    rw [List.length_ofFn]
    exact within
  have recorded := j.get?_recordAll c.distinct_edits room (List.mem_ofFn.mpr ⟨e, rfl⟩)
  unfold Journal.replay?
  rw [recorded, Option.filter_some, if_pos (beq_self_eq_true c.path)]
  cases d with
  | undo => exact c.swap?_version points limits e.succ e.castSucc
  | redo => exact c.swap?_version points limits e.castSucc e.succ

/-- **Walks over versions.** With the edits on record and hints that point to the tag, every edit can be
taken back and made again, and a walk of such steps comes to the file as it was at the version that it
leads to. -/
theorem walks (j : Journal) (within : n ≤ j.capacity) (hints : Hints)
    (points : hints.PointsTo c.source c.tag.start) (limits : SearchLimits) :
    let j' := j.recordAll c.edits
    (∀ e : Fin n, j'.replay? (c.entry e) .undo c.path (c.version e.succ) hints limits =
        some (c.version e.castSucc)) ∧
      (∀ e : Fin n, j'.replay? (c.entry e) .redo c.path (c.version e.castSucc) hints limits =
        some (c.version e.succ)) ∧
      ∀ k steps k', VersionWalk n k steps k' →
        c.replayAll? j' hints limits (c.version k) steps = some (c.version k') := by
  have step := c.replay?_version within points limits
  refine ⟨step .undo, step .redo, fun k steps k' walk => ?_⟩
  induction walk with
  | stay k => rfl
  | move d e onward ih =>
    unfold replayAll? at ih ⊢
    rw [List.foldlM_cons, step d e]
    exact ih

/-- The second of two tags that read alike, styled twice. -/
def restyled : EditChain 2 where
  path := "a.tsx"
  source := "<p class=\"text-lg\"/>\n  <p class=\"text-lg\"/>".toList
  tag := ⟨23, 42, ['p']⟩
  text := ["<p class=\"text-lg\"/>".toList, "<p class=\"text-xl\"/>".toList,
    "<p class=\"text-xl font-bold\"/>".toList].get
  entry := ["e1", "e2"].get
  read := by
    unfold IsRead
    decide +kernel
  reads := by decide +kernel
  distinct := List.nodup_iff_injective_get.mp (by decide)

/-- Both edits are taken back and the first one is made again, although the first version has the text of
the tag twice. -/
theorem restyled_walks :
    VersionWalk 2 2 [(.undo, 1), (.undo, 0), (.redo, 0)] 1 ∧
      restyled.replayAll? (Journal.recordAll {} restyled.edits) { line? := some 2, column? := some 3 } {}
        (restyled.version 2) [(.undo, 1), (.undo, 0), (.redo, 0)] = some (restyled.version 1) := by
  have walk : VersionWalk 2 2 [(.undo, 1), (.undo, 0), (.redo, 0)] 1 :=
    .move .undo 1 (.move .undo 0 (.move .redo 0 (.stay 1)))
  have points : Hints.PointsTo { line? := some 2, column? := some 3 } restyled.source restyled.tag.start :=
    ⟨by decide +kernel, by decide +kernel⟩
  exact ⟨walk, (restyled.walks {} (by decide) _ points {}).2.2 2 _ 1 walk⟩

end EditChain

end Retouch
