import Mathlib.Data.List.Induction
import Retouch.Proofs.Binary64.Rounding
import Retouch.Proofs.Outcome
import Retouch.Proofs.Table
import Retouch.Upload.Reassembly

/-!
# What becomes of a piece

A piece of an upload meets one of four ends (`receive_takes`): it is refused, it is taken in while
others are missing, it is the last one and the upload is saved, or it is the last one and the upload is
lost. Whichever it is, the other uploads stay as they are, but for those that have been idle for too
long (`erase_receive`).

An upload is kept exactly as long as it is worth waiting for: some of its pieces are there, others are
missing, and it has not been idle for too long. That holds of every upload that is kept after any run of
pieces, good or bad (`receiveAll_waiting`). Since a piece leaves the other uploads alone, no upload can
be spoiled by the pieces of another one.
-/

namespace Retouch.Upload

/-! ### A piece and its upload -/

/-- A piece may be taken in: its place is among the pieces, and there are not too many of them, neither
altogether nor for the size that is told. -/
structure Fits (limits : Limits) (chunk : ImageChunk) (index total : Nat) : Prop where
  /-- The place is the one the piece names. -/
  index_eq : chunk.index = index
  /-- There are as many pieces as the piece says. -/
  total_eq : chunk.total = total
  /-- The place is one of them. -/
  index_lt : index < total
  /-- There are no more pieces than allowed. -/
  total_le : (total : Int) ≤ limits.maxPieces
  /-- There are no more pieces than the size needs. -/
  needed : 0 < chunk.size → (total : Int) ≤ maxPieces chunk.size

/-- The pieces that pass the check. -/
theorem checkPiece_eq_ok {limits : Limits} {chunk : ImageChunk} {index total : Nat} :
    checkPiece limits chunk = .ok (index, total) ↔ Fits limits chunk index total := by
  unfold checkPiece
  constructor
  · intro passed
    split at passed
    · cases passed
    split at passed
    · cases passed
    split at passed
    · cases passed
    split at passed
    · cases passed
    rename_i some few needed inside
    simp only [Bool.and_eq_true, decide_eq_true_eq, not_and, Int.not_lt] at needed
    simp only [Bool.or_eq_true, decide_eq_true_eq, not_or, Int.not_lt, Int.not_le] at inside
    cases passed
    exact ⟨by omega, by omega, by omega, by omega, fun told => by have := needed told; omega⟩
  · rintro ⟨index_eq, total_eq, index_lt, total_le, needed⟩
    rw [if_neg (by omega), if_neg (by omega), if_neg, if_neg, index_eq, total_eq]
    · rfl
    · simp only [Bool.or_eq_true, decide_eq_true_eq]
      omega
    · simp only [Bool.and_eq_true, decide_eq_true_eq, not_and, Int.not_lt, total_eq]
      exact needed

/-- The upload that a piece belongs to, before the piece is taken in: a new one, if its type is allowed
and its size is not told to be too large, or the one that is waiting for as many pieces. -/
inductive Joins (limits : Limits) (now : Float) (uploads : Uploads) (chunk : ImageChunk)
    (total : Nat) : Pending → Prop
  | first (new : Table.get? uploads chunk.upload = none) (allowed : chunk.mimeType ∈ limits.types)
    (small : chunk.size ≤ limits.maxBytes) :
    Joins limits now uploads chunk total
      { fileName := chunk.fileName, mimeType := chunk.mimeType, lastActive := now, total }
  | later {p : Pending} (waiting : Table.get? uploads chunk.upload = some p) (same : p.total = total) :
    Joins limits now uploads chunk total p

theorem start_eq_ok {limits : Limits} {now : Float} {chunk : ImageChunk} {total : Nat} {p : Pending} :
    start limits now chunk total = .ok p ↔
      chunk.mimeType ∈ limits.types ∧ chunk.size ≤ limits.maxBytes ∧
        p = { fileName := chunk.fileName, mimeType := chunk.mimeType, lastActive := now, total } := by
  unfold start
  by_cases allowed : chunk.mimeType ∈ limits.types
  · rw [if_neg (by simp [allowed])]
    by_cases small : chunk.size ≤ limits.maxBytes
    · rw [if_neg (by omega)]
      simp [allowed, small, eq_comm]
    · rw [if_pos (by omega)]
      simp [small]
  · rw [if_pos (by simp [allowed])]
    simp [allowed]

theorem pendingFor_eq_ok {limits : Limits} {now : Float} {uploads : Uploads} {chunk : ImageChunk}
    {total : Nat} {p : Pending} :
    pendingFor limits now uploads chunk total = .ok p ↔ Joins limits now uploads chunk total p := by
  unfold pendingFor
  constructor
  · intro found
    split at found
    · rename_i new
      obtain ⟨allowed, small, rfl⟩ := start_eq_ok.mp found
      exact .first new allowed small
    · rename_i waiting
      split at found
      · rename_i same
        cases found
        exact .later waiting (eq_of_beq same)
      · cases found
  · intro joins
    cases joins with
    | first new allowed small =>
      rw [new]
      exact start_eq_ok.mpr ⟨allowed, small, rfl⟩
    | later waiting same =>
      rw [waiting]
      exact if_pos (beq_iff_eq.mpr same)

/-- **What is collected** is the upload that the piece belongs to, with the piece taken in. -/
theorem collect_eq_ok {limits : Limits} {now : Float} {uploads : Uploads} {chunk : ImageChunk}
    {p : Pending} :
    collect limits now uploads chunk = .ok p ↔ ∃ index total joined,
      Fits limits chunk index total ∧ Joins limits now uploads chunk total joined ∧
        p = { joined with lastActive := now }.store index chunk.chunk := by
  unfold collect
  simp only [bind_eq_ok, Prod.exists, checkPiece_eq_ok, pendingFor_eq_ok, Except.ok.injEq]
  constructor
  · rintro ⟨index, total, fits, joined, joins, done⟩
    exact ⟨index, total, joined, fits, joins, done.symm⟩
  · rintro ⟨index, total, joined, fits, joins, done⟩
    exact ⟨index, total, fits, joined, joins, done.symm⟩

section Store

variable {p : Pending} {index : Nat}

/-- A piece for a place that has one is left out. -/
theorem Pending.store_of_filled {old : String} (filled : p.slots[index]? = some (some old))
    (piece : String) : p.store index piece = p := by
  unfold store
  rw [filled]

/-- A piece for an empty place is put there and counted. -/
theorem Pending.store_of_empty (empty : p.slots[index]? = some none) (piece : String) :
    p.store index piece =
      { p with slots := p.slots.set index (some piece), received := p.received + 1 } := by
  unfold store
  rw [empty]

@[simp] theorem Pending.store_lastActive (piece : String) :
    (p.store index piece).lastActive = p.lastActive := by
  unfold store
  split <;> rfl

end Store

/-! ### The four ends -/

section Ends

variable {σ : Type} [Storage σ]

/-- The note under which an upload is saved. -/
def saveNote (p : Pending) : String := "design mode: upload " ++ p.fileName

/-- An upload that is complete is saved exactly if it can be decoded, is not too large, and the storage
takes it. -/
theorem finish_eq_ok {limits : Limits} {store store' : σ} {upload path : String} {p : Pending}
    {data : List UInt8} :
    finish limits store upload p = (store', .ok (path, data)) ↔
      decode? p.joined = some data ∧ (data.length : Int) ≤ limits.maxBytes ∧
        path = savePath limits upload p ∧
        Storage.save store path (.bytes data) (saveNote p) = (store', none) := by
  unfold finish saveNote
  constructor
  · intro done
    split at done
    · cases done
    · rename_i bytes decoded
      split at done
      · cases done
      · rename_i small
        dsimp only at done
        split at done
        · rename_i accepted
          cases done
          exact ⟨decoded, by omega, rfl, accepted⟩
        · cases done
  · rintro ⟨decoded, small, rfl, accepted⟩
    rw [decoded]
    dsimp only
    rw [if_neg (by omega), accepted]

/-- An upload that is complete fails before anything is saved, or it is saved and the storage has the
last word. -/
theorem finish_cases (limits : Limits) (store : σ) (upload : String) (p : Pending) :
    (∃ e, finish limits store upload p = (store, .error e)) ∨
      ∃ data store' refusal?,
        Storage.save store (savePath limits upload p) (.bytes data) (saveNote p) = (store', refusal?) ∧
          (finish limits store upload p).1 = store' ∧
          ((finish limits store upload p).2.isOk = true ↔ refusal? = none) := by
  unfold finish
  cases decode? p.joined with
  | none => exact Or.inl ⟨_, rfl⟩
  | some data =>
    dsimp only
    by_cases small : limits.maxBytes < data.length
    · rw [if_pos small]
      exact Or.inl ⟨_, rfl⟩
    · rw [if_neg small]
      obtain ⟨⟨store', refusal?⟩, saved⟩ : ∃ outcome,
        Storage.save store (savePath limits upload p) (.bytes data) (saveNote p) = outcome := ⟨_, rfl⟩
      refine Or.inr ⟨data, store', refusal?, saved, ?_⟩
      rw [show "design mode: upload " ++ p.fileName = saveNote p from rfl, saved]
      cases refusal? <;> simp [Except.isOk, Except.toBool]

/-- What a piece leads to: the storage, the uploads that are waiting, and where its own upload stands. -/
inductive Takes (limits : Limits) (now : Float) (store : σ) (uploads : Uploads) (chunk : ImageChunk) :
    σ × Uploads × Status → Prop
  | refused {e : UploadError}
    (refused : collect limits now (dropIdle limits now uploads) chunk = .error e) :
    Takes limits now store uploads chunk
      (store, Table.erase (dropIdle limits now uploads) chunk.upload, .failed chunk.total e)
  | waiting {p : Pending} (collected : collect limits now (dropIdle limits now uploads) chunk = .ok p)
    (missing : p.received ≠ p.total) :
    Takes limits now store uploads chunk
      (store, Table.set (dropIdle limits now uploads) chunk.upload p, .inProgress p.received p.total)
  | saved {p : Pending} {store' : σ} {path : String} {data : List UInt8}
    (collected : collect limits now (dropIdle limits now uploads) chunk = .ok p)
    (complete : p.received = p.total)
    (finished : finish limits store chunk.upload p = (store', .ok (path, data))) :
    Takes limits now store uploads chunk
      (store', Table.erase (dropIdle limits now uploads) chunk.upload, .complete p.total path data)
  | lost {p : Pending} {store' : σ} {e : UploadError}
    (collected : collect limits now (dropIdle limits now uploads) chunk = .ok p)
    (complete : p.received = p.total)
    (failed : finish limits store chunk.upload p = (store', .error e)) :
    Takes limits now store uploads chunk
      (store', Table.erase (dropIdle limits now uploads) chunk.upload, .failed chunk.total e)

/-- **Every piece meets one of the four ends.** -/
theorem receive_takes (limits : Limits) (now : Float) (store : σ) (uploads : Uploads)
    (chunk : ImageChunk) :
    Takes limits now store uploads chunk (receive limits now store uploads chunk) := by
  unfold receive
  dsimp only
  split
  · rename_i refused
    exact .refused refused
  · rename_i p collected
    by_cases complete : p.received = p.total
    · rw [if_neg (by simp [Pending.isComplete, complete])]
      split
      · rename_i finished
        exact .saved collected complete finished
      · rename_i failed
        exact .lost collected complete failed
    · rw [if_pos (by simp [Pending.isComplete, complete])]
      exact .waiting collected complete

/-- The end of a piece that is taken in while others are missing. -/
theorem receive_of_missing {limits : Limits} {now : Float} (store : σ) {uploads : Uploads}
    {chunk : ImageChunk} {p : Pending}
    (collected : collect limits now (dropIdle limits now uploads) chunk = .ok p)
    (missing : p.received ≠ p.total) :
    receive limits now store uploads chunk =
      (store, Table.set (dropIdle limits now uploads) chunk.upload p,
        .inProgress p.received p.total) := by
  unfold receive
  dsimp only
  rw [collected]
  exact if_pos (by simp [Pending.isComplete, missing])

/-- The end of the last piece of an upload that is saved. -/
theorem receive_of_finish {limits : Limits} {now : Float} {store store' : σ} {uploads : Uploads}
    {chunk : ImageChunk} {p : Pending} {path : String} {data : List UInt8}
    (collected : collect limits now (dropIdle limits now uploads) chunk = .ok p)
    (complete : p.received = p.total)
    (finished : finish limits store chunk.upload p = (store', .ok (path, data))) :
    receive limits now store uploads chunk =
      (store', Table.erase (dropIdle limits now uploads) chunk.upload,
        .complete p.total path data) := by
  unfold receive
  dsimp only
  rw [collected]
  dsimp only
  rw [if_neg (by simp [Pending.isComplete, complete]), finished]

omit [Storage σ] in
/-- It does not matter whether an upload is taken out before the idle ones or after them. -/
theorem erase_dropIdle (limits : Limits) (now : Float) (uploads : Uploads) (upload : String) :
    Table.erase (dropIdle limits now uploads) upload = dropIdle limits now (Table.erase uploads upload) := by
  unfold dropIdle Table.erase
  rw [List.filter_filter, List.filter_filter]
  exact List.filter_congr fun e _ => Bool.and_comm ..

/-- The other uploads stay, in their order, but for those that have been idle for too long. -/
theorem erase_receive (limits : Limits) (now : Float) (store : σ) (uploads : Uploads)
    (chunk : ImageChunk) :
    Table.erase (receive limits now store uploads chunk).2.1 chunk.upload =
      dropIdle limits now (Table.erase uploads chunk.upload) := by
  have takes := receive_takes limits now store uploads chunk
  generalize receive limits now store uploads chunk = outcome at takes
  cases takes with
  | waiting => rw [Table.erase_set, erase_dropIdle]
  | _ => rw [Table.erase_erase, erase_dropIdle]

/-- Another upload is there afterwards exactly if its time is not over. -/
theorem get?_receive_of_ne (limits : Limits) (now : Float) (store : σ) (uploads : Uploads)
    {chunk : ImageChunk} {upload : String} (other : chunk.upload ≠ upload) :
    Table.get? (receive limits now store uploads chunk).2.1 upload =
      Table.get? (dropIdle limits now uploads) upload := by
  have kept := congrArg (Table.get? · upload) (erase_receive limits now store uploads chunk)
  simp only [← erase_dropIdle, Table.get?_erase, beq_iff_eq, other.symm, if_false] at kept
  exact kept

/-! ### Pieces one after the other -/

/-- A piece, and when it comes. -/
structure Arrival where
  /-- The time in seconds. -/
  now : Float
  /-- The piece. -/
  chunk : ImageChunk
  deriving Inhabited

/-- The storage and the uploads that are waiting after pieces have come one after the other. -/
def receiveAll (limits : Limits) (state : σ × Uploads) (arrivals : List Arrival) : σ × Uploads :=
  arrivals.foldl (fun state a =>
    let (store, uploads, _) := receive limits a.now state.1 state.2 a.chunk
    (store, uploads)) state

@[simp] theorem receiveAll_nil (limits : Limits) (state : σ × Uploads) :
    receiveAll limits state [] = state := rfl

@[simp] theorem receiveAll_concat (limits : Limits) (state : σ × Uploads) (past : List Arrival)
    (a : Arrival) :
    receiveAll limits state (past ++ [a]) =
      ((receive limits a.now (receiveAll limits state past).1 (receiveAll limits state past).2 a.chunk).1,
        (receive limits a.now (receiveAll limits state past).1 (receiveAll limits state past).2
          a.chunk).2.1) := by
  simp [receiveAll]

end Ends

section Waiting

/-! ### One upload that waits -/

/-- An upload is booked rightly: it has a slot for every piece, counts the pieces that are there, and
has no more of them than allowed. -/
structure Pending.IsBooked (limits : Limits) (p : Pending) : Prop where
  /-- There is a slot for every piece. -/
  slots : p.slots.length = p.total
  /-- The pieces that are there are counted. -/
  received : p.received = p.slots.countP Option.isSome
  /-- There are no more pieces than allowed. -/
  total_le : (p.total : Int) ≤ limits.maxPieces

/-- An upload is waiting: it is booked rightly, and some of its pieces, but not all, are there. -/
structure Pending.IsWaiting (limits : Limits) (p : Pending) : Prop extends p.IsBooked limits where
  /-- There are two pieces at least. -/
  two_le : 2 ≤ p.total
  /-- Some are there. -/
  begun : 0 < p.received
  /-- Some are missing. -/
  missing : p.received < p.total

variable {limits : Limits} {now : Float} {uploads : Uploads} {chunk : ImageChunk}

/-- A new upload is booked rightly. -/
theorem Pending.isBooked_new {total : Nat} (few : (total : Int) ≤ limits.maxPieces)
    (fileName mimeType : String) :
    ({ fileName, mimeType, lastActive := now, total } : Pending).IsBooked limits where
  slots := List.length_replicate
  received := by simp [List.countP_replicate]
  total_le := few

/-- After a piece is taken in, the upload is booked rightly and has a piece. -/
theorem Pending.IsBooked.store {p : Pending} (booked : p.IsBooked limits) {index : Nat}
    (inside : index < p.total) (piece : String) :
    (p.store index piece).IsBooked limits ∧ 0 < (p.store index piece).received := by
  have inside : index < p.slots.length := by rw [booked.slots]; exact inside
  have slot : p.slots[index]? = some p.slots[index] := List.getElem?_eq_getElem inside
  cases taken : p.slots[index] with
  | some old =>
    rw [taken] at slot
    rw [Pending.store_of_filled slot]
    refine ⟨booked, ?_⟩
    rw [booked.received, List.countP_pos_iff]
    exact ⟨some old, List.mem_of_getElem? slot, rfl⟩
  | none =>
    rw [taken] at slot
    rw [Pending.store_of_empty slot]
    refine ⟨⟨?_, ?_, booked.total_le⟩, Nat.succ_pos _⟩
    · simp [booked.slots]
    · simp [List.countP_set inside, taken, booked.received]

/-- What is collected is booked rightly, was active just now, and has a piece. -/
theorem collect_booked (booked : ∀ e ∈ uploads, e.2.IsBooked limits) {p : Pending}
    (collected : collect limits now uploads chunk = .ok p) :
    p.IsBooked limits ∧ 0 < p.received ∧ p.lastActive = now := by
  obtain ⟨index, total, joined, fits, joins, rfl⟩ := collect_eq_ok.mp collected
  obtain ⟨rightly, total_eq⟩ : joined.IsBooked limits ∧ joined.total = total := by
    cases joins with
    | first new allowed small => exact ⟨Pending.isBooked_new fits.total_le .., rfl⟩
    | later waiting same => exact ⟨booked _ (Table.mem_of_get? waiting), same⟩
  have rightly : ({ joined with lastActive := now } : Pending).IsBooked limits :=
    ⟨rightly.slots, rightly.received, rightly.total_le⟩
  obtain ⟨stored, begun⟩ := rightly.store (by simpa [total_eq] using fits.index_lt) chunk.chunk
  exact ⟨stored, begun, Pending.store_lastActive ..⟩

/-- An upload that has a piece and is not complete is waiting. -/
theorem Pending.IsBooked.isWaiting {p : Pending} (booked : p.IsBooked limits) (begun : 0 < p.received)
    (missing : p.received ≠ p.total) : p.IsWaiting limits := by
  have filled : p.received ≤ p.total := by
    rw [booked.received, ← booked.slots]
    exact List.countP_le_length
  exact { booked with two_le := by omega, begun, missing := by omega }

/-! ### All uploads that wait -/

/-- An upload has not been idle for too long: a piece has just come, or not long ago. -/
def Pending.IsActive (limits : Limits) (now : Float) (p : Pending) : Prop :=
  p.lastActive = now ∨ ¬ now - p.lastActive > limits.idleSeconds

/-- If idle uploads are given time at all, the time of an active one is not over. -/
theorem Pending.IsActive.not_idle {p : Pending} (active : p.IsActive limits now)
    (nonneg : ¬ limits.idleSeconds < 0) : ¬ now - p.lastActive > limits.idleSeconds := by
  obtain rfl | recent := active
  · exact Binary64.not_lt_sub_self p.lastActive nonneg
  · exact recent

variable {σ : Type} [Storage σ]

/-- **A piece keeps the uploads waiting and active.** -/
theorem receive_waiting (waiting : ∀ e ∈ uploads, e.2.IsWaiting limits) (store : σ) :
    ∀ e ∈ (receive limits now store uploads chunk).2.1, e.2.IsWaiting limits ∧ e.2.IsActive limits now := by
  have kept : ∀ e ∈ dropIdle limits now uploads, e.2.IsWaiting limits ∧ e.2.IsActive limits now := by
    intro e mem
    obtain ⟨mem, recent⟩ := List.mem_filter.mp mem
    exact ⟨waiting e mem, Or.inr (by simpa using recent)⟩
  have takes := receive_takes limits now store uploads chunk
  generalize receive limits now store uploads chunk = outcome at takes
  cases takes with
  | waiting collected missing =>
    intro e mem
    obtain rfl | old := Table.mem_of_mem_set mem
    · obtain ⟨booked, begun, active⟩ := collect_booked (fun e mem => (kept e mem).1.toIsBooked) collected
      exact ⟨booked.isWaiting begun missing, Or.inl active⟩
    · exact kept e old
  | _ => exact fun e mem => kept e (List.mem_filter.mp mem).1

/-- Uploads that are kept are waiting, whatever has come. -/
theorem receiveAll_isWaiting (limits : Limits) (store : σ) (arrivals : List Arrival) :
    ∀ e ∈ (receiveAll limits (store, []) arrivals).2, e.2.IsWaiting limits := by
  induction arrivals using List.reverseRecOn with
  | nil => simp
  | append_singleton past a ih =>
    rw [receiveAll_concat]
    exact fun e mem => (receive_waiting ih _ e mem).1

/-- **What is kept after any run of pieces is waiting**, and its time was not over when the last piece
came. That piece left all uploads but its own as they were, except for those whose time was over. -/
theorem receiveAll_waiting (limits : Limits) (store : σ) (arrivals : List Arrival) (last : Arrival) :
    let before := (receiveAll limits (store, []) arrivals).2
    let after := (receiveAll limits (store, []) (arrivals ++ [last])).2
    (∀ e ∈ after, e.2.IsWaiting limits ∧ e.2.IsActive limits last.now ∧
        (¬ limits.idleSeconds < 0 → ¬ last.now - e.2.lastActive > limits.idleSeconds)) ∧
      Table.erase after last.chunk.upload =
        dropIdle limits last.now (Table.erase before last.chunk.upload) := by
  rw [receiveAll_concat]
  refine ⟨fun e mem => ?_, erase_receive ..⟩
  obtain ⟨waiting, active⟩ := receive_waiting (receiveAll_isWaiting limits store arrivals) _ e mem
  exact ⟨waiting, active, active.not_idle⟩

end Waiting

end Retouch.Upload
