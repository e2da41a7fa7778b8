import Mathlib.Data.Finset.Card
import Mathlib.Data.Finset.Image
import Mathlib.Logic.Relation
import Retouch.Proofs.Upload.Cutting
import Retouch.Proofs.Upload.Receiving

/-!
# Uploads are put together

The pieces of an upload may come in any order, some of them more than once, and between the pieces of
other uploads, whatever becomes of those, if only none of them comes too long after the one before it. As
long as a piece is missing, the answer tells how many are there; the piece that was missing last
completes the upload, and what is saved, once, are the bytes that were cut (`receive_assembles`).
-/

namespace Retouch.Upload

/-! ### A storage that accepts -/

section Accepting

variable {σ : Type} [Storage σ]

/-- One storage is the other one after a save, accepted or not. -/
def SavedTo (store store' : σ) : Prop :=
  ∃ path contents note, store' = (Storage.save store path contents note).1

/-- A storage accepts saves: whatever has been saved, the next save is not refused. -/
def Accepts (store : σ) : Prop :=
  ∀ store', Relation.ReflTransGen SavedTo store store' →
    ∀ path contents note, (Storage.save store' path contents note).2 = none

theorem Accepts.save {store store' : σ} (accepts : Accepts store) (saved : SavedTo store store') :
    Accepts store' :=
  fun store'' rest => accepts store'' (.head saved rest)

/-- A storage in memory that does not refuse saves accepts them. -/
theorem accepts_memory {m : Memory} (accepting : m.refuses = false) : Accepts m := by
  have kept : ∀ m', Relation.ReflTransGen SavedTo m m' → m'.refuses = false := by
    intro m' saves
    induction saves with
    | refl => exact accepting
    | tail _ saved ih =>
      obtain ⟨path, contents, note, rfl⟩ := saved
      show ((Memory.save _ path contents note).1).refuses = false
      unfold Memory.save
      rw [ih, if_neg (by decide)]
      cases contents <;> rfl
  intro m' saves path contents note
  show (Memory.save m' path contents note).2 = none
  unfold Memory.save
  rw [kept m' saves, if_neg (by decide)]

/-- An upload that is complete is saved at most once. -/
theorem finish_store (limits : Limits) (store : σ) (upload : String) (p : Pending) :
    (finish limits store upload p).1 = store ∨ SavedTo store (finish limits store upload p).1 := by
  rcases finish_cases limits store upload p with ⟨e, failed⟩ | ⟨data, store', refusal?, saved, kept, -⟩
  · rw [failed]
    exact Or.inl rfl
  · refine Or.inr ⟨savePath limits upload p, .bytes data, saveNote p, ?_⟩
    rw [kept, saved]

/-- A piece saves at most once. -/
theorem receive_store (limits : Limits) (now : Float) (store : σ) (uploads : Uploads)
    (chunk : ImageChunk) :
    (receive limits now store uploads chunk).1 = store ∨
      SavedTo store (receive limits now store uploads chunk).1 := by
  have takes := receive_takes limits now store uploads chunk
  generalize receive limits now store uploads chunk = outcome at takes
  cases takes with
  | refused | waiting => exact Or.inl rfl
  | @saved p _ _ _ _ _ finished =>
    have done := finish_store limits store chunk.upload p
    rwa [finished] at done
  | @lost p _ _ _ _ failed =>
    have done := finish_store limits store chunk.upload p
    rwa [failed] at done

theorem Accepts.receive {store : σ} (accepts : Accepts store) (limits : Limits) (now : Float)
    (uploads : Uploads) (chunk : ImageChunk) :
    Accepts (receive limits now store uploads chunk).1 := by
  rcases receive_store limits now store uploads chunk with same | saved
  · rw [same]
    exact accepts
  · exact accepts.save saved

theorem Accepts.receiveAll {store : σ} (accepts : Accepts store) (limits : Limits) (uploads : Uploads)
    (arrivals : List Arrival) : Accepts (receiveAll limits (store, uploads) arrivals).1 := by
  induction arrivals using List.reverseRecOn with
  | nil => exact accepts
  | append_singleton past a ih =>
    rw [receiveAll_concat]
    exact ih.receive limits a.now _ a.chunk

end Accepting

/-! ### What has come of an upload -/

section Seen

variable (upload : String)

/-- The pieces of an upload among those that have come. -/
def own (past : List Arrival) : List Arrival := past.filter fun a => a.chunk.upload == upload

/-- The places that pieces of an upload have come for. -/
def places (past : List Arrival) : List Int := (own upload past).map fun a => a.chunk.index

/-- When the last piece of an upload came. -/
def lastTime? (past : List Arrival) : Option Float := (own upload past).getLast?.map Arrival.now

variable {upload} {past : List Arrival} {a : Arrival}

theorem own_concat (mine : a.chunk.upload = upload) : own upload (past ++ [a]) = own upload past ++ [a] := by
  simp [own, mine]

theorem own_concat_of_ne (other : a.chunk.upload ≠ upload) :
    own upload (past ++ [a]) = own upload past := by
  simp [own, other]

theorem places_concat (mine : a.chunk.upload = upload) :
    places upload (past ++ [a]) = places upload past ++ [a.chunk.index] := by
  simp [places, own_concat mine]

theorem places_concat_of_ne (other : a.chunk.upload ≠ upload) :
    places upload (past ++ [a]) = places upload past := by
  simp [places, own_concat_of_ne other]

theorem lastTime?_concat (mine : a.chunk.upload = upload) :
    lastTime? upload (past ++ [a]) = some a.now := by
  simp [lastTime?, own_concat mine]

theorem lastTime?_concat_of_ne (other : a.chunk.upload ≠ upload) :
    lastTime? upload (past ++ [a]) = lastTime? upload past := by
  simp [lastTime?, own_concat_of_ne other]

end Seen

/-! ### Deliveries -/

variable {limits : Limits} {upload : String} {data : List UInt8} {pieces : List String}

/-- The time of an upload is not over: its last piece, if there is one, came not too long ago. -/
def InTime (limits : Limits) (upload : String) (past : List Arrival) (now : Float) : Prop :=
  ∀ last, lastTime? upload past = some last → ¬ now - last > limits.idleSeconds

/-- What is in time later is in time earlier. -/
theorem InTime.of_le {past : List Arrival} {now later : Float} (inTime : InTime limits upload past later)
    (le : now ≤ later) : InTime limits upload past now :=
  fun last seen late => inTime last seen (Binary64.lt_sub_of_le le late)

/-- The clock does not go back. -/
def IsTimed (arrivals : List Arrival) : Prop := arrivals.Pairwise fun a b => a.now ≤ b.now

instance (arrivals : List Arrival) : Decidable (IsTimed arrivals) :=
  inferInstanceAs (Decidable (arrivals.Pairwise _))

theorem IsTimed.of_concat {past : List Arrival} {a : Arrival} (timed : IsTimed (past ++ [a])) :
    IsTimed past ∧ ∀ b ∈ past, b.now ≤ a.now := by
  obtain ⟨timed, -, before⟩ := List.pairwise_append.mp timed
  exact ⟨timed, fun b mem => before b mem a (List.mem_singleton.mpr rfl)⟩

/-- A piece of the upload: it tells rightly how many there are, tells the size rightly or not at all, is
of an allowed type and for one of the places, and is the right one if it is the first for its place. -/
structure IsPieceOf (limits : Limits) (upload : String) (data : List UInt8) (pieces : List String)
    (past : List Arrival) (chunk : ImageChunk) : Prop where
  /-- It belongs to the upload. -/
  own : chunk.upload = upload
  /-- It tells how many pieces there are. -/
  total : chunk.total = pieces.length
  /-- It tells the size, or none. -/
  size : chunk.size = 0 ∨ chunk.size = data.length
  /-- It is of an allowed type. -/
  allowed : chunk.mimeType ∈ limits.types
  /-- It is for one of the places. -/
  place : 0 ≤ chunk.index ∧ chunk.index < pieces.length
  /-- The first one for a place is the right one. -/
  right : chunk.index ∉ places upload past → pieces[chunk.index.toNat]? = some chunk.chunk

/-- Pieces are delivered: each one belongs to another upload, whatever it is, or is a piece of this one
and comes in time. -/
inductive Delivers (limits : Limits) (upload : String) (data : List UInt8) (pieces : List String) :
    List Arrival → Prop
  | nothing : Delivers limits upload data pieces []
  | foreign {past : List Arrival} {a : Arrival} (delivers : Delivers limits upload data pieces past)
    (other : a.chunk.upload ≠ upload) :
    Delivers limits upload data pieces (past ++ [a])
  | piece {past : List Arrival} {a : Arrival} (delivers : Delivers limits upload data pieces past)
    (inTime : InTime limits upload past a.now)
    (isPiece : IsPieceOf limits upload data pieces past a.chunk) :
    Delivers limits upload data pieces (past ++ [a])

/-- A piece that is delivered. -/
theorem Delivers.of_concat {past : List Arrival} {a : Arrival} (own : a.chunk.upload = upload)
    (delivers : Delivers limits upload data pieces (past ++ [a])) :
    Delivers limits upload data pieces past ∧ InTime limits upload past a.now ∧
      IsPieceOf limits upload data pieces past a.chunk := by
  generalize run : past ++ [a] = arrivals at delivers
  cases delivers with
  | nothing => simp at run
  | foreign before other =>
    obtain ⟨rfl, rfl⟩ := List.concat_inj.mp (by simpa using run)
    exact absurd own other
  | piece before inTime isPiece =>
    obtain ⟨rfl, rfl⟩ := List.concat_inj.mp (by simpa using run)
    exact ⟨before, inTime, isPiece⟩

/-- The places of pieces that are delivered are among the places. -/
theorem Delivers.places_lt {past : List Arrival} (delivers : Delivers limits upload data pieces past) :
    ∀ i ∈ places upload past, 0 ≤ i ∧ i < pieces.length := by
  induction delivers with
  | nothing => simp [places, own]
  | foreign before other ih => rwa [places_concat_of_ne other]
  | piece before inTime isPiece ih =>
    rw [places_concat isPiece.own]
    intro i mem
    rcases List.mem_append.mp mem with old | new
    · exact ih i old
    · rw [List.mem_singleton.mp new]
      exact isPiece.place

/-- A piece is missing: none has come for its place. -/
def Missing (upload : String) (pieces : List String) (past : List Arrival) : Prop :=
  ∃ i : Nat, i < pieces.length ∧ (i : Int) ∉ places upload past

/-- What is missing later was missing before. -/
theorem Missing.of_concat {past : List Arrival} {a : Arrival} (missing : Missing upload pieces (past ++ [a])) :
    Missing upload pieces past := by
  obtain ⟨i, inside, new⟩ := missing
  refine ⟨i, inside, fun old => new ?_⟩
  by_cases own : a.chunk.upload = upload
  · rw [places_concat own]
    exact List.mem_append_left _ old
  · rwa [places_concat_of_ne own]

/-- A piece is missing exactly if there are fewer places with a piece than places. -/
theorem Delivers.missing_iff {past : List Arrival} (delivers : Delivers limits upload data pieces past) :
    Missing upload pieces past ↔ (places upload past).toFinset.card ≠ pieces.length := by
  have all : (places upload past).toFinset ⊆ (Finset.range pieces.length).image (Nat.cast : Nat → Int) := by
    intro i mem
    obtain ⟨nonneg, inside⟩ := delivers.places_lt i (List.mem_toFinset.mp mem)
    refine Finset.mem_image.mpr ⟨i.toNat, Finset.mem_range.mpr (by omega), by omega⟩
  have count : ((Finset.range pieces.length).image (Nat.cast : Nat → Int)).card = pieces.length := by
    rw [Finset.card_image_of_injective _ fun i j same => Int.ofNat_inj.mp same, Finset.card_range]
  constructor
  · rintro ⟨i, inside, missing⟩ same
    have full := Finset.eq_of_subset_of_card_le all (by omega)
    refine missing (List.mem_toFinset.mp ?_)
    rw [full]
    exact Finset.mem_image_of_mem _ (Finset.mem_range.mpr inside)
  · intro fewer
    refine Classical.byContradiction fun none => fewer ?_
    rw [← count]
    refine congrArg Finset.card (Finset.Subset.antisymm all ?_)
    intro i mem
    obtain ⟨i, inside, rfl⟩ := Finset.mem_image.mp mem
    refine List.mem_toFinset.mpr (Classical.byContradiction fun missing => none ?_)
    exact ⟨i, Finset.mem_range.mp inside, missing⟩

/-! ### What is waiting is what has come -/

/-- An upload holds what has come of it: each place with a piece has the right one, and the places with
a piece are counted. -/
structure Pending.Holds (p : Pending) (upload : String) (pieces : List String) (past : List Arrival) :
    Prop where
  /-- It waits for all pieces. -/
  total : p.total = pieces.length
  /-- It has a slot for each. -/
  length : p.slots.length = pieces.length
  /-- The slots of the places that a piece has come for have the right piece. -/
  slots : ∀ i : Nat, i < pieces.length →
    p.slots[i]? = some (if (i : Int) ∈ places upload past then pieces[i]? else none)
  /-- The places with a piece are counted. -/
  received : p.received = (places upload past).toFinset.card

/-- A new upload holds what has come of it: nothing. -/
theorem Pending.holds_new {past : List Arrival} (empty : places upload past = []) (now : Float)
    (fileName mimeType : String) :
    ({ fileName, mimeType, lastActive := now, total := pieces.length } : Pending).Holds upload pieces past where
  total := rfl
  length := List.length_replicate
  slots i inside := by simp [empty, inside]
  received := by simp [empty]

/-- After a piece is taken in, an upload holds what has come of it. -/
theorem Pending.Holds.store {p : Pending} {past : List Arrival} {a : Arrival}
    (holds : p.Holds upload pieces past)
    (isPiece : IsPieceOf limits upload data pieces past a.chunk) :
    (p.store a.chunk.index.toNat a.chunk.chunk).Holds upload pieces (past ++ [a]) := by
  obtain ⟨nonneg, inside⟩ := isPiece.place
  obtain ⟨index, index_eq⟩ := Int.eq_ofNat_of_zero_le nonneg
  have right := isPiece.right
  have own : places upload (past ++ [a]) = places upload past ++ [a.chunk.index] := places_concat isPiece.own
  rw [index_eq] at inside right own
  rw [index_eq]
  simp only [Int.toNat_natCast] at right ⊢
  have inside : index < pieces.length := by omega
  have slot := holds.slots index inside
  by_cases old : (index : Int) ∈ places upload past
  · -- the place has its piece already: nothing changes, in the upload or among the places
    rw [if_pos old, List.getElem?_eq_getElem inside] at slot
    have mem : ∀ i : Int, i ∈ places upload (past ++ [a]) ↔ i ∈ places upload past := by
      intro i
      rw [own, List.mem_append, List.mem_singleton]
      exact or_iff_left_of_imp fun same => same ▸ old
    rw [Pending.store_of_filled slot]
    refine ⟨holds.total, holds.length, fun i inside => ?_, ?_⟩
    · simp only [mem]
      exact holds.slots i inside
    · rw [holds.received]
      exact congrArg Finset.card (Finset.ext fun i => by simp [mem])
  · rw [if_neg old] at slot
    rw [Pending.store_of_empty slot]
    refine ⟨holds.total, by simpa using holds.length, fun i inside' => ?_, ?_⟩
    · dsimp only
      rw [List.getElem?_set, own]
      by_cases same : index = i
      · subst same
        rw [if_pos rfl, if_pos (by rw [holds.length]; exact inside), if_pos (by simp), right old]
      · have other : (i : Int) ≠ index := by omega
        rw [if_neg same, holds.slots i inside']
        simp only [List.mem_append, List.mem_singleton, other, or_false]
    · dsimp only
      rw [own, List.toFinset_append, holds.received, Finset.union_comm]
      simp [old]

/-- An upload that all pieces have come of holds them in their order. -/
theorem Pending.Holds.joined {p : Pending} {past : List Arrival} (holds : p.Holds upload pieces past)
    (complete : ¬ Missing upload pieces past) : p.joined = String.join pieces := by
  have slots : p.slots = pieces.map some := by
    refine List.ext_getElem? fun i => ?_
    by_cases inside : i < pieces.length
    · have seen : (i : Int) ∈ places upload past :=
        Classical.byContradiction fun missing => complete ⟨i, inside, missing⟩
      rw [holds.slots i inside, if_pos seen, List.getElem?_map, List.getElem?_eq_getElem inside]
      rfl
    · rw [List.getElem?_eq_none (by rw [holds.length]; omega), List.getElem?_eq_none (by simp; omega)]
  unfold Pending.joined
  rw [slots, List.map_map]
  simp [Function.comp_def]

/-- Where an upload stands: nothing has come of it, or what has come is waiting since the last piece
came. -/
inductive Stands (upload : String) (pieces : List String) (past : List Arrival) (uploads : Uploads) : Prop
  | unknown (empty : places upload past = []) (new : Table.get? uploads upload = none)
  | waiting {p : Pending} (found : Table.get? uploads upload = some p)
    (holds : p.Holds upload pieces past) (last : lastTime? upload past = some p.lastActive)

/-- A piece of another upload leaves an upload that is in time where it stands. -/
theorem Stands.foreign {σ : Type} [Storage σ] {past : List Arrival} {a : Arrival} {uploads : Uploads}
    (stands : Stands upload pieces past uploads) (inTime : InTime limits upload past a.now)
    (other : a.chunk.upload ≠ upload) (store : σ) :
    Stands upload pieces (past ++ [a]) (receive limits a.now store uploads a.chunk).2.1 := by
  have kept := get?_receive_of_ne limits a.now store uploads other
  cases stands with
  | unknown empty new =>
    refine .unknown (by rwa [places_concat_of_ne other]) ?_
    rw [kept]
    exact Table.get?_filter_of_none new _
  | waiting found holds last =>
    refine .waiting ?_ ?_ (by rwa [lastTime?_concat_of_ne other])
    · rw [kept]
      exact Table.get?_filter_of_pos found (by simpa using inTime _ last)
    · obtain ⟨total, length, slots, received⟩ := holds
      exact ⟨total, length, by rwa [places_concat_of_ne other], by rwa [places_concat_of_ne other]⟩

/-- **A piece that comes in time is collected**, and the upload holds it. -/
theorem Stands.collect {past : List Arrival} {a : Arrival} {uploads : Uploads}
    (stands : Stands upload pieces past uploads) (inTime : InTime limits upload past a.now)
    (isPiece : IsPieceOf limits upload data pieces past a.chunk) (cut : IsCut data pieces)
    (small : (data.length : Int) ≤ limits.maxBytes) (few : (pieces.length : Int) ≤ limits.maxPieces) :
    ∃ p, collect limits a.now (dropIdle limits a.now uploads) a.chunk = .ok p ∧
      p.Holds upload pieces (past ++ [a]) ∧ p.lastActive = a.now := by
  obtain ⟨nonneg, inside⟩ := isPiece.place
  have fits : Fits limits a.chunk a.chunk.index.toNat pieces.length :=
    ⟨by omega, isPiece.total, by omega, few, cut.needed isPiece.size⟩
  obtain ⟨joined, joins, holds⟩ : ∃ joined,
      Joins limits a.now (dropIdle limits a.now uploads) a.chunk pieces.length joined ∧
        joined.Holds upload pieces past := by
    cases stands with
    | unknown empty new =>
      refine ⟨_, .first ?_ isPiece.allowed ?_, Pending.holds_new empty _ _ _⟩
      · rw [isPiece.own]
        exact Table.get?_filter_of_none new _
      · rcases isPiece.size with size | size <;> rw [size] <;> omega
    | waiting found holds last =>
      refine ⟨_, .later ?_ holds.total, holds⟩
      rw [isPiece.own]
      exact Table.get?_filter_of_pos found (by simpa using inTime _ last)
  have holds : ({ joined with lastActive := a.now } : Pending).Holds upload pieces past :=
    ⟨holds.total, holds.length, holds.slots, holds.received⟩
  exact ⟨_, collect_eq_ok.mpr ⟨_, _, _, fits, joins, rfl⟩, holds.store isPiece,
    Pending.store_lastActive ..⟩

section Run

variable {σ : Type} [Storage σ]

/-- As long as a piece is missing and the time is not over, what has come of an upload is waiting. -/
theorem Delivers.stands {past : List Arrival} (delivers : Delivers limits upload data pieces past)
    (cut : IsCut data pieces) (small : (data.length : Int) ≤ limits.maxBytes)
    (few : (pieces.length : Int) ≤ limits.maxPieces) (store : σ) {uploads : Uploads}
    (new : Table.get? uploads upload = none) (missing : Missing upload pieces past)
    (timed : IsTimed past) {now : Float} (before : ∀ b ∈ past, b.now ≤ now)
    (inTime : InTime limits upload past now) :
    Stands upload pieces past (receiveAll limits (store, uploads) past).2 := by
  induction delivers generalizing now with
  | nothing => exact .unknown rfl new
  | @foreign past a delivers other ih =>
    obtain ⟨timed, earlier⟩ := timed.of_concat
    -- what comes between two pieces of the upload comes before the second, hence in time as well
    have inTime : InTime limits upload past a.now := by
      unfold InTime at inTime
      rw [lastTime?_concat_of_ne other] at inTime
      exact InTime.of_le inTime (before a (by simp))
    rw [receiveAll_concat]
    exact (ih missing.of_concat timed earlier inTime).foreign inTime other _
  | @piece past a delivers onTime isPiece ih =>
    obtain ⟨timed, earlier⟩ := timed.of_concat
    obtain ⟨p, collected, holds, active⟩ :=
      (ih missing.of_concat timed earlier onTime).collect onTime isPiece cut small few
    have fewer : p.received ≠ p.total := by
      rw [holds.received, holds.total]
      exact (delivers.piece onTime isPiece).missing_iff.mp missing
    rw [receiveAll_concat, receive_of_missing _ collected fewer]
    refine .waiting ?_ holds (by rw [lastTime?_concat isPiece.own, active])
    rw [Table.get?_set, isPiece.own, if_pos (beq_self_eq_true upload)]

/-- **Uploads are put together.** A host cuts bytes rightly, whatever the length of a piece; and if bytes
are cut rightly, into no more pieces than allowed, and the pieces are delivered to a storage that accepts
saves, then each one that comes while others are missing saves nothing and is answered with how many are
there, and the one that was missing last saves, once, the very bytes. -/
theorem receive_assembles (limits : Limits) (upload : String) (data : List UInt8) :
    (∀ size : Int, 1 ≤ size → ∃ pieces, Host.pieces? size (Base64.encode data) = some pieces ∧
        IsCut data (pieces.map String.ofList)) ∧
      ∀ {pieces : List String}, IsCut data pieces → (data.length : Int) ≤ limits.maxBytes →
        (pieces.length : Int) ≤ limits.maxPieces → ∀ {store : σ}, Accepts store →
        ∀ {uploads : Uploads}, Table.get? uploads upload = none →
        ∀ {past : List Arrival} {a : Arrival}, Delivers limits upload data pieces (past ++ [a]) →
        IsTimed (past ++ [a]) → a.chunk.upload = upload → Missing upload pieces past →
        let before := receiveAll limits (store, uploads) past
        let outcome := receive limits a.now before.1 before.2 a.chunk
        (Missing upload pieces (past ++ [a]) →
            outcome.1 = before.1 ∧
              outcome.2.2 = .inProgress (places upload (past ++ [a])).toFinset.card pieces.length) ∧
          (¬ Missing upload pieces (past ++ [a]) → ∃ path note,
            Storage.save before.1 path (.bytes data) note = (outcome.1, none) ∧
              outcome.2.2 = .complete pieces.length path data ∧
                Table.get? outcome.2.1 upload = none) := by
  refine ⟨fun size positive => isCut_pieces? data positive, ?_⟩
  intro pieces cut small few store accepts uploads new past a delivers timed own missing before outcome
  obtain ⟨delivered, inTime, isPiece⟩ := delivers.of_concat own
  obtain ⟨timed, earlier⟩ := timed.of_concat
  obtain ⟨p, collected, holds, -⟩ :=
    (delivered.stands cut small few store new missing timed earlier inTime).collect inTime isPiece cut
      small few
  have missing_iff := delivers.missing_iff
  rw [← holds.received, ← holds.total] at missing_iff
  constructor
  · intro missing
    have waits := receive_of_missing before.1 collected (missing_iff.mp missing)
    refine ⟨congrArg Prod.fst waits, ?_⟩
    rw [← holds.received, ← holds.total]
    exact congrArg (·.2.2) waits
  · intro complete
    have all : p.received = p.total := by
      by_contra fewer
      exact complete (missing_iff.mpr fewer)
    have decoded : decode? p.joined = some data := by
      rw [holds.joined complete]
      exact decode?_join cut
    have accepted := accepts.receiveAll limits uploads past _ .refl
      (savePath limits a.chunk.upload p) (.bytes data) (saveNote p)
    have finished : finish limits before.1 a.chunk.upload p =
        ((Storage.save before.1 (savePath limits a.chunk.upload p) (.bytes data) (saveNote p)).1,
          .ok (savePath limits a.chunk.upload p, data)) :=
      finish_eq_ok.mpr ⟨decoded, small, rfl, Prod.ext rfl accepted⟩
    have saves := receive_of_finish collected all finished
    refine ⟨savePath limits a.chunk.upload p, saveNote p, ?_, ?_, ?_⟩
    · rw [congrArg Prod.fst saves]
      exact Prod.ext rfl accepted
    · rw [← holds.total]
      exact congrArg (·.2.2) saves
    · rw [congrArg (·.2.1) saves, Table.get?_erase, own, if_pos (beq_self_eq_true upload)]

end Run

/-! ### Three bytes -/

/-- A piece of three bytes. -/
def cheer (index : Nat) (piece : String) (now : Float) : Arrival where
  now
  chunk :=
    { upload := "up-1", chunk := piece, index, total := 3, fileName := "hi.png", mimeType := "image/png" }

/-- A piece of another upload, and not a good one. -/
def stray : Arrival where
  now := 2
  chunk := { upload := "up-2", chunk := "", index := 7, total := 0, fileName := "", mimeType := "" }

theorem isPieceOf_cheer {past : List Arrival} {index : Nat} {piece : String} {now : Float}
    (inside : index < 3)
    (right : (index : Int) ∉ places "up-1" past → ["SG", "k", "h"][index]? = some piece) :
    IsPieceOf {} "up-1" [0x48, 0x69, 0x21] ["SG", "k", "h"] past (cheer index piece now).chunk where
  own := rfl
  total := rfl
  size := Or.inl rfl
  allowed := by show "image/png" ∈ _; decide
  place := ⟨Int.natCast_nonneg index, Int.ofNat_lt.mpr inside⟩
  right := right

/-- Three pieces come out of order, one of them a second time, when it is wrong, and a stray one comes
between them. -/
theorem cheer_assembles :
    let past := [cheer 1 "k" 1, stray, cheer 0 "SG" 3, cheer 1 "no" 4]
    let before := receiveAll {} (({} : Memory), []) past
    let outcome := receive {} 5 before.1 before.2 (cheer 2 "h" 5).chunk
    ∃ path note, Storage.save before.1 path (.bytes [0x48, 0x69, 0x21]) note = (outcome.1, none) ∧
      outcome.2.2 = .complete 3 path [0x48, 0x69, 0x21] ∧ Table.get? outcome.2.1 "up-1" = none := by
  intro past before outcome
  have cut : IsCut [0x48, 0x69, 0x21] ["SG", "k", "h"] := ⟨by rfl, Or.inl (by decide), by decide⟩
  have delivers : Delivers {} "up-1" [0x48, 0x69, 0x21] ["SG", "k", "h"] (past ++ [cheer 2 "h" 5]) := by
    have first : Delivers {} "up-1" [0x48, 0x69, 0x21] ["SG", "k", "h"] ([] ++ [cheer 1 "k" 1]) :=
      .piece .nothing nofun (isPieceOf_cheer (by decide) fun _ => rfl)
    have second := first.foreign (a := stray) (by decide)
    have third := second.piece (a := cheer 0 "SG" 3) (by rintro _ ⟨⟩; decide)
      (isPieceOf_cheer (by decide) fun _ => rfl)
    have fourth := third.piece (a := cheer 1 "no" 4) (by rintro _ ⟨⟩; decide)
      (isPieceOf_cheer (by decide) fun new => absurd (by decide) new)
    exact fourth.piece (a := cheer 2 "h" 5) (by rintro _ ⟨⟩; decide)
      (isPieceOf_cheer (by decide) fun _ => rfl)
  have missing : Missing "up-1" ["SG", "k", "h"] past := ⟨2, by decide, by decide⟩
  have complete : ¬ Missing "up-1" ["SG", "k", "h"] (past ++ [cheer 2 "h" 5]) := by
    have all : ∀ i : Nat, i < 3 → (i : Int) ∈ places "up-1" (past ++ [cheer 2 "h" 5]) := by decide
    rintro ⟨i, inside, new⟩
    exact new (all i inside)
  exact ((receive_assembles {} "up-1" [0x48, 0x69, 0x21]).2 cut (by decide) (by decide)
    (accepts_memory rfl) rfl delivers (by decide) rfl missing).2 complete

end Retouch.Upload
