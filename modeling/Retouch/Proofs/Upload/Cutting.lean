import Mathlib.Algebra.BigOperators.Group.List.Basic
import Retouch.Base64
import Retouch.Host.Upload
import Retouch.Proofs.Text
import Retouch.Upload.Asset

/-!
# Bytes cut into pieces

In base 64, bytes are cut into numbers below sixty-four, each of which has a character of its own, and the
last group of four is filled up with equals signs. Read back, the characters give the numbers, and the
numbers the bytes (`decode?_encode`).

An upload is sent as its text in base 64, cut into pieces that are put together again in their order
(`IsCut`). The text has no blank and no colon in it, so that what is taken for a blank or for the head of
a data address in other payloads is never found here, and it decodes to the bytes
(`decode?_join`). A text is never cut into more pieces than its length admits (`IsCut.needed`), and it is
cut rightly by a host, whatever the length of a piece (`isCut_pieces?`).
-/

namespace Retouch

open Text

namespace Base64

/-! ### Numbers and their characters -/

/-- The character for a number below sixty-four gives the number back. -/
theorem value?_symbol {n : Nat} (small : n < 64) : value? (symbol n) = some n := by
  have all : ∀ n : Fin 64, value? (symbol n) = some n.val := by decide
  exact all ⟨n, small⟩

/-- No number has an equals sign for its character. -/
theorem symbol_ne_pad {n : Nat} (small : n < 64) : symbol n ≠ '=' := by
  intro pad
  have value := value?_symbol small
  rw [pad] at value
  cases value

/-- The characters for numbers below sixty-four give the numbers back. -/
theorem mapM_value?_symbol {numbers : List Nat} (small : ∀ n ∈ numbers, n < 64) :
    (numbers.map symbol).mapM value? = some numbers := by
  induction numbers with
  | nil => rfl
  | cons n rest ih =>
    obtain ⟨first, rest⟩ := List.forall_mem_cons.mp small
    simp [value?_symbol first, ih rest]

/-! ### Bytes and their numbers -/

/-- The numbers below sixty-four that bytes are cut into. -/
def sextets : List UInt8 → List Nat
  | [] => []
  | [a] => [a.toNat * 16 / 64, a.toNat * 16 % 64]
  | [a, b] =>
    let n := (a.toNat * 256 + b.toNat) * 4
    [n / 4096, n / 64 % 64, n % 64]
  | a :: b :: c :: rest =>
    let n := (a.toNat * 256 + b.toNat) * 256 + c.toNat
    n / 262144 :: n / 4096 % 64 :: n / 64 % 64 :: n % 64 :: sextets rest

/-- How many equals signs fill up the last group. -/
def padding : List UInt8 → Nat
  | [] => 0
  | [_] => 2
  | [_, _] => 1
  | _ :: _ :: _ :: rest => padding rest

/-- Bytes as text are the characters of their numbers, filled up. -/
theorem encode_eq (bytes : List UInt8) :
    encode bytes = (sextets bytes).map symbol ++ List.replicate (padding bytes) '=' := by
  fun_induction encode bytes with
  | case1 | case2 | case3 => rfl
  | case4 a b c rest n ih => simp [sextets, padding, ih, n]

theorem sextets_lt (bytes : List UInt8) : ∀ n ∈ sextets bytes, n < 64 := by
  fun_induction sextets bytes with
  | case1 => simp
  | case2 a =>
    have := a.toNat_lt
    simp
    omega
  | case3 a b n =>
    have := a.toNat_lt
    have := b.toNat_lt
    simp
    omega
  | case4 a b c rest n ih =>
    have := a.toNat_lt
    have := b.toNat_lt
    have := c.toNat_lt
    simp only [List.mem_cons, forall_eq_or_imp]
    exact ⟨by omega, by omega, by omega, by omega, ih⟩

/-- Three bytes are back from their four numbers. -/
theorem bytesOf_sextets (bytes : List UInt8) : bytesOf (sextets bytes) = bytes := by
  fun_induction sextets bytes with
  | case1 => rfl
  | case2 a =>
    have := a.toNat_lt
    simp only [bytesOf]
    rw [show (a.toNat * 16 / 64 * 64 + a.toNat * 16 % 64) / 16 = a.toNat by omega, UInt8.ofNat_toNat]
  | case3 a b n =>
    have := a.toNat_lt
    have := b.toNat_lt
    simp only [bytesOf]
    rw [show ((n / 4096 * 64 + n / 64 % 64) * 64 + n % 64) = n by omega,
      show n / 1024 = a.toNat by omega, show n / 4 % 256 = b.toNat by omega]
    simp
  | case4 a b c rest n ih =>
    have := a.toNat_lt
    have := b.toNat_lt
    have := c.toNat_lt
    simp only [bytesOf, ih]
    rw [show (((n / 262144 * 64 + n / 4096 % 64) * 64 + n / 64 % 64) * 64 + n % 64) = n by omega,
      show n / 65536 = a.toNat by omega, show n / 256 % 256 = b.toNat by omega,
      show n % 256 = c.toNat by omega]
    simp

/-- The last group is filled up exactly. -/
theorem fits_sextets (bytes : List UInt8) : fits (sextets bytes).length (padding bytes) = true := by
  fun_induction sextets bytes with
  | case1 | case2 | case3 => rfl
  | case4 a b c rest n ih =>
    simp only [List.length_cons, padding]
    unfold fits at ih ⊢
    rw [show (sextets rest).length + 1 + 1 + 1 + 1 = (sextets rest).length + 4 by omega,
      Nat.add_mod_right]
    split <;> simp_all

/-- The length of bytes as text. -/
theorem length_encode (bytes : List UInt8) : (encode bytes).length = 4 * ((bytes.length + 2) / 3) := by
  fun_induction encode bytes with
  | case1 | case2 | case3 => simp
  | case4 a b c rest n ih =>
    simp only [List.length_cons, ih]
    omega

/-- **Base 64 goes back.** -/
theorem decode?_encode (bytes : List UInt8) : decode? (encode bytes) = some bytes := by
  have data : (encode bytes).takeWhile (· != '=') = (sextets bytes).map symbol := by
    rw [encode_eq, List.takeWhile_append_of_pos]
    · cases padding bytes <;> simp [List.replicate_succ]
    · simp only [List.mem_map, forall_exists_index, and_imp, forall_apply_eq_imp_iff₂]
      exact fun n mem => by simpa using symbol_ne_pad (sextets_lt bytes n mem)
  have pads : (encode bytes).drop ((sextets bytes).map symbol).length =
      List.replicate (padding bytes) '=' := by
    rw [encode_eq, List.drop_left]
  unfold decode?
  dsimp only
  rw [data, pads, mapM_value?_symbol (sextets_lt bytes)]
  simp [fits_sextets, bytesOf_sextets]

/-! ### Characters of base 64 -/

/-- Every character of base 64 satisfies what the characters of all numbers and the equals sign do. -/
theorem forall_mem_encode {P : Char → Prop} (symbols : ∀ n < 64, P (symbol n)) (pad : P '=')
    (bytes : List UInt8) : ∀ c ∈ encode bytes, P c := by
  rw [encode_eq]
  intro c mem
  rcases List.mem_append.mp mem with number | filler
  · obtain ⟨n, cut, rfl⟩ := List.mem_map.mp number
    exact symbols n (sextets_lt bytes n cut)
  · rw [List.eq_of_mem_replicate filler]
    exact pad

/-- There are no blanks in base 64. -/
theorem isBlank_of_mem_encode {bytes : List UInt8} {c : Char} (mem : c ∈ encode bytes) :
    isBlank c = false := by
  refine forall_mem_encode (P := fun c => isBlank c = false) ?_ ?_ bytes c mem <;> decide

/-- There are no colons in base 64. -/
theorem ne_colon_of_mem_encode {bytes : List UInt8} {c : Char} (mem : c ∈ encode bytes) : c ≠ ':' := by
  refine forall_mem_encode (P := fun c => c ≠ ':') ?_ ?_ bytes c mem <;> decide

end Base64

namespace Upload

/-! ### Pieces -/

/-- The text of bytes in base 64, cut into pieces: put together they are the text, and none of them is
empty; for no bytes there is one piece, which is. -/
structure IsCut (data : List UInt8) (pieces : List String) : Prop where
  /-- The pieces are put together to the text. -/
  joined : String.join pieces = String.ofList (Base64.encode data)
  /-- No piece is empty, unless it is the only one. -/
  filled : (∀ piece ∈ pieces, piece ≠ "") ∨ pieces = [""]
  /-- There is a piece. -/
  some : pieces ≠ []

/-- **Pieces put together decode to the bytes.** -/
theorem decode?_join {data : List UInt8} {pieces : List String} (cut : IsCut data pieces) :
    decode? (String.join pieces) = some data := by
  have head : afterHead? (Base64.encode data) = none := by
    unfold afterHead?
    cases dropped : dropHead? "data:".toList (Base64.encode data) with
    | none => rfl
    | some rest =>
      have colon : ':' ∈ Base64.encode data := by
        rw [dropHead?_eq_some dropped]
        exact List.mem_append_left _ (by decide)
      exact absurd rfl (Base64.ne_colon_of_mem_encode colon)
  unfold decode?
  dsimp only
  rw [cut.joined, String.toList_ofList, strip_eq_self fun c mem => Base64.isBlank_of_mem_encode mem, head]
  exact Base64.decode?_encode data

/-- There are no more pieces than characters, unless the only piece is empty. -/
theorem IsCut.length_le {data : List UInt8} {pieces : List String} (cut : IsCut data pieces)
    (some : data ≠ []) : pieces.length ≤ (Base64.encode data).length := by
  have characters : (pieces.map String.length).sum = (Base64.encode data).length := by
    rw [← String.length_join, cut.joined, String.length_ofList]
  rcases cut.filled with filled | rfl
  · rw [← characters]
    refine le_of_eq_of_le (List.length_map _).symm (List.length_le_sum_of_one_le _ ?_)
    intro n length
    obtain ⟨piece, mem, rfl⟩ := List.mem_map.mp length
    rw [Nat.one_le_iff_ne_zero, Ne, String.length_eq_zero_iff]
    exact filled piece mem
  · have bytes : 0 < data.length := List.length_pos_iff.mpr some
    rw [Base64.length_encode]
    simp
    omega

/-- **There are no more pieces than the size of the bytes needs.** -/
theorem IsCut.needed {data : List UInt8} {pieces : List String} (cut : IsCut data pieces) {size : Int}
    (told : size = 0 ∨ size = data.length) (positive : 0 < size) :
    (pieces.length : Int) ≤ maxPieces size := by
  obtain rfl | rfl := told
  · exact absurd positive (by decide)
  · have within := cut.length_le (by rintro rfl; simp at positive)
    rw [Base64.length_encode] at within
    unfold maxPieces headAllowance
    rw [Int.fdiv_eq_ediv_of_nonneg _ (by decide)]
    omega

/-! ### Pieces of one length -/

/-- Pieces of one length, put together, are the text. -/
theorem flatten_piecesWithin {size n : Nat} {t : Text} (positive : 0 < size) (enough : t.length ≤ n) :
    (Host.piecesWithin size n t).flatten = t := by
  induction n generalizing t with
  | zero =>
    rw [List.length_eq_zero_iff.mp (Nat.le_zero.mp enough)]
    rfl
  | succ n ih =>
    cases t with
    | nil => rfl
    | cons c rest =>
      simp only [Host.piecesWithin, List.flatten_cons]
      rw [ih, List.take_append_drop]
      simp only [List.length_drop, List.length_cons] at enough ⊢
      omega

/-- No piece is empty. -/
theorem ne_nil_of_mem_piecesWithin {size n : Nat} {t piece : Text} (positive : 0 < size)
    (mem : piece ∈ Host.piecesWithin size n t) : piece ≠ [] := by
  induction n generalizing t with
  | zero => cases mem
  | succ n ih =>
    cases t with
    | nil => cases mem
    | cons c rest =>
      obtain rfl | mem := List.mem_cons.mp mem
      · simp; omega
      · exact ih mem

/-- **A host cuts rightly**, whatever the length of a piece. -/
theorem isCut_pieces? (data : List UInt8) {size : Int} (positive : 1 ≤ size) :
    ∃ pieces, Host.pieces? size (Base64.encode data) = some pieces ∧
      IsCut data (pieces.map String.ofList) := by
  unfold Host.pieces?
  rw [if_neg (by simp; omega)]
  refine ⟨_, rfl, ?_⟩
  rw [if_neg (show ¬ size < 0 by omega)]
  have length : 0 < size.toNat := by omega
  have flat := flatten_piecesWithin length (Nat.le_refl (Base64.encode data).length)
  have filled : ∀ piece ∈ Host.piecesWithin size.toNat (Base64.encode data).length (Base64.encode data),
      piece ≠ [] := fun _ mem => ne_nil_of_mem_piecesWithin length mem
  generalize Host.piecesWithin size.toNat (Base64.encode data).length (Base64.encode data) = pieces
    at flat filled
  have joined : ∀ pieces : List Text,
      String.join (pieces.map String.ofList) = String.ofList pieces.flatten := by
    intro pieces
    rw [← String.toList_inj, String.toList_join]
    simp [List.flatMap_map, List.flatMap_id']
  cases pieces with
  | nil => exact ⟨by rw [← flat]; rfl, Or.inr rfl, List.cons_ne_nil _ _⟩
  | cons piece rest =>
    refine ⟨by rw [← flat]; exact joined _, Or.inl ?_, List.cons_ne_nil _ _⟩
    intro s is
    obtain ⟨piece, mem, rfl⟩ := List.mem_map.mp is
    exact fun empty => filled piece mem (by simpa using empty)

end Upload

end Retouch
