import Retouch.Text.Basic
import Retouch.Text.Utf8

/-!
# Line ends in bytes

Bytes that are read as a text are the bytes of that text (`encode_of_decode?`), but a text with line
feeds only no longer tells which of its lines ended with a return. So it can be cut where it was cut
before (`exists_cut`), and its parts written back are the bytes they came from just when there was no
return in them (`encode_unified_iff`).
-/

namespace Retouch

/-! ### Bytes of a text -/

namespace Utf8

@[simp] theorem encode_nil : encode [] = [] := rfl

@[simp] theorem encode_cons (c : Char) (t : Text) : encode (c :: t) = encodeChar c ++ encode t :=
  List.flatMap_cons

@[simp] theorem encode_append (t u : Text) : encode (t ++ u) = encode t ++ encode u := List.flatMap_append

/-- Bytes are cut into pieces that hold all of them, none of which is empty. -/
theorem flatten_pieces (bytes : List UInt8) :
    (pieces bytes).flatten = bytes ∧ ∀ piece ∈ pieces bytes, piece ≠ [] := by
  induction bytes with
  | nil => exact ⟨rfl, List.forall_mem_nil _⟩
  | cons a rest ih =>
    obtain ⟨whole, filled⟩ := ih
    rw [pieces]
    cases cut : pieces rest with
    | nil =>
      rw [cut] at whole
      simp [← whole]
    | cons first more =>
      rw [cut] at whole filled
      cases first with
      | nil => exact absurd rfl (filled [] (List.mem_cons_self ..))
      | cons b piece =>
        dsimp only
        have later := (List.forall_mem_cons.mp filled).2
        split
        · exact ⟨by rw [← whole]; rfl, List.forall_mem_cons.mpr ⟨List.cons_ne_nil _ _, later⟩⟩
        · exact ⟨by rw [← whole]; rfl, List.forall_mem_cons.mpr ⟨List.cons_ne_nil _ _, filled⟩⟩

/-- Bytes that are read as a text are the bytes of the text. -/
theorem encode_of_decode? {bytes : List UInt8} {t : Text} (read : decode? bytes = some t) :
    encode t = bytes := by
  have each : ∀ {pieces : List (List UInt8)} {t : Text}, pieces.mapM charOf? = some t →
      encode t = pieces.flatten := by
    intro pieces
    induction pieces with
    | nil =>
      rintro t read
      cases read
      rfl
    | cons piece more ih =>
      intro t read
      rw [List.mapM_cons] at read
      obtain ⟨c, first, read⟩ := Option.bind_eq_some_iff.mp read
      obtain ⟨rest, later, eq⟩ := Option.bind_eq_some_iff.mp read
      cases eq
      rw [encode_cons, encodeChar_of_charOf? first, ih later, List.flatten_cons]
  rw [each read, (flatten_pieces bytes).1]

/-- The byte of a return is in no other character. -/
theorem return_mem_encodeChar (c : Char) : 0x0D ∈ encodeChar c ↔ c = '\r' := by
  have code : c = '\r' ↔ c.toNat = 0x0D := Char.toNat_inj.symm
  have byte : ∀ n < 256, (0x0D : UInt8) = UInt8.ofNat n ↔ n = 0x0D := fun n small => by
    rw [← UInt8.toNat_inj, UInt8.toNat_ofNat_of_lt' small, eq_comm]
    rfl
  have small : c.toNat < 0x110000 := by
    obtain low | ⟨-, high⟩ := c.valid
    · exact Nat.lt_trans low (by decide)
    · exact high
  rw [code]
  unfold encodeChar tail
  dsimp only
  split
  · rw [List.mem_singleton, byte _ (by omega)]
  split
  · simp only [List.mem_cons, List.not_mem_nil, or_false]
    rw [byte _ (by omega), byte _ (by omega)]
    omega
  split
  · simp only [List.mem_cons, List.not_mem_nil, or_false]
    rw [byte _ (by omega), byte _ (by omega), byte _ (by omega)]
    omega
  · simp only [List.mem_cons, List.not_mem_nil, or_false]
    rw [byte _ (by omega), byte _ (by omega), byte _ (by omega), byte _ (by omega)]
    omega

theorem return_mem_encode (t : Text) : 0x0D ∈ encode t ↔ '\r' ∈ t := by
  rw [encode, List.mem_flatMap]
  constructor
  · rintro ⟨c, mem, byte⟩
    exact (return_mem_encodeChar c).mp byte ▸ mem
  · exact fun mem => ⟨_, mem, (return_mem_encodeChar _).mpr rfl⟩

end Utf8

/-! ### Line feeds for returns -/

namespace Text

open Utf8

/-- Where the text with line feeds is cut, the text that it was read from can be cut. -/
theorem exists_cut {t a b : Text} (cut : unifyBreaks t = a ++ b) :
    ∃ u v, t = u ++ v ∧ unifyBreaks u = a ∧ unifyBreaks v = b := by
  induction t using unifyBreaks.induct generalizing a with
  | case1 =>
    obtain ⟨rfl, rfl⟩ := List.append_eq_nil_iff.mp cut.symm
    exact ⟨[], [], rfl, rfl, rfl⟩
  | case2 rest ih =>
    cases a with
    | nil => exact ⟨[], _, rfl, rfl, cut⟩
    | cons c a =>
      rw [unifyBreaks, List.cons_append, List.cons.injEq] at cut
      obtain ⟨rfl, later⟩ := cut
      obtain ⟨u, v, rfl, rfl, rfl⟩ := ih later
      exact ⟨'\r' :: '\n' :: u, v, rfl, by rw [unifyBreaks], rfl⟩
  | case3 d rest single ih =>
    cases a with
    | nil => exact ⟨[], _, rfl, rfl, cut⟩
    | cons c a =>
      rw [unifyBreaks.eq_3 _ _ single, List.cons_append, List.cons.injEq] at cut
      obtain ⟨rfl, later⟩ := cut
      obtain ⟨u, v, rfl, rfl, rfl⟩ := ih later
      refine ⟨d :: u, v, rfl, unifyBreaks.eq_3 _ _ fun more feed eq => ?_, rfl⟩
      exact single (more ++ v) feed (by rw [eq, List.cons_append])

theorem return_notMem_unifyBreaks (t : Text) : '\r' ∉ unifyBreaks t := by
  induction t using unifyBreaks.induct with
  | case1 => exact List.not_mem_nil
  | case2 rest ih =>
    rw [unifyBreaks]
    exact fun mem => (List.mem_cons.mp mem).elim (by decide) ih
  | case3 c rest single ih =>
    rw [unifyBreaks.eq_3 _ _ single]
    refine fun mem => (List.mem_cons.mp mem).elim (fun eq => ?_) ih
    split at eq
    · exact absurd eq (by decide)
    · rename_i other
      exact other (beq_iff_eq.mpr eq.symm)

theorem eq_nil_of_unifyBreaks {t : Text} (none : unifyBreaks t = []) : t = [] := by
  unfold unifyBreaks at none
  split at none
  · rfl
  · cases none
  · cases none

/-- A text without returns has only line feeds. -/
theorem unifyBreaks_eq_self {t : Text} (none : '\r' ∉ t) : unifyBreaks t = t := by
  induction t using unifyBreaks.induct with
  | case1 => rfl
  | case2 => exact absurd (List.mem_cons_self ..) none
  | case3 c rest single ih =>
    obtain ⟨here, later⟩ := not_or.mp (mt List.mem_cons.mpr none)
    rw [unifyBreaks.eq_3 _ _ single, if_neg (by simpa using Ne.symm here), ih later]

/-- Line feeds for returns make no text longer. -/
theorem length_encode_unifyBreaks (t : Text) :
    (encode (unifyBreaks t)).length ≤ (encode t).length := by
  induction t using unifyBreaks.induct with
  | case1 => exact Nat.le_refl _
  | case2 rest ih =>
    have feed : (encodeChar '\n').length = 1 := rfl
    rw [unifyBreaks]
    simp only [encode_cons, List.length_append]
    omega
  | case3 c rest single ih =>
    rw [unifyBreaks.eq_3 _ _ single]
    simp only [encode_cons, List.length_append]
    split
    · rename_i feed
      rw [eq_of_beq feed]
      exact Nat.add_le_add (Nat.le_refl 1) ih
    · exact Nat.add_le_add_left ih _

/-- A text read with line feeds is written as the bytes it came from if there was no return in it. -/
theorem encode_unifyBreaks_iff (t : Text) : encode (unifyBreaks t) = encode t ↔ '\r' ∉ t := by
  refine ⟨fun same mem => ?_, fun none => by rw [unifyBreaks_eq_self none]⟩
  rw [← return_mem_encode, ← same, return_mem_encode] at mem
  exact return_notMem_unifyBreaks t mem

/-- **Bytes around a span**: what is written around a new span is what stood there if there was no
return in it. -/
theorem encode_unified_iff (before new behind : Text) :
    encode (unifyBreaks before ++ new ++ unifyBreaks behind) =
        encode before ++ encode new ++ encode behind ↔ '\r' ∉ before ++ behind := by
  rw [encode_append, encode_append, List.mem_append, not_or, ← encode_unifyBreaks_iff,
    ← encode_unifyBreaks_iff]
  refine ⟨fun same => ?_, fun ⟨first, last⟩ => by rw [first, last]⟩
  -- neither part grows, so both keep their length
  have lengths := congrArg List.length same
  simp only [List.length_append] at lengths
  have first := length_encode_unifyBreaks before
  have last := length_encode_unifyBreaks behind
  obtain ⟨around, last⟩ := List.append_inj same (by simp only [List.length_append]; omega)
  exact ⟨(List.append_inj around (by omega)).1, last⟩

end Text

end Retouch
