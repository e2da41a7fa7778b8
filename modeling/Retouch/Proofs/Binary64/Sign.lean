import Retouch.Decimal.Numeral
import Retouch.Proofs.Binary64.Units
import Retouch.Proofs.Json.Number

/-!
# Floating-point numbers without a minus sign

Products, quotients and decimal numerals without a minus sign have none (`IsUnsigned`), so neither has a
number that is not negative after it was multiplied and rounded to some places; its whole part is a
natural number (`truncate?_nonneg`).
-/

namespace Retouch.Binary64

open Float.Model.UnpackedFloat Decimal
open Float.Model (UnpackedFloat Format)

/-- A finite number other than zero is positive. -/
def IsUnsigned : UnpackedFloat → Prop
  | .finite s _ _ _ => s = .positive
  | _ => True

instance (u : UnpackedFloat) : Decidable (IsUnsigned u) :=
  match u with
  | .finite .positive _ _ _ => isTrue rfl
  | .finite .negative _ _ _ => isFalse nofun
  | .notANumber => isTrue trivial
  | .infinity _ => isTrue trivial
  | .zero _ => isTrue trivial

/-- A floating-point number that is finite and not zero is positive. -/
def Unsigned (x : Float) : Prop := IsUnsigned x.toModel.unpack

instance (x : Float) : Decidable (Unsigned x) := inferInstanceAs (Decidable (IsUnsigned _))

variable {u v : UnpackedFloat} {x y : Float}

theorem IsUnsigned.ite {c : Prop} [Decidable c] (yes : IsUnsigned u) (no : IsUnsigned v) :
    IsUnsigned (if c then u else v) := by
  split
  · exact yes
  · exact no

theorem IsUnsigned.dite {c : Prop} [Decidable c] {yes : c → UnpackedFloat} {no : ¬c → UnpackedFloat}
    (ifYes : ∀ h, IsUnsigned (yes h)) (ifNo : ∀ h, IsUnsigned (no h)) : IsUnsigned (dite c yes no) := by
  split
  · exact ifYes _
  · exact ifNo _

theorem isUnsigned_roundWithAccuracy (m : Nat) (e : Int) (a : Accuracy) :
    IsUnsigned (roundWithAccuracy .binary64 .positive m e a) := by
  unfold roundWithAccuracy
  exact .dite (fun _ => trivial) fun _ => rfl

theorem IsUnsigned.mul (left : IsUnsigned u) (right : IsUnsigned v) :
    IsUnsigned (UnpackedFloat.mul .binary64 u v) := by
  unfold UnpackedFloat.mul
  split
  case h_11 =>
    rw [show _ = Sign.positive from left, show _ = Sign.positive from right]
    exact isUnsigned_roundWithAccuracy _ _ _
  all_goals exact trivial

theorem IsUnsigned.div (left : IsUnsigned u) (right : IsUnsigned v) :
    IsUnsigned (UnpackedFloat.div .binary64 u v) := by
  unfold UnpackedFloat.div
  split
  case h_11 =>
    rw [show _ = Sign.positive from left, show _ = Sign.positive from right]
    split
    exact isUnsigned_roundWithAccuracy _ _ _
  all_goals exact trivial

theorem isUnsigned_ofScientific (m : Nat) (e : Int) :
    IsUnsigned (UnpackedFloat.ofScientific .binary64 m e) := by
  unfold UnpackedFloat.ofScientific
  exact .dite (fun _ => trivial) fun _ => .ite trivial (.ite trivial (.ite (.mul rfl rfl) (.div rfl rfl)))

/-- The sign of a bit pattern is that of its number. -/
theorem isUnsigned_unpack {b : BitVec 64} (sign : Sign.ofBitVec (@unpackSign .binary64 b) = .positive) :
    IsUnsigned (UnpackedFloat.unpack .binary64 b) := by
  unfold UnpackedFloat.unpack
  exact .ite (.ite trivial trivial) (.ite (.dite (fun _ => trivial) fun _ => sign) sign)

/-- Packing keeps the sign. -/
theorem IsUnsigned.unpack_pack (unsigned : IsUnsigned u) :
    IsUnsigned (UnpackedFloat.unpack .binary64 (UnpackedFloat.pack .binary64 u)) := by
  cases u with
  | notANumber => exact trivial
  | infinity s => rw [unpack_pack_infinity]; exact trivial
  | zero s => cases s <;> exact trivial
  | finite s m e pos =>
    obtain rfl : s = .positive := unsigned
    refine isUnsigned_unpack ?_
    unfold UnpackedFloat.pack
    dsimp only
    split
    · exact unpackSign_packComponents
    split
    · exact unpackSign_packComponents
    · exact unpackSign_packComponents

theorem isUnsigned_ofNat (n : Nat) : IsUnsigned (UnpackedFloat.ofNat .binary64 n) := by
  unfold UnpackedFloat.ofNat UnpackedFloat.ofInt UnpackedFloat.normalize
  split
  · rename_i negative
    rw [Int.compare_eq_lt] at negative
    omega
  · exact trivial
  · unfold UnpackedFloat.round
    exact isUnsigned_roundWithAccuracy _ _ _

theorem Unsigned.mul (left : Unsigned x) (right : Unsigned y) : Unsigned (x * y) :=
  (IsUnsigned.mul left right).unpack_pack

theorem Unsigned.div (left : Unsigned x) (right : Unsigned y) : Unsigned (x / y) :=
  (IsUnsigned.div left right).unpack_pack

/-- The numbers that conversions start from have no minus sign. -/
theorem unsigned_constants : (∀ y ∈ Float.exactlyRepresentablePowersOfTen, Unsigned y) ∧
    ∀ y ∈ [(0 : Float), 1.0 / 0.0, -0], Unsigned y := by
  decide

theorem unsigned_ofScientific (m : Nat) (s : Bool) (e : Nat) : Unsigned (Float.ofScientific m s e) := by
  unfold Float.ofScientific
  split
  · rename_i small
    have power : ∀ e (h : e < Float.exactlyRepresentablePowersOfTen.size),
        Unsigned Float.exactlyRepresentablePowersOfTen[e] := fun e h =>
      unsigned_constants.1 _ (Array.getElem_mem h)
    have whole : Unsigned m.toUInt64.toFloat := (isUnsigned_ofNat _).unpack_pack
    dsimp only
    split
    · exact whole.div (power _ _)
    · exact whole.mul (power _ _)
  · exact (isUnsigned_ofScientific _ _).unpack_pack

theorem unsigned_ofNat (n : Nat) : Unsigned (Float.ofNat n) := unsigned_ofScientific n false 0

/-- A numeral without a minus sign is read as a number without one. -/
theorem unsigned_toFloat (d : Nat) (e : Int) : Unsigned (Numeral.toFloat ⟨false, d, e⟩) := by
  rw [Numeral.toFloat, if_neg Bool.false_ne_true]
  dsimp only
  split
  · exact unsigned_constants.2 _ (by simp)
  split
  · exact unsigned_constants.2 _ (by simp)
  split
  · exact unsigned_ofScientific ..
  · exact unsigned_ofScientific ..

/-- A number that is not negative has no minus sign, unless it is zero. -/
theorem unsigned_of_nonneg (nonneg : 0 ≤ x) : Unsigned x := by
  obtain ⟨z, y, zero, value, le⟩ :=
    (le_iff (isCanonical_unpack _) (isCanonical_unpack _)).mp (of_decide_eq_true nonneg)
  cases zero
  unfold Unsigned
  cases number : x.toModel.unpack with
  | finite s m e pos =>
    cases s with
    | positive => rfl
    | negative =>
      have units : units x.toModel.unpack = some y := value
      rw [number] at units
      cases units
      have : 0 < magnitude m e := Nat.mul_pos pos (Nat.two_pow_pos _)
      simp only [Sign.apply] at le
      omega
  | _ => exact trivial

/-! ### Parts -/

/-- The exponent of a bit pattern is zero. -/
theorem exponent_zero_iff (b : BitVec 64) :
    @unpackExponent .binary64 b = 0#11 ↔ b.toNat / Nat.pow 2 52 % Nat.pow 2 11 = 0 := by
  rw [BitVec.toNat_eq]
  unfold unpackExponent
  rw [BitVec.toNat_cast, BitVec.extractLsb_toNat, Nat.shiftRight_eq_div_pow]
  exact Iff.rfl

/-- The first bit of a pattern is the sign. -/
theorem sign_of_first {b : BitVec 64} (first : b.toNat / Nat.pow 2 63 = 1) :
    Sign.ofBitVec (@unpackSign .binary64 b) = .negative := by
  have one : (@unpackSign .binary64 b).toNat = 1 := by
    unfold unpackSign
    rw [BitVec.toNat_cast, BitVec.extractLsb_toNat, Nat.shiftRight_eq_div_pow]
    show b.toNat / 2 ^ 63 % 2 ^ 1 = 1
    have : b.toNat / 2 ^ 63 = 1 := first
    rw [this]
  unfold Sign.ofBitVec
  rw [if_neg fun zero => by rw [zero] at one; exact absurd one (by decide)]

/-- A finite number with a minus sign is zero if it is to have none. -/
theorem mantissa_of_unsigned {m : Nat} {q : Int} (unsigned : Unsigned x)
    (parts : Parts.of x = .finite true m q) : m = 0 := by
  unfold Unsigned Float.Model.unpack UnpackedFloat.unpack at unsigned
  have bits : x.toBits.toNat = x.toModel.toBits.toBitVec.toNat := rfl
  unfold Parts.of Parts.ofBits at parts
  rw [bits] at parts
  generalize x.toModel.toBits.toBitVec = b at *
  dsimp only at unsigned parts
  split at parts
  · split at parts <;> cases parts
  rename_i ones
  rw [if_neg (mt (exponent_ones_iff b).mp (by simpa using ones))] at unsigned
  split at parts
  · rename_i zero
    rw [if_pos ((exponent_zero_iff b).mpr (eq_of_beq zero))] at unsigned
    simp only [Parts.finite.injEq, beq_iff_eq] at parts
    obtain ⟨first, rfl, -⟩ := parts
    by_contra nonzero
    rw [dif_neg (mt (fraction_zero_iff b).mp nonzero)] at unsigned
    cases (sign_of_first first).symm.trans unsigned
  · rename_i zero
    rw [if_neg (mt (exponent_zero_iff b).mp (by simpa using zero))] at unsigned
    simp only [Parts.finite.injEq, beq_iff_eq] at parts
    cases (sign_of_first parts.1).symm.trans unsigned

theorem scaled_zero (q : Int) : (Ratio.scaled 0 2 q).num = 0 := by
  unfold Ratio.scaled
  split
  · rfl
  · exact Nat.zero_mul _

/-- The whole part of a number without a minus sign is a natural number. -/
theorem truncate?_nonneg {n : Int} (unsigned : Unsigned x) (whole : (Parts.of x).truncate? = some n) :
    0 ≤ n := by
  unfold Parts.truncate? at whole
  split at whole
  · rename_i negative m q parts
    cases negative with
    | false =>
      cases whole
      exact Int.natCast_nonneg _
    | true =>
      obtain rfl := mantissa_of_unsigned unsigned parts
      rw [scaled_zero] at whole
      cases whole
      simp
  · cases whole

/-- Rounding to places brings in no minus sign. -/
theorem Unsigned.roundPlaces (unsigned : Unsigned x) (places : Nat) :
    Unsigned (Decimal.roundPlaces places x) := by
  unfold Decimal.roundPlaces
  split
  · rename_i negative m q parts
    cases negative with
    | false => exact unsigned_toFloat _ _
    | true =>
      obtain rfl := mantissa_of_unsigned unsigned parts
      have nothing : ((Ratio.scaled 0 2 q).unscale (-(places : Int))).round = 0 := by
        unfold Ratio.round Ratio.unscale
        split <;> simp [scaled_zero]
      rw [nothing]
      exact unsigned_constants.2 (-0) (by simp)
  · exact unsigned

end Retouch.Binary64
