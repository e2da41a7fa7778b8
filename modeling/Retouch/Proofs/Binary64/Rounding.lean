import Mathlib.Tactic.Positivity
import Retouch.Proofs.Binary64.Units

/-!
# The closest floating-point number

A number is rounded to the closest one whose mantissa has 53 bits. The bits that are cut off are kept as
two, which is all that rounding has to know of them; read as one number with the mantissa they keep the
order (`code_shiftRightOne_le`), so that rounding does (`nearest_le`).

The difference of two finite numbers has the closest number of units to the difference of theirs
(`units_difference`). It follows that what is less is not larger less a third number
(`lt_sub_of_le`): time that has been too long at one moment is so at every later one.
-/

namespace Retouch.Binary64

open Float.Model.UnpackedFloat
open Float.Model (UnpackedFloat Format totalExponent)

/-! ### Cutting off bits -/

/-- A mantissa and the two bits that stand for the rest, as one number. -/
def code (a : ExtendedMantissa) : Nat := 4 * a.mantissa + 2 * a.roundBit.toNat + a.stickyBit.toNat

variable {a b : ExtendedMantissa}

/-- Shifting keeps the order. -/
theorem code_shiftRightOne_le (le : code a ≤ code b) : code a.shiftRightOne ≤ code b.shiftRightOne := by
  have shifted : ∀ a : ExtendedMantissa,
      code a.shiftRightOne = 2 * a.mantissa + (a.roundBit || a.stickyBit).toNat := by
    intro a
    obtain odd | even : a.mantissa % 2 = 1 ∨ a.mantissa % 2 = 0 := by omega
    all_goals simp [code, ExtendedMantissa.shiftRightOne, *]; omega
  rw [shifted, shifted]
  obtain ⟨m, r, s⟩ := a
  obtain ⟨n, t, u⟩ := b
  cases r <;> cases s <;> cases t <;> cases u <;> simp [code] at le ⊢ <;> omega

/-- Rounding keeps the order. -/
theorem roundedMantissa_le (le : code a ≤ code b) : a.roundedMantissa ≤ b.roundedMantissa := by
  obtain ⟨m, r, s⟩ := a
  obtain ⟨n, t, u⟩ := b
  cases r <;> cases s <;> cases t <;> cases u <;>
    simp [code, ExtendedMantissa.roundedMantissa, ExtendedMantissa.accuracy,
      Accuracy.roundToNearestEven] at le ⊢ <;> omega

/-- Rounding adds one at most. -/
theorem roundedMantissa_bounds (a : ExtendedMantissa) :
    a.mantissa ≤ a.roundedMantissa ∧ a.roundedMantissa ≤ a.mantissa + 1 := by
  obtain ⟨m, r, s⟩ := a
  cases r <;> cases s <;>
    simp [ExtendedMantissa.roundedMantissa, ExtendedMantissa.accuracy, Accuracy.roundToNearestEven]
  omega

/-- A number without its last bits. -/
def cutOff (k m : Nat) : ExtendedMantissa := k.repeat ExtendedMantissa.shiftRightOne ⟨m, false, false⟩

variable {k m n : Nat} {e : Int}

theorem cutOff_zero (m : Nat) : cutOff 0 m = ⟨m, false, false⟩ := rfl

theorem cutOff_succ (k m : Nat) : cutOff (k + 1) m = (cutOff k m).shiftRightOne := rfl

theorem code_cutOff_le (k : Nat) (le : m ≤ n) : code (cutOff k m) ≤ code (cutOff k n) := by
  induction k with
  | zero =>
    simp only [code, cutOff_zero]
    omega
  | succ k ih => exact code_shiftRightOne_le ih

theorem mantissa_cutOff (k m : Nat) : (cutOff k m).mantissa = m / 2 ^ k := by
  induction k with
  | zero => simp [cutOff_zero]
  | succ k ih =>
    show (cutOff k m).mantissa / 2 = _
    rw [ih, Nat.div_div_eq_div_mul, Nat.pow_succ]

/-- Cutting off zeros loses nothing. -/
theorem cutOff_zeros (k m : Nat) : cutOff k (m * 2 ^ k) = ⟨m, false, false⟩ := by
  induction k generalizing m with
  | zero => simp [cutOff_zero]
  | succ k ih =>
    rw [cutOff_succ, show m * 2 ^ (k + 1) = 2 * m * 2 ^ k by ring, ih]
    simp [ExtendedMantissa.shiftRightOne]

theorem cutOff_add (k l m : Nat) : cutOff (k + l) (m * 2 ^ l) = cutOff k m := by
  induction k with
  | zero => rw [Nat.zero_add, cutOff_zeros, cutOff_zero]
  | succ k ih => rw [show k + 1 + l = k + l + 1 by omega, cutOff_succ, cutOff_succ, ih]

/-- A number that is left with 53 bits at most stays below the next power of two, and what is left is at
most that power after rounding. -/
theorem roundedMantissa_cutOff_le (few : m.log2 ≤ 52 + k) : (cutOff k m).roundedMantissa ≤ 2 ^ 53 := by
  refine (roundedMantissa_bounds _).2.trans ?_
  rw [mantissa_cutOff]
  refine Nat.succ_le_of_lt ((Nat.div_lt_iff_lt_mul (Nat.two_pow_pos k)).mpr ?_)
  rw [← pow_add]
  exact lt_of_lt_of_le Nat.lt_log2_self (Nat.pow_le_pow_right (by decide) (by omega))

/-- A number that is left with 53 bits has as many after rounding. -/
theorem le_roundedMantissa_cutOff (nonzero : m ≠ 0) (full : 52 + k = m.log2) :
    2 ^ 52 ≤ (cutOff k m).roundedMantissa := by
  refine le_trans ?_ (roundedMantissa_bounds _).1
  rw [mantissa_cutOff, Nat.le_div_iff_mul_le (Nat.two_pow_pos k), ← pow_add, full]
  exact Nat.log2_self_le nonzero

/-! ### The closest number -/

theorem log2_mul_two_pow (nonzero : m ≠ 0) (k : Nat) : (m * 2 ^ k).log2 = m.log2 + k := by
  obtain ⟨lower, upper⟩ := (Nat.log2_eq_iff nonzero).mp rfl
  refine (Nat.log2_eq_iff (by positivity)).mpr ⟨?_, ?_⟩
  · rw [pow_add]
    exact Nat.mul_le_mul_right _ lower
  · rw [Nat.add_right_comm, pow_add]
    exact Nat.mul_lt_mul_of_pos_right upper (Nat.two_pow_pos k)

/-- The closest number that has 53 bits and then zeros. -/
def nearest (n : Nat) : Nat := (cutOff (n.log2 - 52) n).roundedMantissa * 2 ^ (n.log2 - 52)

theorem nearest_zero : nearest 0 = 0 := rfl

/-- A rounded number is the closest one to itself. -/
theorem nearest_magnitude (rounded : IsRounded m e) : nearest (magnitude m e) = magnitude m e := by
  rcases Nat.eq_zero_or_pos m with rfl | nonzero
  · simp [magnitude, nearest_zero]
  obtain ⟨few, least, full⟩ := rounded
  have log := (Nat.log2_lt (by omega : m ≠ 0)).mpr few
  have excess : (magnitude m e).log2 - 52 = (e + 1074).toNat := by
    rw [magnitude, log2_mul_two_pow (by omega)]
    rcases full with full | rfl
    · have := (Nat.le_log2 (by omega : m ≠ 0)).mpr full
      omega
    · omega
  rw [nearest, excess, magnitude, cutOff_zeros]
  rfl

/-- **Rounding keeps the order.** -/
theorem nearest_le (le : m ≤ n) : nearest m ≤ nearest n := by
  rcases Nat.eq_zero_or_pos m with rfl | nonzero
  · rw [nearest_zero]
    exact Nat.zero_le _
  have logs : m.log2 ≤ n.log2 := (Nat.le_log2 (by omega)).mpr (le_trans (Nat.log2_self_le (by omega)) le)
  unfold nearest
  by_cases same : m.log2 - 52 = n.log2 - 52
  · rw [same]
    exact Nat.mul_le_mul_right _ (roundedMantissa_le (code_cutOff_le _ le))
  · -- there is a power of two between them, which is rounded to itself
    calc (cutOff (m.log2 - 52) m).roundedMantissa * 2 ^ (m.log2 - 52) ≤ 2 ^ 53 * 2 ^ (m.log2 - 52) :=
          Nat.mul_le_mul_right _ (roundedMantissa_cutOff_le (by omega))
      _ ≤ 2 ^ 52 * 2 ^ (n.log2 - 52) := by
          rw [← pow_add, ← pow_add]
          exact Nat.pow_le_pow_right (by decide) (by omega)
      _ ≤ (cutOff (n.log2 - 52) n).roundedMantissa * 2 ^ (n.log2 - 52) :=
          Nat.mul_le_mul_right _ (le_roundedMantissa_cutOff (by omega) (by omega))

/-- The closest number, for numbers of both signs. -/
def nearestInt (x : Int) : Int := x.sign * nearest x.natAbs

theorem nearestInt_natCast (n : Nat) : nearestInt n = nearest n := by
  rcases Nat.eq_zero_or_pos n with rfl | nonzero
  · rfl
  · rw [nearestInt, Int.natAbs_natCast, Int.sign_natCast_of_ne_zero (by omega), one_mul]

theorem nearestInt_neg (x : Int) : nearestInt (-x) = -nearestInt x := by
  rw [nearestInt, nearestInt, Int.sign_neg, Int.natAbs_neg, neg_mul]

theorem nearestInt_apply (s : Sign) (n : Nat) : nearestInt (s.apply n) = s.apply (nearest n) := by
  cases s
  · exact (nearestInt_neg n).trans (congrArg _ (nearestInt_natCast n))
  · exact nearestInt_natCast n

theorem nearestInt_le {x y : Int} (le : x ≤ y) : nearestInt x ≤ nearestInt y := by
  rcases x.eq_nat_or_neg with ⟨m, rfl | rfl⟩ <;> rcases y.eq_nat_or_neg with ⟨n, rfl | rfl⟩
  · rw [nearestInt_natCast, nearestInt_natCast]
    exact_mod_cast nearest_le (by omega)
  · obtain ⟨rfl, rfl⟩ : m = 0 ∧ n = 0 := by omega
    rfl
  · rw [nearestInt_neg, nearestInt_natCast, nearestInt_natCast]
    omega
  · rw [nearestInt_neg, nearestInt_neg, nearestInt_natCast, nearestInt_natCast]
    have := nearest_le (show n ≤ m by omega)
    omega

/-! ### Rounding -/

/-- The exponent that a number is rounded to. -/
theorem targetExponent_eq (m : Nat) (e : Int) :
    Format.binary64.targetExponent (totalExponent m e) = max (m.log2 + e - 52) (-1074) := by
  have bits : Format.binary64.mantissaBits = 53 := rfl
  have least : Format.binary64.minExponent = -1074 := rfl
  unfold Format.targetExponent totalExponent
  rw [bits, least]
  omega

theorem shiftToTargetExponent_eq (m : Nat) (e : Int) :
    shiftToTargetExponent .binary64 m e .exact =
      (cutOff (max (m.log2 + e - 52) (-1074) - e).toNat m,
        e + (max (m.log2 + e - 52) (-1074) - e).toNat) := by
  unfold shiftToTargetExponent
  rw [targetExponent_eq]
  rfl

/-- A mantissa that rounding has carried to one bit more is shifted once more, and loses nothing. -/
theorem shift_carried (few : m ≤ 2 ^ 53) (least : -1074 ≤ e) (full : 2 ^ 52 ≤ m ∨ e = -1074) :
    ∃ n f, shiftToTargetExponent .binary64 m e .exact = (⟨n, false, false⟩, f) ∧
      IsRounded n f ∧ magnitude n f = magnitude m e := by
  rw [shiftToTargetExponent_eq]
  rcases Nat.lt_or_eq_of_le few with few | rfl
  · have log : m.log2 ≤ 52 := by
      rcases Nat.eq_zero_or_pos m with rfl | nonzero
      · decide
      · exact Nat.le_of_lt_succ ((Nat.log2_lt (by omega)).mpr few)
    have nowhere : (max ((m.log2 : Int) + e - 52) (-1074) - e).toNat = 0 := by omega
    rw [nowhere]
    exact ⟨m, e, by simp [cutOff_zero], ⟨few, least, full⟩, rfl⟩
  · have once : (max ((Nat.log2 (2 ^ 53) : Int) + e - 52) (-1074) - e).toNat = 1 := by
      rw [Nat.log2_two_pow]
      omega
    rw [once]
    refine ⟨2 ^ 52, e + 1, ?_, ⟨by decide, by omega, Or.inl (Nat.le_refl _)⟩, ?_⟩
    · exact congrArg (·, e + 1) (cutOff_zeros 1 (2 ^ 52))
    · have next : (e + 1 + 1074).toNat = (e + 1074).toNat + 1 := by omega
      simp only [magnitude, next]
      ring

/-- Rounding shifts twice, the second time for the sake of a bit that is carried. -/
theorem roundWithAccuracy_eq {s : Sign} {a : ExtendedMantissa} {t f : Int}
    (first : shiftToTargetExponent .binary64 m e .exact = (a, t))
    (second : shiftToTargetExponent .binary64 a.roundedMantissa t .exact = (⟨n, false, false⟩, f)) :
    roundWithAccuracy .binary64 s m e .exact =
      if zero : n = 0 then .zero s else .finite s n f (Nat.pos_of_ne_zero zero) := by
  unfold roundWithAccuracy
  rw [first]
  dsimp only
  rw [second]

/-- **What a number is rounded to** is the closest one. -/
theorem round_eq (s : Sign) (nonzero : 0 < m) (least : -1074 ≤ e) :
    IfFinite IsRounded (UnpackedFloat.round .binary64 s m e) ∧
      units (UnpackedFloat.round .binary64 s m e) = some (s.apply (nearest (magnitude m e))) := by
  unfold UnpackedFloat.round decreaseExponent
  rw [targetExponent_eq]
  dsimp only
  generalize exponent : max ((m.log2 : Int) + e - 52) (-1074) = t
  generalize left : (e - t).toNat = p
  have log : (m * 2 ^ p).log2 = m.log2 + p := log2_mul_two_pow (by omega) p
  obtain ⟨k, right⟩ : ∃ k : Nat, t - (e - p) = k := ⟨(t - (e - p)).toNat, by omega⟩
  -- the mantissa goes up by `p` bits and down by `k`, one of which is zero
  have first : shiftToTargetExponent .binary64 (m <<< p) (e - p) .exact = (cutOff k (m * 2 ^ p), t) := by
    rw [shiftToTargetExponent_eq, Nat.shiftLeft_eq, log]
    have shift : (max ((m.log2 + p : Nat) + (e - p) - 52 : Int) (-1074) - (e - p)).toNat = k := by omega
    rw [shift]
    exact congrArg (_, ·) (by omega)
  have near : nearest (magnitude m e) = magnitude (cutOff k (m * 2 ^ p)).roundedMantissa t := by
    have total : magnitude m e = m * 2 ^ p * 2 ^ (e - p + 1074).toNat := by
      rw [magnitude, mul_assoc, ← pow_add]
      congr 2
      omega
    have excess : (magnitude m e).log2 - 52 = k + (e - p + 1074).toNat := by
      rw [magnitude, log2_mul_two_pow (by omega)]
      omega
    rw [nearest, excess, total, cutOff_add, magnitude]
    congr 2
    omega
  have few : (cutOff k (m * 2 ^ p)).roundedMantissa ≤ 2 ^ 53 := roundedMantissa_cutOff_le (by omega)
  have full : 2 ^ 52 ≤ (cutOff k (m * 2 ^ p)).roundedMantissa ∨ t = -1074 := by
    by_cases least : t = -1074
    · exact Or.inr least
    · exact Or.inl (le_roundedMantissa_cutOff (by positivity) (by omega))
  obtain ⟨n, f, second, rounded, same⟩ := shift_carried few (by omega) full
  rw [roundWithAccuracy_eq first second, near, ← same]
  by_cases zero : n = 0
  · rw [dif_pos zero, zero]
    refine ⟨trivial, congrArg some ?_⟩
    rw [magnitude, Nat.zero_mul]
    cases s <;> rfl
  · rw [dif_neg zero]
    exact ⟨rounded, rfl⟩

theorem normalize_eq {x : Int} (least : -1074 ≤ e) :
    IfFinite IsRounded (UnpackedFloat.normalize .binary64 x e .positive) ∧
      units (UnpackedFloat.normalize .binary64 x e .positive) =
        some (nearestInt (x * (2 ^ (e + 1074).toNat : Nat))) := by
  unfold UnpackedFloat.normalize
  rcases lt_trichotomy x 0 with less | rfl | more
  · rw [Int.compare_eq_lt.mpr less]
    obtain ⟨n, rfl⟩ : ∃ n : Nat, x = -n := ⟨x.natAbs, by omega⟩
    obtain ⟨rounded, value⟩ := round_eq .negative (m := n) (by omega) least
    simp only [neg_neg, Int.toNat_natCast]
    refine ⟨rounded, value.trans ?_⟩
    rw [neg_mul, nearestInt_neg, ← Nat.cast_mul, nearestInt_natCast]
    rfl
  · rw [zero_mul]
    exact ⟨trivial, rfl⟩
  · rw [Int.compare_eq_gt.mpr more]
    obtain ⟨n, rfl⟩ : ∃ n : Nat, x = n := ⟨x.natAbs, by omega⟩
    obtain ⟨rounded, value⟩ := round_eq .positive (m := n) (by omega) least
    refine ⟨rounded, value.trans ?_⟩
    rw [← Nat.cast_mul, nearestInt_natCast]
    rfl

end Retouch.Binary64

/-! ## Differences of floating-point numbers -/

namespace Retouch.Binary64

open Float.Model.UnpackedFloat
open Float.Model (UnpackedFloat Format)

variable {u v : UnpackedFloat} {x y z d : Int}

/-! ### Finite differences -/

theorem sub_infinity (value : units u = some x) (finite : -top < x ∧ x < top) (s : Sign) :
    UnpackedFloat.sub .binary64 u (.infinity s) = .infinity (-s) := by
  cases u with
  | notANumber => cases value
  | infinity t => cases value; cases t <;> simp only [Sign.apply] at finite <;> omega
  | zero | finite => rfl

theorem infinity_sub (value : units u = some x) (finite : -top < x ∧ x < top) (s : Sign) :
    UnpackedFloat.sub .binary64 (.infinity s) u = .infinity s := by
  cases u with
  | notANumber => cases value
  | infinity t => cases value; cases t <;> simp only [Sign.apply] at finite <;> omega
  | zero | finite => rfl

theorem apply_neg (s : Sign) (x : Int) : (-s).apply x = -s.apply x := by
  cases s
  · exact (neg_neg x).symm
  · rfl

theorem apply_mul (s : Sign) (x y : Int) : s.apply (x * y) = s.apply x * y := by
  cases s
  · exact (neg_mul x y).symm
  · rfl

/-- The units of a number with a smaller exponent. -/
theorem apply_magnitude (s : Sign) (m : Nat) {e g : Int} (least : -1074 ≤ g) (below : g ≤ e) :
    s.apply (magnitude m e) = s.apply (m <<< (e - g).toNat : Nat) * (2 ^ (g + 1074).toNat : Nat) := by
  rw [magnitude, ← apply_mul, ← Nat.cast_mul, Nat.shiftLeft_eq, mul_assoc, ← pow_add]
  congr 4
  omega

/-- **The difference of finite numbers** has the closest number of units. -/
theorem sub_eq (left : IsCanonical u) (right : IsCanonical v) (value : units u = some x)
    (value' : units v = some y) (finite : -top < x ∧ x < top) (finite' : -top < y ∧ y < top) :
    IfFinite IsRounded (UnpackedFloat.sub .binary64 u v) ∧
      units (UnpackedFloat.sub .binary64 u v) = some (nearestInt (x - y)) := by
  have itself : ∀ {s : Sign} {m : Nat} {e : Int}, IsRounded m e →
      nearestInt (s.apply (magnitude m e)) = s.apply (magnitude m e) := by
    intro s m e rounded
    rw [nearestInt_apply, nearest_magnitude rounded]
  cases u with
  | notANumber => cases value
  | infinity t => cases value; cases t <;> simp only [Sign.apply] at finite <;> omega
  | zero s =>
    cases value
    cases v with
    | notANumber => cases value'
    | infinity t => cases value'; cases t <;> simp only [Sign.apply] at finite' <;> omega
    | zero t =>
      cases value'
      cases s <;> cases t <;> exact ⟨trivial, rfl⟩
    | finite t n f pos =>
      cases value'
      refine ⟨right.1, ?_⟩
      rw [zero_sub, nearestInt_neg, itself right.1, ← apply_neg]
      rfl
  | finite s m e pos =>
    cases value
    cases v with
    | notANumber => cases value'
    | infinity t => cases value'; cases t <;> simp only [Sign.apply] at finite' <;> omega
    | zero t =>
      cases value'
      refine ⟨left.1, ?_⟩
      rw [sub_zero, itself left.1]
      rfl
    | finite t n f pos' =>
      cases value'
      have least := left.1.least
      have least' := right.1.least
      unfold UnpackedFloat.sub decreaseExponent
      dsimp only
      have lowest : min e f ≤ e ∧ min e f ≤ f ∧ -1074 ≤ min e f := by omega
      generalize min e f = g at lowest ⊢
      obtain ⟨below, below', lowest⟩ := lowest
      rw [apply_magnitude s m lowest below, apply_magnitude t n lowest below', ← sub_mul]
      exact normalize_eq lowest

/-! ### All differences -/

/-- The units of a difference: there are none if both are infinite with the same sign. -/
def subUnits (x y : Int) : Option Int :=
  if (-top < x ∧ x < top) ∧ -top < y ∧ y < top then some (clip (nearestInt (x - y)))
  else if x = y then none
  else some (if x < y then -top else top)

/-- **The units of a difference** are the difference of the units, as close as they can be. -/
theorem units_difference (left : IsCanonical u) (right : IsCanonical v) :
    units (UnpackedFloat.unpack .binary64
        (UnpackedFloat.pack .binary64 (UnpackedFloat.sub .binary64 u v))) =
      (units u).bind fun x => (units v).bind (subUnits x) := by
  have positive := top_pos
  cases value : units u with
  | none =>
    obtain rfl : u = .notANumber := by cases u <;> first | rfl | cases value
    exact congrArg units unpack_pack_notANumber
  | some x =>
    cases value' : units v with
    | none =>
      obtain rfl : v = .notANumber := by cases v <;> first | rfl | cases value'
      have nothing : UnpackedFloat.sub .binary64 u .notANumber = .notANumber := by cases u <;> rfl
      rw [nothing, unpack_pack_notANumber]
      rfl
    | some y =>
      show _ = subUnits x y
      unfold subUnits
      rcases units_cases left value with ⟨rfl, rfl⟩ | ⟨rfl, rfl⟩ | inside
      all_goals rcases units_cases right value' with ⟨rfl, rfl⟩ | ⟨rfl, rfl⟩ | inside'
      · rw [if_neg (by omega), if_pos rfl]
        exact congrArg units unpack_pack_notANumber
      · rw [if_neg (by omega), if_neg (by omega), if_neg (by omega)]
        exact congrArg units (unpack_pack_infinity .positive)
      · rw [if_neg (by omega), if_neg (by omega), if_neg (by omega), infinity_sub value' inside']
        exact congrArg units (unpack_pack_infinity .positive)
      · rw [if_neg (by omega), if_neg (by omega), if_pos (by omega)]
        exact congrArg units (unpack_pack_infinity .negative)
      · rw [if_neg (by omega), if_pos rfl]
        exact congrArg units unpack_pack_notANumber
      · rw [if_neg (by omega), if_neg (by omega), if_pos (by omega), infinity_sub value' inside']
        exact congrArg units (unpack_pack_infinity .negative)
      · rw [if_neg (by omega), if_neg (by omega), if_pos (by omega), sub_infinity value inside]
        exact congrArg units (unpack_pack_infinity .negative)
      · rw [if_neg (by omega), if_neg (by omega), if_neg (by omega), sub_infinity value inside]
        exact congrArg units (unpack_pack_infinity .positive)
      · obtain ⟨rounded, units⟩ := sub_eq left right value value' inside inside'
        rw [if_pos ⟨inside, inside'⟩]
        exact units_unpack_pack rounded units

/-- The difference keeps the order, unless it is the least one. -/
theorem subUnits_le (le : x ≤ y) (most : y ≤ top) (before : subUnits x z = some d) (more : -top < d) :
    ∃ d', subUnits y z = some d' ∧ d ≤ d' := by
  unfold subUnits at before ⊢
  by_cases inside : (-top < x ∧ x < top) ∧ -top < z ∧ z < top
  · rw [if_pos inside] at before
    cases before
    by_cases inside' : y < top
    · rw [if_pos (by omega)]
      exact ⟨_, rfl, clip_le (nearestInt_le (by omega))⟩
    · rw [if_neg (by omega), if_neg (by omega), if_neg (by omega)]
      refine ⟨_, rfl, ?_⟩
      simp only [clip]
      omega
  · rw [if_neg inside] at before
    split at before
    · cases before
    · split at before
      · cases before
        exact absurd more (lt_irrefl _)
      · cases before
        rw [if_neg (by omega), if_neg (by omega), if_neg (by omega)]
        exact ⟨_, rfl, le_refl _⟩

/-! ### Time -/

variable {a b c t : Float}

theorem isCanonical_toModel (a : Float) : IsCanonical a.toModel.unpack := isCanonical_unpack _

theorem units_sub (a b : Float) : units (a - b).toModel.unpack =
    (units a.toModel.unpack).bind fun x => (units b.toModel.unpack).bind (subUnits x) :=
  units_difference (isCanonical_toModel a) (isCanonical_toModel b)

/-- **What is at most something is at most that less the same.** More precisely, the difference that goes
beyond a limit does so for every larger number. -/
theorem lt_sub_of_le (le : a ≤ b) (less : t < a - c) : t < b - c := by
  obtain ⟨x, y, value, value', le⟩ :=
    (le_iff (isCanonical_toModel a) (isCanonical_toModel b)).mp (of_decide_eq_true le)
  obtain ⟨l, d, bound, before, less⟩ :=
    (lt_iff (isCanonical_toModel t) (isCanonical_toModel (a - c))).mp (of_decide_eq_true less)
  rw [units_sub, value, Option.bind_some, Option.bind_eq_some_iff] at before
  obtain ⟨z, subtracted, before⟩ := before
  have above := (units_bounds (isCanonical_toModel t) bound).1
  have below := (units_bounds (isCanonical_toModel b) value').2
  obtain ⟨d', after, more⟩ := subUnits_le le below before (by omega)
  refine decide_eq_true ((lt_iff (isCanonical_toModel t) (isCanonical_toModel (b - c))).mpr ?_)
  refine ⟨l, d', bound, ?_, by omega⟩
  rw [units_sub, value', subtracted]
  exact after

/-- A number that is not negative is not below a number less itself. -/
theorem not_lt_sub_self (a : Float) (nonneg : ¬ t < 0) : ¬ t < a - a := by
  intro less
  obtain ⟨l, d, bound, difference, less⟩ :=
    (lt_iff (isCanonical_toModel t) (isCanonical_toModel (a - a))).mp (of_decide_eq_true less)
  rw [units_sub, Option.bind_eq_some_iff] at difference
  obtain ⟨x, value, difference⟩ := difference
  rw [value, Option.bind_some, subUnits, sub_self, if_pos rfl] at difference
  refine nonneg (decide_eq_true ((lt_iff (isCanonical_toModel t) (isCanonical_toModel 0)).mpr ?_))
  split at difference
  · cases difference
    have positive := top_pos
    rw [show nearestInt 0 = 0 from rfl, clip_eq_self (by omega) (by omega)] at less
    exact ⟨l, 0, bound, rfl, less⟩
  · cases difference

end Retouch.Binary64
