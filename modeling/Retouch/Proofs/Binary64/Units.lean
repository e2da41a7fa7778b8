import Mathlib.Tactic.Ring

/-!
# Floating-point numbers as whole numbers

A floating-point number is a whole number of least units; an infinite one is taken for more of them
than a finite one has (`units`). Read in this way the numbers are compared as whole numbers are
(`compare_eq`), and a number that has been rounded keeps its units when it is packed, as far as they go
(`units_unpack_pack`).
-/

namespace Retouch.Binary64

open Float.Model.UnpackedFloat
open Float.Model (UnpackedFloat Format)

/-! ### Units -/

/-- A rounded number: its mantissa has 53 bits, or less if the exponent is the least. -/
structure IsRounded (m : Nat) (e : Int) : Prop where
  /-- There are no more bits. -/
  few : m < 2 ^ 53
  /-- The exponent is not below the least. -/
  least : -1074 ≤ e
  /-- There are as many bits as possible. -/
  full : 2 ^ 52 ≤ m ∨ e = -1074

/-- What a finite number has to be. -/
def IfFinite (P : Nat → Int → Prop) : UnpackedFloat → Prop
  | .finite _ m e _ => P m e
  | _ => True

/-- A number that can be packed without loss is rounded, and not too large. -/
def IsCanonical : UnpackedFloat → Prop := IfFinite fun m e => IsRounded m e ∧ e ≤ 971

/-- The number of least units. -/
def magnitude (m : Nat) (e : Int) : Nat := m * 2 ^ (e + 1074).toNat

/-- A finite number has less bits. -/
@[irreducible] def width : Nat := 2098

/-- More units than a finite number has. -/
def top : Nat := 2 ^ width

/-- The number of units, if it is a number. -/
def units : UnpackedFloat → Option Int
  | .notANumber => none
  | .infinity s => some (s.apply top)
  | .zero _ => some 0
  | .finite s m e _ => some (s.apply (magnitude m e))

variable {s t : Sign} {m n : Nat} {e f : Int} {pos : 0 < m} {u v : UnpackedFloat} {x : Int}

theorem two_pow_le_top (le : n ≤ 2098) : 2 ^ n ≤ top := by
  refine Nat.pow_le_pow_right (by decide) ?_
  rw [width]
  exact le

theorem top_le_two_pow (le : 2098 ≤ n) : top ≤ 2 ^ n := by
  refine Nat.pow_le_pow_right (by decide) ?_
  rw [width]
  exact le

theorem top_pos : 0 < top := two_pow_le_top (n := 0) (by decide)

/-- The smaller exponent is the one of the smaller number. -/
theorem magnitude_lt (left : IsRounded m e) (right : IsRounded n f) (less : e < f) :
    magnitude m e < magnitude n f := by
  have full : 2 ^ 52 ≤ n := by have := left.least; have := right.full; omega
  calc m * 2 ^ (e + 1074).toNat < 2 ^ 53 * 2 ^ (e + 1074).toNat :=
        Nat.mul_lt_mul_of_pos_right left.few (Nat.two_pow_pos _)
    _ ≤ 2 ^ 52 * 2 ^ (f + 1074).toNat := by
        rw [← pow_add, ← pow_add]
        have := left.least
        exact Nat.pow_le_pow_right (by decide) (by omega)
    _ ≤ n * 2 ^ (f + 1074).toNat := Nat.mul_le_mul_right _ full

/-- A number that is not too large has less units than the infinite ones. -/
theorem magnitude_lt_top (rounded : IsRounded m e) (small : e ≤ 971) : magnitude m e < top :=
  calc m * 2 ^ (e + 1074).toNat < 2 ^ 53 * 2 ^ (e + 1074).toNat :=
        Nat.mul_lt_mul_of_pos_right rounded.few (Nat.two_pow_pos _)
    _ ≤ top := by
        rw [← pow_add]
        exact two_pow_le_top (by omega)

/-- A number that is too large has at least as many. -/
theorem top_le_magnitude (rounded : IsRounded m e) (large : ¬ e ≤ 971) : top ≤ magnitude m e := by
  have full : 2 ^ 52 ≤ m := by have := rounded.full; omega
  calc top ≤ 2 ^ 52 * 2 ^ (e + 1074).toNat := by
        rw [← pow_add]
        exact top_le_two_pow (by omega)
    _ ≤ m * 2 ^ (e + 1074).toNat := Nat.mul_le_mul_right _ full

/-- A number is infinite, or has less units than the infinite ones. -/
theorem units_cases (canonical : IsCanonical u) (value : units u = some x) :
    u = .infinity .positive ∧ x = top ∨ u = .infinity .negative ∧ x = -top ∨ -top < x ∧ x < top := by
  have positive := top_pos
  cases u with
  | notANumber => cases value
  | infinity s =>
    cases value
    cases s
    · exact Or.inr (Or.inl ⟨rfl, rfl⟩)
    · exact Or.inl ⟨rfl, rfl⟩
  | zero =>
    cases value
    exact Or.inr (Or.inr (by omega))
  | finite s m e pos =>
    have small := magnitude_lt_top canonical.1 canonical.2
    cases value
    cases s <;> exact Or.inr (Or.inr (by simp only [Sign.apply]; omega))

/-- No number has more units than the infinite ones. -/
theorem units_bounds (canonical : IsCanonical u) (value : units u = some x) : -top ≤ x ∧ x ≤ top := by
  have := units_cases canonical value
  have := top_pos
  omega

/-! ### Comparison -/

/-- Rounded numbers are compared by their exponents first. -/
theorem compare_magnitude (left : IsRounded m e) (right : IsRounded n f) :
    (compare e f).then (compare m n) = compare (magnitude m e) (magnitude n f) := by
  rcases lt_trichotomy e f with less | rfl | more
  · rw [Int.compare_eq_lt.mpr less, Nat.compare_eq_lt.mpr (magnitude_lt left right less)]
    rfl
  · have scaled : ∀ {m n : Nat}, m < n → magnitude m e < magnitude n e :=
      fun less => Nat.mul_lt_mul_of_pos_right less (Nat.two_pow_pos _)
    rw [Int.compare_eq_eq.mpr rfl]
    rcases lt_trichotomy m n with less | rfl | more
    · rw [Nat.compare_eq_lt.mpr less, Nat.compare_eq_lt.mpr (scaled less)]
      rfl
    · rw [Nat.compare_eq_eq.mpr rfl, Nat.compare_eq_eq.mpr rfl]
      rfl
    · rw [Nat.compare_eq_gt.mpr more, Nat.compare_eq_gt.mpr (scaled more)]
      rfl
  · rw [Int.compare_eq_gt.mpr more, Nat.compare_eq_gt.mpr (magnitude_lt right left more)]
    rfl

/-- Numbers of one sign are compared by their magnitudes, negative ones the other way round. -/
theorem compare_apply (s : Sign) (m n : Nat) :
    compare (s.apply m) (s.apply n) =
      match s with
      | .positive => compare m n
      | .negative => (compare m n).swap := by
  rcases lt_trichotomy m n with less | rfl | more
  · rw [Nat.compare_eq_lt.mpr less]
    cases s
    · exact Int.compare_eq_gt.mpr (by simp only [Sign.apply]; omega)
    · exact Int.compare_eq_lt.mpr (by simp only [Sign.apply]; omega)
  · rw [Nat.compare_eq_eq.mpr rfl, Int.compare_eq_eq.mpr rfl]
    cases s <;> rfl
  · rw [Nat.compare_eq_gt.mpr more]
    cases s
    · exact Int.compare_eq_lt.mpr (by simp only [Sign.apply]; omega)
    · exact Int.compare_eq_gt.mpr (by simp only [Sign.apply]; omega)

/-- **Numbers are compared as their units are.** -/
theorem compare_eq (left : IsCanonical u) (right : IsCanonical v) :
    u.compare v = (units u).bind fun x => (units v).map fun y => compare x y := by
  have positive := top_pos
  have lt : ∀ {x y : Int}, x < y → some Ordering.lt = some (compare x y) :=
    fun less => congrArg some (Int.compare_eq_lt.mpr less).symm
  have gt : ∀ {x y : Int}, y < x → some Ordering.gt = some (compare x y) :=
    fun more => congrArg some (Int.compare_eq_gt.mpr more).symm
  have eq : ∀ x : Int, some Ordering.eq = some (compare x x) :=
    fun x => congrArg some (Int.compare_eq_eq.mpr rfl).symm
  cases u with
  | notANumber => rfl
  | infinity s =>
    cases v with
    | notANumber => cases s <;> rfl
    | infinity t =>
      cases s <;> cases t
      · exact eq _
      · exact lt (by simp only [Sign.apply]; omega)
      · exact gt (by simp only [Sign.apply]; omega)
      · exact eq _
    | zero =>
      cases s
      · exact lt (by simp only [Sign.apply]; omega)
      · exact gt (by simp only [Sign.apply]; omega)
    | finite t n f pos =>
      have small := magnitude_lt_top right.1 right.2
      cases s
      · exact lt (by cases t <;> simp only [Sign.apply] <;> omega)
      · exact gt (by cases t <;> simp only [Sign.apply] <;> omega)
  | zero s =>
    cases v with
    | notANumber => rfl
    | infinity t =>
      cases t
      · exact gt (by simp only [Sign.apply]; omega)
      · exact lt (by simp only [Sign.apply]; omega)
    | zero => exact eq _
    | finite t n f pos =>
      have begun : 0 < magnitude n f := Nat.mul_pos pos (Nat.two_pow_pos _)
      cases t
      · exact gt (by simp only [Sign.apply]; omega)
      · exact lt (by simp only [Sign.apply]; omega)
  | finite s m e pos =>
    have begun : 0 < magnitude m e := Nat.mul_pos pos (Nat.two_pow_pos _)
    have small := magnitude_lt_top left.1 left.2
    cases v with
    | notANumber => cases s <;> rfl
    | infinity t =>
      cases t
      · cases s <;> exact gt (by simp only [Sign.apply]; omega)
      · cases s <;> exact lt (by simp only [Sign.apply]; omega)
    | zero =>
      cases s
      · exact lt (by simp only [Sign.apply]; omega)
      · exact gt (by simp only [Sign.apply]; omega)
    | finite t n f pos' =>
      have begun' : 0 < magnitude n f := Nat.mul_pos pos' (Nat.two_pow_pos _)
      have same := compare_magnitude left.1 right.1
      cases s <;> cases t
      · refine congrArg some ?_
        rw [same]
        exact (compare_apply .negative _ _).symm
      · exact lt (by simp only [Sign.apply]; omega)
      · exact gt (by simp only [Sign.apply]; omega)
      · refine congrArg some ?_
        rw [same]
        exact (compare_apply .positive _ _).symm

/-- A number is at most another one if its units are. -/
theorem le_iff (left : IsCanonical u) (right : IsCanonical v) :
    u.le v = true ↔ ∃ x y, units u = some x ∧ units v = some y ∧ x ≤ y := by
  unfold UnpackedFloat.le
  rw [compare_eq left right]
  cases units u <;> cases units v <;> simp [Int.isLE_compare]

/-- A number is below another one if its units are. -/
theorem lt_iff (left : IsCanonical u) (right : IsCanonical v) :
    u.lt v = true ↔ ∃ x y, units u = some x ∧ units v = some y ∧ x < y := by
  unfold UnpackedFloat.lt
  rw [compare_eq left right]
  cases units u <;> cases units v <;> simp [Int.compare_eq_lt]

/-! ### Packing -/

theorem unpackSign_packComponents {y : BitVec 11} {z : BitVec 52} :
    Sign.ofBitVec (unpackSign (packComponents .binary64 s y z)) = s := by
  unfold unpackSign packComponents BitVec.extractLsb
  dsimp only
  rw [BitVec.extractLsb'_append_eq_of_le (by omega),
    BitVec.extractLsb'_append_eq_of_le (by omega)]
  cases s <;> rfl

theorem toNat_one_append (b : BitVec n) : (1#1 ++ b).toNat = 2 ^ n + b.toNat := by
  rw [BitVec.toNat_append, ← Nat.shiftLeft_add_eq_or_of_lt b.isLt]
  simp [Nat.shiftLeft_eq]

/-- What is unpacked can be packed without loss. -/
theorem isCanonical_unpack (b : BitVec 64) : IsCanonical (UnpackedFloat.unpack .binary64 b) := by
  have few : (@unpackMantissa .binary64 b).toNat < 2 ^ 52 := BitVec.isLt _
  have below : (@unpackExponent .binary64 b).toNat < 2 ^ 11 := BitVec.isLt _
  unfold UnpackedFloat.unpack
  dsimp only [Format.exponentBias]
  by_cases ones : @unpackExponent .binary64 b = -1#11
  · rw [if_pos ones]
    by_cases blank : @unpackMantissa .binary64 b = 0#52
    · rw [if_pos blank]
      exact trivial
    · rw [if_neg blank]
      exact trivial
  rw [if_neg ones]
  by_cases zero : @unpackExponent .binary64 b = 0#11
  · rw [if_pos zero]
    by_cases blank : @unpackMantissa .binary64 b = 0#52
    · rw [dif_pos blank]
      exact trivial
    · rw [dif_neg blank, zero]
      exact ⟨⟨few.trans (by decide), by decide, Or.inr (by decide)⟩, by decide⟩
  · rw [if_neg zero]
    have ones : (@unpackExponent .binary64 b).toNat ≠ 2 ^ 11 - 1 :=
      fun same => ones (BitVec.eq_of_toNat_eq same)
    have zero : (@unpackExponent .binary64 b).toNat ≠ 0 :=
      fun same => zero (BitVec.eq_of_toNat_eq same)
    have mantissa : (1#1 ++ @unpackMantissa .binary64 b).toNat = 2 ^ 52 + (@unpackMantissa .binary64 b).toNat :=
      toNat_one_append _
    exact ⟨⟨by omega, by omega, Or.inl (by omega)⟩, by omega⟩

theorem unpack_pack_notANumber :
    UnpackedFloat.unpack .binary64 (UnpackedFloat.pack .binary64 .notANumber) = .notANumber := rfl

theorem unpack_pack_infinity (s : Sign) :
    UnpackedFloat.unpack .binary64 (UnpackedFloat.pack .binary64 (.infinity s)) = .infinity s := by
  cases s <;> rfl

theorem finite_congr {pos' : 0 < n} (sign : t = s) (mantissa : n = m) (exponent : f = e) :
    UnpackedFloat.finite t n f pos' = .finite s m e pos := by
  subst sign mantissa exponent
  rfl

/-- The mantissa of a number with 53 bits is packed without the first one. -/
theorem unpack_packComponents (few : m < 2 ^ 53) (full : 2 ^ 52 ≤ m) (least : -1074 ≤ e)
    (most : e ≤ 971) :
    UnpackedFloat.unpack .binary64
        (packComponents .binary64 s (BitVec.ofNat 11 (e + 1075).toNat) (BitVec.ofNat 52 m)) =
      .finite s m e pos := by
  generalize packed : packComponents .binary64 s (BitVec.ofNat 11 (e + 1075).toNat) (BitVec.ofNat 52 m) = b
  have sign : Sign.ofBitVec (unpackSign b) = s := by rw [← packed, unpackSign_packComponents]
  have exponent : (@unpackExponent .binary64 b).toNat = (e + 1075).toNat := by
    rw [← packed, unpackExponent_packComponents]
    exact Nat.mod_eq_of_lt (show (e + 1075).toNat < 2 ^ 11 by omega)
  have mantissa : (1#1 ++ @unpackMantissa .binary64 b).toNat = m := by
    rw [toNat_one_append, ← packed, unpackMantissa_packComponents, BitVec.toNat_ofNat]
    show 2 ^ 52 + m % 2 ^ 52 = m
    omega
  have bounded : @unpackExponent .binary64 b ≠ -1#11 := by
    intro ones
    rw [ones, show (-1#11).toNat = 2047 from rfl] at exponent
    omega
  have begun : @unpackExponent .binary64 b ≠ 0#11 := by
    intro zero
    rw [zero, show (0#11).toNat = 0 from rfl] at exponent
    omega
  unfold UnpackedFloat.unpack
  dsimp only [Format.exponentBias]
  rw [if_neg bounded, if_neg begun]
  exact finite_congr sign mantissa (by omega)

/-- A mantissa with less bits is packed with a zero for the exponent. -/
theorem unpack_packComponents_zero (few : m < 2 ^ 52) :
    UnpackedFloat.unpack .binary64 (packComponents .binary64 s 0#11 (BitVec.ofNat 52 m)) =
      .finite s m (-1074) pos := by
  generalize packed : packComponents .binary64 s 0#11 (BitVec.ofNat 52 m) = b
  have sign : Sign.ofBitVec (unpackSign b) = s := by rw [← packed, unpackSign_packComponents]
  have exponent : @unpackExponent .binary64 b = 0#11 := by rw [← packed, unpackExponent_packComponents]
  have mantissa : (@unpackMantissa .binary64 b).toNat = m := by
    rw [← packed, unpackMantissa_packComponents]
    exact Nat.mod_eq_of_lt few
  have begun : @unpackMantissa .binary64 b ≠ 0#52 := by
    intro zero
    rw [zero, show (0#52).toNat = 0 from rfl] at mantissa
    omega
  unfold UnpackedFloat.unpack
  dsimp only [Format.exponentBias]
  rw [if_neg (by rw [exponent]; decide), if_pos exponent, dif_neg begun]
  refine finite_congr sign mantissa ?_
  rw [exponent]
  rfl

/-- Packing leaves a rounded number as it is, and makes one that is too large infinite. -/
theorem unpack_pack (rounded : IsRounded m e) :
    UnpackedFloat.unpack .binary64 (UnpackedFloat.pack .binary64 (.finite s m e pos)) =
      if e ≤ 971 then .finite s m e pos else .infinity s := by
  obtain ⟨few, least, full⟩ := rounded
  have biased : (e + (1023 : Nat) + (52 : Nat)).toNat = (e + 1075).toNat := by omega
  show UnpackedFloat.unpack .binary64
    (if 2 ^ 11 ≤ (e + (1023 : Nat) + (52 : Nat)).toNat + 1 then packedInfinity .binary64 s
    else if m.log2 + 1 = 53 then
      packComponents .binary64 s (BitVec.ofNat 11 (e + (1023 : Nat) + (52 : Nat)).toNat) (BitVec.ofNat 52 m)
    else packComponents .binary64 s 0#11 (BitVec.ofNat 52 m)) = _
  rw [biased]
  by_cases small : e ≤ 971
  · rw [if_pos small, if_neg (by omega)]
    by_cases normal : 2 ^ 52 ≤ m
    · have log : m.log2 = 52 := (Nat.log2_eq_iff (by omega)).mpr ⟨normal, few⟩
      rw [if_pos (by rw [log])]
      exact unpack_packComponents few normal least small
    · have log : m.log2 < 52 := (Nat.log2_lt (by omega)).mpr (by omega)
      obtain rfl : e = -1074 := by omega
      rw [if_neg (by omega)]
      exact unpack_packComponents_zero (by omega)
  · rw [if_neg small, if_pos (by omega)]
    exact unpack_pack_infinity s

/-- As many of some units as a number can have. -/
def clip (x : Int) : Int := max (-top) (min x top)

theorem clip_le {x y : Int} (le : x ≤ y) : clip x ≤ clip y := by
  simp only [clip]
  omega

theorem clip_eq_self (lower : -top ≤ x) (upper : x ≤ top) : clip x = x := by
  simp only [clip]
  omega

/-- **Packing keeps the units** of what has been rounded, as far as they go. -/
theorem units_unpack_pack (rounded : IfFinite IsRounded u) (value : units u = some x) :
    units (UnpackedFloat.unpack .binary64 (UnpackedFloat.pack .binary64 u)) = some (clip x) := by
  have positive := top_pos
  cases u with
  | notANumber => cases value
  | infinity s =>
    cases value
    rw [unpack_pack_infinity, clip_eq_self]
    · rfl
    · cases s <;> simp only [Sign.apply] <;> omega
    · cases s <;> simp only [Sign.apply] <;> omega
  | zero s =>
    cases value
    rw [clip_eq_self (by omega) (by omega)]
    cases s <;> rfl
  | finite s m e pos =>
    cases value
    rw [unpack_pack rounded]
    by_cases small : e ≤ 971
    · have inside := magnitude_lt_top rounded small
      rw [if_pos small, clip_eq_self]
      · rfl
      · cases s <;> simp only [Sign.apply] <;> omega
      · cases s <;> simp only [Sign.apply] <;> omega
    · have outside := top_le_magnitude rounded small
      rw [if_neg small]
      refine congrArg some ?_
      unfold clip
      cases s <;> simp only [Sign.apply] <;> omega

end Retouch.Binary64
