import Retouch.Json.Value

/-!
# Values whose number is out of range

Most values that have no whole number have none because they spell none. An infinite number is
different: it is a number, and no whole one is near it (`Json.outOfRange_toInteger_iff`). In the same
way a whole number may be beyond every floating-point number (`Json.outOfRange_toNumber_iff`). That a
floating-point number is infinite is read off its bits, as is its whole part.
-/

namespace Retouch

/-! ### Infinite floating-point numbers -/

namespace Decimal

open Float.Model.UnpackedFloat

/-- The exponent of a bit pattern is all ones. -/
theorem exponent_ones_iff (b : BitVec 64) :
    @unpackExponent Float.Model.Format.binary64 b = -1#11 ↔
      b.toNat / Nat.pow 2 52 % Nat.pow 2 11 = 2047 := by
  rw [BitVec.toNat_eq]
  unfold unpackExponent
  rw [BitVec.toNat_cast, BitVec.extractLsb_toNat, Nat.shiftRight_eq_div_pow]
  exact Iff.rfl

/-- The fraction of a bit pattern is zero. -/
theorem fraction_zero_iff (b : BitVec 64) :
    @unpackMantissa Float.Model.Format.binary64 b = 0#52 ↔ b.toNat % Nat.pow 2 52 = 0 := by
  rw [BitVec.toNat_eq]
  unfold unpackMantissa
  rw [BitVec.toNat_cast, BitVec.extractLsb_toNat, Nat.shiftRight_zero]
  exact Iff.rfl

/-- A bit pattern whose exponent is all ones is infinite or no number, and any other one is neither. -/
theorem unpack_cases (b : BitVec 64) :
    (b.toNat / Nat.pow 2 52 % Nat.pow 2 11 = 2047 ∧ b.toNat % Nat.pow 2 52 = 0 ∧
        ∃ sign, @unpack Float.Model.Format.binary64 b = .infinity sign) ∨
      (b.toNat / Nat.pow 2 52 % Nat.pow 2 11 = 2047 ∧ ¬ b.toNat % Nat.pow 2 52 = 0 ∧
        @unpack Float.Model.Format.binary64 b = .notANumber) ∨
      (¬ b.toNat / Nat.pow 2 52 % Nat.pow 2 11 = 2047 ∧
        (@unpack Float.Model.Format.binary64 b).isInf = false ∧
          (@unpack Float.Model.Format.binary64 b).isNaN = false) := by
  rw [← exponent_ones_iff, ← fraction_zero_iff]
  unfold unpack
  by_cases ones : @unpackExponent Float.Model.Format.binary64 b = -1#11
  · by_cases blank : @unpackMantissa Float.Model.Format.binary64 b = 0#52
    · exact Or.inl ⟨ones, blank, _, (if_pos ones).trans (if_pos blank)⟩
    · exact Or.inr (Or.inl ⟨ones, blank, (if_pos ones).trans (if_neg blank)⟩)
  · refine Or.inr (Or.inr ⟨ones, ?_⟩)
    dsimp only
    rw [if_neg ones]
    by_cases small : @unpackExponent Float.Model.Format.binary64 b = 0#11
    · rw [if_pos small]
      by_cases blank : @unpackMantissa Float.Model.Format.binary64 b = 0#52
      · rw [dif_pos blank]
        exact ⟨rfl, rfl⟩
      · rw [dif_neg blank]
        exact ⟨rfl, rfl⟩
    · rw [if_neg small]
      exact ⟨rfl, rfl⟩

/-- An infinite number has an exponent of all ones and no fraction. -/
theorem isInf_iff (x : Float) : x.isInf = true ↔
    x.toBits.toNat / Nat.pow 2 52 % Nat.pow 2 11 = 2047 ∧ x.toBits.toNat % Nat.pow 2 52 = 0 := by
  rw [show x.toBits.toNat = x.toModel.toBits.toBitVec.toNat from rfl]
  unfold Float.isInf Float.Model.isInf Float.Model.unpack
  obtain ⟨ones, blank, sign, eq⟩ | ⟨ones, filled, eq⟩ | ⟨ones, eq, -⟩ :=
    unpack_cases x.toModel.toBits.toBitVec
  all_goals rw [eq]
  · exact iff_of_true rfl ⟨ones, blank⟩
  · exact iff_of_false Bool.false_ne_true fun both => filled both.2
  · exact iff_of_false Bool.false_ne_true fun both => ones both.1

/-- What is no number has an exponent of all ones and a fraction. -/
theorem isNaN_iff (x : Float) : x.isNaN = true ↔
    x.toBits.toNat / Nat.pow 2 52 % Nat.pow 2 11 = 2047 ∧ x.toBits.toNat % Nat.pow 2 52 ≠ 0 := by
  rw [show x.toBits.toNat = x.toModel.toBits.toBitVec.toNat from rfl]
  unfold Float.isNaN Float.Model.isNaN Float.Model.unpack
  obtain ⟨ones, blank, sign, eq⟩ | ⟨ones, filled, eq⟩ | ⟨ones, -, eq⟩ :=
    unpack_cases x.toModel.toBits.toBitVec
  all_goals rw [eq]
  · exact iff_of_false Bool.false_ne_true fun both => both.2 blank
  · exact iff_of_true rfl ⟨ones, filled⟩
  · exact iff_of_false Bool.false_ne_true fun both => ones both.1

/-- A bit pattern has no whole part exactly if its exponent is all ones. -/
theorem truncate?_ofBits_eq_none_iff (bits : Nat) :
    (Parts.ofBits bits).truncate? = none ↔ bits / Nat.pow 2 52 % Nat.pow 2 11 = 2047 := by
  unfold Parts.ofBits
  dsimp only
  split
  · rename_i ones
    rw [eq_of_beq ones]
    split <;> exact ⟨fun _ => rfl, fun _ => rfl⟩
  · rename_i ones
    have ne : bits / Nat.pow 2 52 % Nat.pow 2 11 ≠ 2047 := by simpa using ones
    split <;> exact ⟨nofun, fun same => absurd same ne⟩

/-- A floating-point number has no whole part exactly if it is infinite or no number. -/
theorem truncate?_eq_none_iff (x : Float) :
    (Parts.of x).truncate? = none ↔ x.isInf = true ∨ x.isNaN = true := by
  rw [isInf_iff, isNaN_iff, ← and_or_left]
  unfold Parts.of
  rw [truncate?_ofBits_eq_none_iff]
  exact ⟨fun ones => ⟨ones, Classical.em _⟩, And.left⟩

/-- An infinite number is a number. -/
theorem isNaN_of_isInf {x : Float} (infinite : x.isInf = true) : x.isNaN = false := by
  rw [Bool.eq_false_iff, Ne, isNaN_iff]
  exact fun nan => nan.2 ((isInf_iff x).mp infinite).2

/-- An infinite number is not zero. -/
theorem ne_zero_of_isInf {x : Float} (infinite : x.isInf = true) : (x == 0) = false := by
  obtain ⟨sign, unpacked⟩ : ∃ sign, x.toModel.unpack = .infinity sign := by
    unfold Float.isInf Float.Model.isInf at infinite
    cases unpacked : x.toModel.unpack with
    | infinity sign => exact ⟨sign, rfl⟩
    | _ => rw [unpacked] at infinite; cases infinite
  have zero : (0 : Float).toModel.unpack = .zero .positive := rfl
  show Float.Model.UnpackedFloat.beq _ _ = false
  rw [unpacked, zero]
  cases sign <;> rfl

end Decimal

/-! ### Values -/

namespace Json

/-- A number that is infinite. -/
def IsInfinite (v : Json) : Prop := ∃ x, v = .float x ∧ x.isInf = true

/-- A whole number beyond the largest floating-point number. -/
def IsHuge (v : Json) : Prop := ∃ n, v = .int n ∧ Decimal.floatOfInt? n = none

/-- A value that has a whole number. -/
def IsWhole (v : Json) : Prop := ∃ n, v.toInteger = .ok n

/-- A value that counts as a whole number: nothing, zero and empty values count as zero. -/
def IsCount (v : Json) : Prop := v.truthy = false ∨ v.IsWhole

/-- A value that has a number. -/
def IsNumber (v : Json) : Prop := ∃ x, v.toNumber = .ok x

@[simp] theorem not_isInfinite_int (n : Int) : ¬ IsInfinite (.int n) := nofun

@[simp] theorem not_isInfinite_null : ¬ IsInfinite .null := nofun

/-- **No whole number for reasons of range** has exactly an infinite number. -/
theorem outOfRange_toInteger_iff (v : Json) :
    (∃ f, v.toInteger = .error f ∧ f.isRange = true) ↔ v.IsInfinite := by
  cases v with
  | float x =>
    constructor
    · rintro ⟨f, read, range⟩
      refine ⟨x, rfl, ?_⟩
      unfold toInteger at read
      dsimp only at read
      split at read
      · cases read
      · rename_i none
        split at read
        · cases read
          exact absurd range Bool.false_ne_true
        · rename_i number
          exact ((Decimal.truncate?_eq_none_iff x).mp none).resolve_right number
    · rintro ⟨_, ⟨⟩, infinite⟩
      refine ⟨.infiniteInteger, ?_, rfl⟩
      unfold toInteger
      dsimp only
      rw [(Decimal.truncate?_eq_none_iff x).mpr (Or.inl infinite), Decimal.isNaN_of_isInf infinite]
      rfl
  | str s =>
    refine ⟨?_, nofun⟩
    rintro ⟨f, read, range⟩
    unfold toInteger at read
    dsimp only at read
    split at read <;> cases read <;> exact absurd range Bool.false_ne_true
  | bool b => exact ⟨nofun, nofun⟩
  | int n => exact ⟨nofun, nofun⟩
  | null | arr | obj =>
    refine ⟨?_, nofun⟩
    rintro ⟨f, ⟨⟩, range⟩
    exact absurd range Bool.false_ne_true

/-- **No floating-point number for reasons of range** has exactly a whole number that is huge. -/
theorem outOfRange_toNumber_iff (v : Json) :
    (∃ f, v.toNumber = .error f ∧ f.isRange = true) ↔ v.IsHuge := by
  cases v with
  | int n =>
    constructor
    · rintro ⟨f, read, -⟩
      refine ⟨n, rfl, ?_⟩
      unfold toNumber at read
      dsimp only at read
      split at read
      · cases read
      · assumption
    · rintro ⟨_, ⟨⟩, huge⟩
      refine ⟨.tooLarge, ?_, rfl⟩
      unfold toNumber
      dsimp only
      rw [huge]
  | str s =>
    refine ⟨?_, nofun⟩
    rintro ⟨f, read, range⟩
    unfold toNumber at read
    dsimp only at read
    split at read <;> cases read
    exact absurd range Bool.false_ne_true
  | bool b => exact ⟨nofun, nofun⟩
  | float x => exact ⟨nofun, nofun⟩
  | null | arr | obj =>
    refine ⟨?_, nofun⟩
    rintro ⟨f, ⟨⟩, range⟩
    exact absurd range Bool.false_ne_true

/-- An infinite number does not count as missing. -/
theorem IsInfinite.truthy {v : Json} (infinite : v.IsInfinite) : v.truthy = true := by
  obtain ⟨x, rfl, infinite⟩ := infinite
  simp [Json.truthy, Decimal.ne_zero_of_isInf infinite]

end Json

end Retouch
