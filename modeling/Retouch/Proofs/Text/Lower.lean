import Retouch.Text.Basic
import Retouch.Text.CaseMap

/-!
# Lower case, character by character

Lower case looks at the neighbours of a character only for the Greek capital sigma. With both small
forms of sigma taken for one, the lower case of a text is that of its characters, one behind the other
(`map_lower`). What is no letter stays, and no letter becomes a character that is none
(`eq_of_mem_foldChar`).
-/

namespace Retouch.Text

/-- The final form of the small sigma taken for the other one. -/
def evenSigma (c : Char) : Char := if c.toNat = 0x3C2 then Char.ofNat 0x3C3 else c

/-- The lower case of a character, with one small sigma. -/
def foldChar (c : Char) : Text := (lowerChar c).map evenSigma

/-- The lower case of a text, with one small sigma. -/
def fold (t : Text) : Text := t.flatMap foldChar

@[simp] theorem fold_nil : fold [] = [] := rfl

@[simp] theorem fold_cons (c : Char) (t : Text) : fold (c :: t) = foldChar c ++ fold t :=
  List.flatMap_cons

@[simp] theorem fold_append (t u : Text) : fold (t ++ u) = fold t ++ fold u := List.flatMap_append

theorem map_lowerAfter (before t : Text) : (lowerAfter before t).map evenSigma = fold t := by
  induction t generalizing before with
  | nil => rfl
  | cons c t ih =>
    rw [lowerAfter, List.map_append, ih, fold_cons]
    congr 1
    split
    · rename_i sigma
      have capital : foldChar c = [Char.ofNat 0x3C3] := by
        rw [← Char.ofNat_toNat c, eq_of_beq sigma]
        decide
      rw [capital]
      split <;> decide
    · rfl

/-- **Lower case is that of the characters**, but for the two small forms of sigma. -/
theorem map_lower (t : Text) : (lower t).map evenSigma = fold t := map_lowerAfter [] t

/-- A code is mapped by one of the runs, or stays. -/
theorem shiftCase_cases (runs : List CaseRun) (n : Nat) : shiftCase runs n = n ∨
    ∃ r ∈ runs, r.first ≤ n ∧ n ≤ r.last ∧ shiftCase runs n = (n + r.shift).toNat := by
  fun_induction shiftCase runs n with
  | case1 => exact .inl rfl
  | case2 => exact .inl rfl
  | case3 r rest n below fits =>
    simp only [Bool.and_eq_true, decide_eq_true_eq] at fits
    exact .inr ⟨r, List.mem_cons_self .., by omega, fits.1, rfl⟩
  | case4 r rest n below misses ih =>
    obtain same | ⟨r, mem, first, last, eq⟩ := ih
    · exact .inl same
    · exact .inr ⟨r, List.mem_cons_of_mem _ mem, first, last, eq⟩

/-- The code is no lower case but of itself. -/
def isFixed (n : Nat) : Bool :=
  !([0, 0x69, 0x307, 0x3C3].contains n) &&
    lowerRuns.all fun r => (n : Int) < r.first + r.shift || r.last + r.shift < n

theorem toNat_ofNat {n : Nat} {c : Char} (eq : Char.ofNat n = c) (nonzero : c.toNat ≠ 0) :
    n = c.toNat := by
  by_cases valid : n.isValidChar
  · rw [← eq, Char.ofNat, dif_pos valid]
    rfl
  · rw [← eq, Char.ofNat, dif_neg valid] at nonzero
    exact absurd rfl nonzero

/-- Only a character itself has one in its lower case that is no lower case of another. -/
theorem eq_of_mem_foldChar {c d : Char} (fixed : isFixed d.toNat = true) (mem : d ∈ foldChar c) :
    c = d := by
  simp only [isFixed, Bool.and_eq_true, Bool.not_eq_true', List.contains_eq_mem, List.mem_cons,
    List.not_mem_nil, or_false, decide_eq_false_iff_not, not_or, List.all_eq_true, Bool.or_eq_true,
    decide_eq_true_eq] at fixed
  obtain ⟨⟨nonzero, noI, noDot, noSigma⟩, runs⟩ := fixed
  obtain ⟨x, low, eq⟩ := List.mem_map.mp mem
  obtain rfl : x = d := by
    unfold evenSigma at eq
    split at eq
    · exact absurd (congrArg Char.toNat eq).symm noSigma
    · exact eq
  unfold lowerChar at low
  split at low
  · simp only [List.mem_cons, List.not_mem_nil, or_false] at low
    obtain rfl | rfl := low
    · exact absurd rfl noI
    · exact absurd rfl noDot
  · have code := toNat_ofNat (List.mem_singleton.mp low).symm nonzero
    obtain same | ⟨r, listed, first, last, eq⟩ := shiftCase_cases lowerRuns c.toNat
    · exact Char.toNat_inj.mp (same.symm.trans code)
    · have := runs r listed
      omega

/-! ### Lower case of lower case -/

/-- A capital letter that has an ASCII letter in its lower case. -/
def isCapitalCode (n : Nat) : Bool := 0x41 ≤ n && n ≤ 0x5A || n == 0x130

/-- No code comes from other codes than capitals. -/
def isSmallCode (n : Nat) : Bool :=
  !([0, 0x3C3].contains n) &&
    lowerRuns.tail.all fun r => (n : Int) < r.first + r.shift || r.last + r.shift < n

theorem mem_lowerAfter {before t : Text} {c : Char} (mem : c ∈ lowerAfter before t) :
    c.toNat = 0x3C2 ∨ c.toNat = 0x3C3 ∨ ∃ b ∈ t, c ∈ lowerChar b := by
  induction t generalizing before with
  | nil => cases mem
  | cons b t ih =>
    rw [lowerAfter] at mem
    obtain mem | mem := List.mem_append.mp mem
    · split at mem
      · rw [List.mem_singleton.mp mem]
        split
        · exact .inl (by decide)
        · exact .inr (.inl (by decide))
      · exact .inr (.inr ⟨b, List.mem_cons_self .., mem⟩)
    · exact (ih mem).imp_right (.imp_right fun ⟨d, later, low⟩ => ⟨d, List.mem_cons_of_mem _ later, low⟩)

/-- There are no capitals in a text in lower case. -/
theorem not_isCapitalCode_of_mem_lower {t : Text} {c : Char} (mem : c ∈ lower t) :
    isCapitalCode c.toNat = false := by
  have images : ∀ r ∈ lowerRuns, (r.last + r.shift < 0x41 ∨ 0x5A < r.first + r.shift) ∧
      (r.last + r.shift < 0x130 ∨ 0x130 < r.first + r.shift) := by decide +kernel
  have capitals : ∀ n ∈ List.range' 0x41 26, shiftCase lowerRuns n ≠ n := by decide
  refine Bool.eq_false_iff.mpr fun capital => ?_
  simp only [isCapitalCode, Bool.or_eq_true, Bool.and_eq_true, decide_eq_true_eq, beq_iff_eq] at capital
  obtain final | small | ⟨b, -, low⟩ := mem_lowerAfter mem
  · omega
  · omega
  unfold lowerChar at low
  split at low
  · simp only [List.mem_cons, List.not_mem_nil, or_false] at low
    obtain rfl | rfl := low
    · exact absurd capital (by decide)
    · exact absurd capital (by decide)
  · rename_i dotted
    have dotted : b.toNat ≠ 0x130 := by simpa using dotted
    have code := toNat_ofNat (List.mem_singleton.mp low).symm (by omega)
    obtain same | ⟨r, listed, first, last, eq⟩ := shiftCase_cases lowerRuns b.toNat
    · rw [same] at code
      refine capitals b.toNat (List.mem_range'_1.mpr ?_) same
      omega
    · have := images r listed
      omega

/-- A character that is no such capital has one character in its lower case. -/
theorem foldChar_single {c : Char} (small : isCapitalCode c.toNat = false) :
    ∃ x, foldChar c = [x] := by
  have dotted : (c.toNat == 0x130) = false := (Bool.or_eq_false_iff.mp small).2
  exact ⟨_, by rw [foldChar, lowerChar, if_neg (by simp [dotted]), List.map_singleton]⟩

/-- Small letters are the lower case of themselves and capitals alone. -/
theorem eq_of_foldChar_small {c d : Char} (small : isCapitalCode c.toNat = false)
    (letter : isSmallCode d.toNat = true) (eq : foldChar c = [d]) : c = d := by
  simp only [isCapitalCode, Bool.or_eq_false_iff, Bool.and_eq_false_iff, decide_eq_false_iff_not,
    beq_eq_false_iff_ne] at small
  simp only [isSmallCode, Bool.and_eq_true, Bool.not_eq_true', List.contains_eq_mem, List.mem_cons,
    List.not_mem_nil, or_false, decide_eq_false_iff_not, not_or, List.all_eq_true, Bool.or_eq_true,
    decide_eq_true_eq] at letter
  obtain ⟨⟨nonzero, noSigma⟩, runs⟩ := letter
  rw [foldChar, lowerChar, if_neg (by simpa using small.2), List.map_singleton, List.singleton_inj] at eq
  unfold evenSigma at eq
  split at eq
  · exact absurd (congrArg Char.toNat eq).symm noSigma
  have code := toNat_ofNat eq nonzero
  obtain same | ⟨r, listed, first, last, image⟩ := shiftCase_cases lowerRuns c.toNat
  · exact Char.toNat_inj.mp (same.symm.trans code)
  · have listed : r ∈ (⟨0x41, 0x5A, 1, 32⟩ : CaseRun) :: lowerRuns.tail := listed
    obtain rfl | listed := List.mem_cons.mp listed
    · dsimp only at first last
      omega
    · have := runs r listed
      omega

end Retouch.Text
