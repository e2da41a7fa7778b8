import Retouch.Json.Reader
import Retouch.Json.Writer

/-!
# Strings are read back

A JSON string is read as the text it was written from (`read?_stringText`). A control character without a
letter of its own is written by its code; such codes are put off until a character follows that is no code,
so the induction is over the codes that wait as well (`readString_escaped`).
-/

namespace Retouch.Json

open Retouch.Text

/-! ### Codes -/

/-- Codes below the surrogates are the characters that have them. -/
theorem ofUnits_small {units : List Nat} (small : ∀ u ∈ units, u < 0x20) :
    ofUnits units = units.map Char.ofNat := by
  have plain : ∀ u < 0x20, (decide (0xD800 ≤ u) && decide (u < 0xE000)) = false := by decide
  have apart : ∀ u < 0x20, ∀ v, (decide (0xD800 ≤ u) && decide (u < 0xDC00) && decide (0xDC00 ≤ v) &&
      decide (v < 0xE000)) = false := by
    intro u low v
    have : ¬ 0xD800 ≤ u := by omega
    simp [this]
  fun_induction ofUnits units with
  | case1 => rfl
  | case2 u => simp [plain u (small u (by simp))]
  | case3 u v rest surrogates => simp [apart u (small u (by simp)) v] at surrogates
  | case4 u v rest _ ih =>
    rw [ih fun w mem => small w (List.mem_cons_of_mem _ mem)]
    simp [plain u (small u (by simp))]

/-- The code of a control character, as it is written, is read as that code. -/
theorem exists_hexText {n : Nat} (low : n < 0x20) :
    ∃ a b c d, hexText 4 n = [a, b, c, d] ∧ hexValue4? a b c d = some n := by
  have read : ∀ n < 0x20, hexText 4 n = ['0', '0', hexDigit (n / 16), hexDigit (n % 16)] ∧
      hexValue4? '0' '0' (hexDigit (n / 16)) (hexDigit (n % 16)) = some n := by decide
  obtain ⟨shape, value⟩ := read n low
  exact ⟨_, _, _, _, shape, value⟩

/-! ### Escapes -/

/-- How a control character is written: by a letter, or by its code. -/
theorem escapeControl_cases (c : Char) :
    (∃ letter, escapeControl c = ['\\', letter] ∧ letter ≠ 'u' ∧ unescape? letter = some c) ∨
      escapeControl c = '\\' :: 'u' :: hexText 4 c.toNat := by
  have code : ∀ n, c.toNat = n → Char.ofNat n = c := by
    rintro n rfl
    exact Char.ofNat_toNat c
  unfold escapeControl
  split
  · exact .inl ⟨'n', rfl, by decide, by simp_all [unescape?]⟩
  split
  · exact .inl ⟨'r', rfl, by decide, by simp_all [unescape?]⟩
  split
  · exact .inl ⟨'t', rfl, by decide, by simp_all [unescape?]⟩
  split
  · rename_i eight
    exact .inl ⟨'b', rfl, by decide, congrArg some (code 8 (eq_of_beq eight))⟩
  split
  · rename_i twelve
    exact .inl ⟨'f', rfl, by decide, congrArg some (code 12 (eq_of_beq twelve))⟩
  · exact .inr rfl

/-- How a character is written: behind a backslash by itself or by a letter, by its code, or as it is. -/
theorem escapeChar_cases (c : Char) :
    (∃ letter, escapeChar c = ['\\', letter] ∧ letter ≠ 'u' ∧ unescape? letter = some c) ∨
      (escapeChar c = '\\' :: 'u' :: hexText 4 c.toNat ∧ c.toNat < 0x20) ∨
        (escapeChar c = [c] ∧ c ≠ '"' ∧ c ≠ '\\' ∧ 0x20 ≤ c.toNat) := by
  unfold escapeChar
  split
  · rename_i covered
    have covered : c = '"' ∨ c = '\\' := by simpa using covered
    rcases covered with rfl | rfl <;> exact .inl ⟨_, rfl, by decide, rfl⟩
  rename_i plain
  split
  · rename_i control
    rcases escapeControl_cases c with letter | code
    · exact .inl letter
    · exact .inr (.inl ⟨code, control⟩)
  · rename_i high
    simp only [Bool.or_eq_true, beq_iff_eq, not_or] at plain
    exact .inr (.inr ⟨rfl, plain.1, plain.2, Nat.le_of_not_lt high⟩)

/-! ### Reading -/

/-- What is written behind a backslash is the character it stands for, and the codes that wait come first. -/
theorem readString_letter {letter c : Char} (units : List Nat) (other : letter ≠ 'u')
    (value : unescape? letter = some c) (t : List Char) :
    readString units ('\\' :: letter :: t) =
      (readString [] t).map fun (cs, r) => (ofUnits units.reverse ++ c :: cs, r) := by
  rw [readString]
  · rw [value]
  · rintro _ _ _ _ _ rfl
    exact absurd rfl other

/-- A character that is written as it is. -/
theorem readString_plain {c : Char} (units : List Nat) (noQuote : c ≠ '"') (noCover : c ≠ '\\')
    (high : 0x20 ≤ c.toNat) (t : List Char) :
    readString units (c :: t) =
      (readString [] t).map fun (cs, r) => (ofUnits units.reverse ++ c :: cs, r) := by
  rw [readString]
  · rw [if_neg (Nat.not_lt.mpr high)]
  · exact noQuote
  · rintro _ _ _ _ _ rfl
    exact absurd rfl noCover
  · rintro _ _ rfl
    exact absurd rfl noCover

/-- A string is read up to its closing quote, behind any codes that wait. -/
theorem readString_escaped {units : List Nat} (small : ∀ u ∈ units, u < 0x20) (t rest : List Char) :
    readString units (t.flatMap escapeChar ++ '"' :: rest) = some (ofUnits units.reverse ++ t, rest) := by
  induction t generalizing units with
  | nil => simp [readString]
  | cons c t ih =>
    have none : ∀ u ∈ ([] : List Nat), u < 0x20 := nofun
    rw [List.flatMap_cons, List.append_assoc]
    rcases escapeChar_cases c with ⟨letter, shape, other, value⟩ | ⟨shape, low⟩ | ⟨shape, noQuote, noCover, high⟩
    · rw [shape, List.cons_append, List.singleton_append, readString_letter units other value, ih none]
      rfl
    · -- the code waits with the others
      obtain ⟨w, x, y, z, digits, value⟩ := exists_hexText low
      have small' : ∀ u ∈ c.toNat :: units, u < 0x20 := List.forall_mem_cons.mpr ⟨low, small⟩
      have joined : ofUnits (c.toNat :: units).reverse = ofUnits units.reverse ++ [c] := by
        rw [ofUnits_small fun u mem => small' u (List.mem_reverse.mp mem),
          ofUnits_small fun u mem => small u (List.mem_reverse.mp mem)]
        simp [Char.ofNat_toNat]
      rw [shape, digits]
      simp only [List.cons_append, List.nil_append]
      rw [readString, value]
      dsimp only
      rw [ih small', joined, List.append_assoc, List.singleton_append]
    · rw [shape, List.singleton_append, readString_plain units noQuote noCover high, ih none]
      rfl

/-- **Strings are read back**: a text that is written as a JSON string is what a reader takes it for. -/
theorem read?_stringText (t : List Char) : read? (stringText t) = some (.str (String.ofList t)) := by
  have start : skipSpace (stringText t) = '"' :: (t.flatMap escapeChar ++ ['"']) := rfl
  have none : ∀ u ∈ ([] : List Nat), u < 0x20 := nofun
  have string := readString_escaped none t []
  unfold read?
  rw [start, readValue, string]
  simp [ofUnits, skipSpace]

end Retouch.Json
