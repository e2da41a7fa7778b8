import Mathlib.Data.List.Basic
import Retouch.Page.Element
import Retouch.Proofs.Text

/-!
# The two names of a property

A property has a name in scripts, where every word but the first starts with a capital, and one in style
texts, where hyphens stand between the words. The preview puts a hyphen before every capital (`Page.cssName`),
a saved style text only before a capital that follows a small letter or a figure (`kebabCase`). Whichever of
its capitals a name is parted at (`Hyphenated`), both ways back give the name that it was. The two names are
the same exactly if no capital comes first or behind another one (`IsHumped`), so not for a property with the
mark of a vendor in front.
-/

namespace Retouch.Style

open Retouch.Text Retouch.Page

/-! ### Characters of names -/

/-- A character of a name in a script: an ASCII letter or figure. -/
def isScriptChar (c : Char) : Bool := isCapital c || isSmall c || isFigure c

/-- What holds of every capital is settled by their codes. -/
theorem forall_isCapital {P : Char → Prop} (all : ∀ n ∈ List.range' 65 26, P (Char.ofNat n)) {c : Char}
    (capital : isCapital c = true) : P c := by
  have listed : c.toNat ∈ List.range' 65 26 := by
    simp only [isCapital, Bool.and_eq_true, decide_eq_true_eq] at capital
    exact List.mem_range'_1.mpr ⟨capital.1, Nat.lt_succ_of_le capital.2⟩
  exact Char.ofNat_toNat c ▸ all _ listed

/-- What a capital becomes behind a hyphen, and that it is a capital again. -/
theorem swapCase_of_isCapital {c : Char} : isCapital c = true →
    lowerChar c = [swapCase c] ∧ isSmall (swapCase c) = true ∧ swapCase (swapCase c) = c ∧
      upperChar (swapCase c) = [c] :=
  forall_isCapital (P := fun c => lowerChar c = [swapCase c] ∧ isSmall (swapCase c) = true ∧
    swapCase (swapCase c) = c ∧ upperChar (swapCase c) = [c]) (by decide +kernel)

/-- The code of a character of a name lies among those of figures and letters. -/
theorem isScriptChar_code {c : Char} (is : isScriptChar c = true) : 48 ≤ c.toNat ∧ c.toNat ≤ 122 := by
  simp only [isScriptChar, isCapital, isSmall, isFigure, Bool.or_eq_true, Bool.and_eq_true,
    decide_eq_true_eq] at is
  obtain (⟨low, high⟩ | ⟨low, high⟩) | ⟨low, high⟩ := is <;>
    exact ⟨Nat.le_trans (by decide) (show _ ≤ c.toNat from low), Nat.le_trans (show c.toNat ≤ _ from high) (by decide)⟩

/-- It is no blank and no hyphen. -/
theorem isScriptChar_apart {c : Char} (is : isScriptChar c = true) : isBlank c = false ∧ c ≠ '-' := by
  obtain ⟨low, high⟩ := isScriptChar_code is
  constructor
  · refine Bool.eq_false_iff.mpr fun blank => ?_
    have apart : ∀ n ∈ blankCodes, ¬(48 ≤ n ∧ n ≤ 122) := by decide
    exact apart _ (List.contains_iff_mem.mp blank) ⟨low, high⟩
  · rintro rfl
    exact absurd low (by decide)

theorem isScriptChar_of_isCapital {c : Char} (capital : isCapital c = true) : isScriptChar c = true := by
  rw [isScriptChar, capital, Bool.true_or, Bool.true_or]

theorem isScriptChar_of_isSmall {c : Char} (small : isSmall c = true) : isScriptChar c = true := by
  rw [isScriptChar, small, Bool.or_true, Bool.true_or]

/-! ### Hyphens put in and taken out -/

/-- The second text is the first one with a hyphen and the small letter for some of its capitals. -/
inductive Hyphenated : Text → Text → Prop where
  /-- The text is over. -/
  | nil : Hyphenated [] []
  /-- A character stays as it is. -/
  | kept {c : Char} {name t : Text} : isScriptChar c = true → Hyphenated name t → Hyphenated (c :: name) (c :: t)
  /-- A capital starts a word. -/
  | parted {c : Char} {name t : Text} : isCapital c = true → Hyphenated name t →
      Hyphenated (c :: name) ('-' :: swapCase c :: t)

section Hyphens

variable {name t : Text}

/-- The preview parts a name at all its capitals, -/
theorem hyphenated_cssName (chars : ∀ c ∈ name, isScriptChar c = true) : Hyphenated name (cssName name) := by
  induction name with
  | nil => exact .nil
  | cons c name ih =>
    obtain ⟨here, later⟩ := List.forall_mem_cons.mp chars
    rw [cssName, List.flatMap_cons]
    split
    · exact .parted ‹_› (ih later)
    · exact .kept here (ih later)

/-- and a style text at some of them. -/
theorem hyphenated_kebabAfter (chars : ∀ c ∈ name, isScriptChar c = true) (before : Option Char) :
    Hyphenated name (kebabAfter before name) := by
  induction name generalizing before with
  | nil => exact .nil
  | cons c name ih =>
    obtain ⟨here, later⟩ := List.forall_mem_cons.mp chars
    rw [kebabAfter]
    split
    · rename_i starts
      have capital := (Bool.and_eq_true_iff.mp starts).1
      rw [(swapCase_of_isCapital capital).1]
      exact .parted capital (ih later _)
    · exact .kept here (ih later _)

/-- No blanks come in with the hyphens. -/
theorem Hyphenated.noBlank (parts : Hyphenated name t) : ∀ c ∈ t, isBlank c = false := by
  induction parts with
  | nil => exact List.forall_mem_nil _
  | kept here _ ih => exact List.forall_mem_cons.mpr ⟨(isScriptChar_apart here).1, ih⟩
  | parted capital _ ih =>
    have small := isScriptChar_of_isSmall (swapCase_of_isCapital capital).2.1
    exact List.forall_mem_cons.mpr ⟨rfl, List.forall_mem_cons.mpr ⟨(isScriptChar_apart small).1, ih⟩⟩

theorem scriptName_cons {c : Char} (noHyphen : c ≠ '-') (t : Text) :
    scriptName (c :: t) = c :: scriptName t := by
  cases t with
  | nil => rfl
  | cons d t => rw [scriptName]; exact fun eq => absurd eq noHyphen

/-- Where a name is parted, a script has the capital again. -/
theorem Hyphenated.scriptName_eq (parts : Hyphenated name t) : scriptName t = name := by
  induction parts with
  | nil => rfl
  | kept here _ ih => rw [scriptName_cons (isScriptChar_apart here).2, ih]
  | parted capital _ ih =>
    obtain ⟨-, small, back, -⟩ := swapCase_of_isCapital capital
    rw [scriptName, if_pos small, back, ih]

/-- The pieces between the hyphens make the name, each but the first with a capital. -/
theorem Hyphenated.splitOn_eq (parts : Hyphenated name t) :
    ∃ head pieces, splitOn '-' t = head :: pieces ∧ head ++ (pieces.map capitalize).flatten = name := by
  have cut {c : Char} (noHyphen : c ≠ '-') {t head : Text} {pieces : List Text}
      (split : splitOn '-' t = head :: pieces) : splitOn '-' (c :: t) = (c :: head) :: pieces := by
    rw [splitOn, splitFrom, if_neg (by simpa using noHyphen), splitFrom_eq, split]
    rfl
  induction parts with
  | nil => exact ⟨[], [], rfl, rfl⟩
  | kept here _ ih =>
    obtain ⟨head, pieces, split, whole⟩ := ih
    exact ⟨_, pieces, cut (isScriptChar_apart here).2 split, congrArg _ whole⟩
  | @parted c name t capital _ ih =>
    obtain ⟨head, pieces, split, whole⟩ := ih
    obtain ⟨-, small, -, back⟩ := swapCase_of_isCapital capital
    refine ⟨[], (swapCase c :: head) :: pieces, ?_, ?_⟩
    · rw [splitOn, splitFrom, if_pos (beq_self_eq_true _), List.reverse_nil]
      exact congrArg _ (cut (isScriptChar_apart (isScriptChar_of_isSmall small)).2 split)
    · rw [List.map_cons, List.flatten_cons, capitalize, back, ← whole]
      rfl

/-- Where a name is parted, a style object has the capital again. -/
theorem Hyphenated.camelCase_eq (parts : Hyphenated name t) : camelCase t = name := by
  obtain ⟨head, pieces, split, whole⟩ := parts.splitOn_eq
  rw [camelCase, strip_eq_self parts.noBlank, split, ← whole]

end Hyphens

/-! ### The same name -/

/-- The second character is no capital, or the first one is a small letter or a figure. -/
def StartsWord (b c : Char) : Prop := isCapital c = true → (isSmall b || isFigure b) = true

/-- Every capital of a name follows a small letter or a figure. -/
def IsHumped (name : Text) : Prop := (∀ c ∈ name.head?, isCapital c = false) ∧ name.IsChain StartsWord

instance : DecidableRel StartsWord := fun b c =>
  inferInstanceAs (Decidable (isCapital c = true → (isSmall b || isFigure b) = true))

instance (name : Text) : Decidable (IsHumped name) :=
  inferInstanceAs (Decidable ((∀ c ∈ name.head?, isCapital c = false) ∧ name.IsChain StartsWord))

section Same

variable {name : Text}

/-- A capital is no hyphen. -/
theorem isCapital_ne {c : Char} (capital : isCapital c = true) : c ≠ '-' :=
  (isScriptChar_apart (isScriptChar_of_isCapital capital)).2

/-- Behind a character, both names go on alike if every capital follows a small letter or a figure. -/
theorem kebabAfter_eq_cssName_iff (b : Char) (name : Text) :
    kebabAfter (some b) name = cssName name ↔ (b :: name).IsChain StartsWord := by
  induction name generalizing b with
  | nil => simp [kebabAfter, cssName]
  | cons c name ih =>
    rw [List.isChain_cons_cons, ← ih c, StartsWord, kebabAfter, cssName, List.flatMap_cons, Option.any_some]
    by_cases capital : isCapital c = true
    · by_cases follows : (isSmall b || isFigure b) = true
      · simp [capital, follows, (swapCase_of_isCapital capital).1, cssName]
      · simp [capital, follows, isCapital_ne capital]
    · simp [capital, cssName]

/-- **The two names of a property**: for every name of ASCII letters and figures, that of the preview and
that of a saved style text are the same exactly if every capital follows a small letter or a figure. Either of
the two is turned back into the name by either way back. -/
theorem cssName_eq_kebabCase_iff (chars : ∀ c ∈ name, isScriptChar c = true) :
    (cssName name = kebabCase name ↔ IsHumped name) ∧
      scriptName (cssName name) = name ∧ camelCase (kebabCase name) = name ∧
        scriptName (kebabCase name) = name ∧ camelCase (cssName name) = name := by
  have strips : strip name = name := strip_eq_self fun c mem => (isScriptChar_apart (chars c mem)).1
  have shown := hyphenated_cssName chars
  have saved : Hyphenated name (kebabCase name) := by
    rw [kebabCase, strips]
    exact hyphenated_kebabAfter chars none
  refine ⟨?_, shown.scriptName_eq, saved.camelCase_eq, saved.scriptName_eq, shown.camelCase_eq⟩
  rw [kebabCase, strips, IsHumped, eq_comm]
  cases name with
  | nil => simp [kebabAfter, cssName]
  | cons c name =>
    rw [← kebabAfter_eq_cssName_iff, kebabAfter, cssName, List.flatMap_cons]
    by_cases capital : isCapital c = true
    · simp [capital, isCapital_ne capital]
    · simp [capital, cssName]

/-- A name with a figure is the same in the preview and in a style text. -/
theorem cssName_eq_kebabCase_grid :
    cssName "gridArea2Start".toList = kebabCase "gridArea2Start".toList ∧
      scriptName "grid-area2-start".toList = "gridArea2Start".toList := by
  obtain ⟨same, back, -⟩ := @cssName_eq_kebabCase_iff "gridArea2Start".toList (by decide)
  exact ⟨same.mpr (by decide), back⟩

/-- A style text does not have the hyphen in front that marks the property of a vendor. -/
theorem webkit_loses_hyphen :
    (∀ c ∈ "WebkitX".toList, isScriptChar c = true) ∧
      cssName "WebkitX".toList = "-webkit-x".toList ∧ kebabCase "WebkitX".toList = "Webkit-x".toList := by
  decide

end Same

end Retouch.Style
