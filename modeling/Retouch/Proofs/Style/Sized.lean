import Retouch.Proofs.Style.Fitting

/-!
# Sizes with a line height

A class for the size of a text may have a line height behind a slash. The named sizes are read with one, and
those in square brackets without one only (`belongs_modified`). So a change of the size leaves one class that
sets it exactly if no size in brackets stands there with a line height: such a one is not hit, and stays beside
the new class. This holds also where a segment does not close; what is put behind it is lost in it, while the
tokens before it stay (`mem_editableTokens_of_unhit`).
-/

namespace Retouch.Style

open Retouch.Text Retouch.Markup

/-- The rule of the sizes of texts. -/
def sizeRule : Rule := ⟨"text", .fontSize⟩

/-- The characters of a line height behind a slash. -/
def isModifierChar (c : Char) : Bool := isWord c || c == '.'

/-- The token is a size, or it is one with a line height behind it. -/
def setsSize (token : Text) : Bool :=
  belongs sizeRule token ||
    match splitOn '/' token with
    | [size, height] => belongs sizeRule size && (!height.isEmpty && height.all isModifierChar)
    | _ => false

/-! ### Sizes read with a line height -/

section Modified

variable {t u m : Text}

/-- A size starts with the stem, whatever its shape. -/
theorem exists_stem_of_belongs (size : belongs sizeRule t = true) :
    ∃ rest, t = "text".toList ++ '-' :: rest := by
  have starts : ∃ rest, dropFinalBreak t = "text".toList ++ '-' :: rest := by
    obtain named | body := Bool.or_eq_true_iff.mp size
    · obtain ⟨rest, eq, -⟩ := stemThen_eq_true named
      exact ⟨rest, eq⟩
    · obtain ⟨inner, found, -⟩ := (Option.any_eq_true _ _).mp body
      exact ⟨_, arbitraryBody?_eq_some found⟩
  obtain ⟨rest, eq⟩ := starts
  obtain whole | whole := eq_dropFinalBreak t
  · exact ⟨rest, whole.trans eq⟩
  · exact ⟨rest ++ ['\n'], by rw [whole, eq, List.append_assoc, List.cons_append]⟩

/-- A line height ends with neither a bracket nor a line feed. -/
theorem getLast?_modified (chars : ∀ c ∈ m, isModifierChar c = true) {c : Char} (slash : c ≠ '/')
    (other : isModifierChar c = false) (t : Text) : (t ++ '/' :: m).getLast? ≠ some c := by
  intro last
  rw [List.getLast?_append_cons] at last
  obtain rfl | mem := List.mem_cons.mp (List.mem_of_getLast? last)
  · exact slash rfl
  · rw [chars c mem] at other
    cases other

/-- **Sizes with a line height**: one is read if it has a name, and there is a line height. -/
theorem belongs_modified (plain : '/' ∉ u) (chars : ∀ c ∈ m, isModifierChar c = true) :
    belongs sizeRule ("text".toList ++ '-' :: (u ++ '/' :: m)) = (isOneOf fontSizeNames u && !m.isEmpty) := by
  have noSlash : '/' ∉ m := fun mem => absurd (chars _ mem) (by decide)
  have parts : splitOn '/' (u ++ '/' :: m) = [u, m] := by
    rw [splitOn, splitFrom_append plain, splitFrom_eq_self noSlash]
    rfl
  have height : m.all (fun c => isWord c || c == '.') = true := List.all_eq_true.mpr chars
  have noBreak := getLast?_modified chars (c := '\n') (by decide) (by decide)
  have noBody : arbitraryBody? "text" ("text".toList ++ '-' :: (u ++ '/' :: m)) = none := by
    refine Option.eq_none_iff_forall_ne_some.mpr fun body found => ?_
    have eq := arbitraryBody?_eq_some found
    rw [← List.cons_append, ← List.append_assoc, dropFinalBreak_of_getLast? (noBreak _)] at eq
    have last := getLast?_modified chars (c := ']') (by decide) (by decide) ("text".toList ++ '-' :: u)
    rw [eq, ← List.cons_append, ← List.cons_append, ← List.append_assoc, List.getLast?_concat] at last
    exact last rfl
  rw [belongs]
  dsimp only [sizeRule]
  rw [stemThen_append (noBreak _), bodyThen, noBody, Option.any_none, Bool.or_false, isFontSizeName, parts]
  dsimp only
  rw [height, Bool.and_true]

/-- A size without a slash is read with a line height exactly if it has a name. -/
theorem belongs_modified_iff (plain : '/' ∉ t) (size : belongs sizeRule t = true)
    (chars : ∀ c ∈ m, isModifierChar c = true) :
    belongs sizeRule (t ++ '/' :: m) = true ↔ m ≠ [] ∧ ∃ name ∈ fontSizeNames, t = named "text" name := by
  obtain ⟨u, rfl⟩ := exists_stem_of_belongs size
  have plain : '/' ∉ u := fun mem => plain (by simp [mem])
  have name : isOneOf fontSizeNames u = true ↔
      ∃ name ∈ fontSizeNames, "text".toList ++ '-' :: u = named "text" name := by
    constructor
    · intro one
      obtain ⟨name, listed, rfl⟩ := List.mem_map.mp (isOneOf_eq_true one)
      exact ⟨name, listed, rfl⟩
    · rintro ⟨name, listed, eq⟩
      obtain rfl := (List.cons.inj (List.append_cancel_left eq)).2
      rwa [isOneOf, String.ofList_toList, List.contains_iff_mem]
  rw [List.append_assoc, List.cons_append, belongs_modified plain chars, Bool.and_eq_true, name, and_comm]
  simp

end Modified

/-! ### Something put behind a class text -/

section Behind

variable {classes ext : Text} {c : Char}

/-- What stands behind a blank leaves the tokens before it alone, but for one whose segment does not close. -/
theorem ClassList.mem_readFrom_append (blank : isBlank c = true) (ext : Text) {skip : Nat} {lead word t : Text}
    (within : skip ≤ t.length) {token : ClassToken} (mem : token ∈ (readFrom skip lead word t).tokens)
    (clear : isOpaque token.text = false) : token ∈ (readFrom skip lead word (t ++ c :: ext)).tokens := by
  fun_induction readFrom skip lead word t with
  | case1 => cases mem
  | case2 skip lead word some =>
    obtain rfl : skip = 0 := Nat.le_zero.mp within
    rw [List.nil_append, readFrom_blank blank (by simpa using some)]
    exact List.mem_cons.mpr (.inl (List.mem_singleton.mp mem))
  | case3 skip lead word d rest ih => exact ih (Nat.le_of_succ_le_succ within) mem
  | case4 lead word d rest blank' empty ih =>
    rw [List.cons_append, readFrom, if_pos blank', if_pos empty]
    · exact ih (Nat.zero_le _) mem
    · rintro inside rfl
      exact absurd blank' (by decide)
  | case5 lead word d rest blank' some ih =>
    rw [List.cons_append, readFrom_blank blank' (by simpa using some)]
    obtain rfl | mem := List.mem_cons.mp mem
    · exact List.mem_cons_self ..
    · exact List.mem_cons_of_mem _ (ih (Nat.zero_le _) mem)
  | case6 lead word inside n closed noBlank ih =>
    have le := (closeFrom_take proper_block closed []).1
    have again := (closeFrom_take proper_block closed (inside.drop n ++ c :: ext)).2
    rw [← List.append_assoc, List.take_append_drop] at again
    rw [List.cons_append, List.cons_append, readFrom, if_neg noBlank]
    simp only [again]
    exact ih (by simpa using le) mem
  | case7 lead word inside unclosed noBlank =>
    -- the segment is part of the token
    obtain rfl := List.mem_singleton.mp mem
    cases ClassList.isOpaque_append clear
  | case8 lead word d rest noBlank noBlock ih =>
    rw [List.cons_append, readFrom_char (by simpa using noBlank)]
    · exact ih (Nat.zero_le _) mem
    · intro dollar brace
      cases rest with
      | nil => exact head?_ne_brace (by simpa using blank) brace
      | cons e rest =>
        obtain rfl := Option.some.inj brace
        exact noBlock rest dollar rfl

/-- Tokens that may be edited stay when something is put behind them after a blank. -/
theorem mem_editableTokens_append (blank : isBlank c = true) {u : Text} (mem : u ∈ editableTokens classes) :
    u ∈ editableTokens (classes ++ c :: ext) := by
  obtain ⟨inTexts, editable⟩ := List.mem_filter.mp mem
  obtain ⟨token, listed, rfl⟩ := List.mem_map.mp inTexts
  have clear : isOpaque token.text = false := by
    rw [isEditable, Bool.and_eq_true, Bool.not_eq_true'] at editable
    exact editable.1
  have stays := ClassList.mem_readFrom_append blank ext (Nat.zero_le _) listed clear
  exact List.mem_filter.mpr ⟨List.mem_map_of_mem stays, editable⟩

/-- A new token that comes last leaves those before it alone, even if it is lost in a segment that does not
close. -/
theorem mem_editableTokens_of_unhit {hits : Text → Bool} {new u : Text} (some : new ≠ [])
    (others : ∀ u ∈ tokenTexts classes, isHit hits u = false) (mem : u ∈ editableTokens classes) :
    u ∈ editableTokens (replaceTokens classes hits new) := by
  let bare : ClassList := ⟨(ClassList.read classes).tokens, []⟩
  have same : editableTokens bare.text = editableTokens classes := by
    rw [editableTokens, ClassList.read_text (ClassList.tidy_read classes).1.bare]
    rfl
  have filled : (ClassList.read classes).tokens.isEmpty = false := by
    obtain ⟨token, listed, -⟩ := List.mem_map.mp (List.mem_filter.mp mem).1
    exact List.isEmpty_eq_false_iff.mpr (List.ne_nil_of_mem listed)
  have result : replaceTokens classes hits new =
      bare.text ++ ' ' :: (new ++ (ClassList.read classes).trailing) := by
    rw [replaceTokens, replaceFrom_last some (List.forall_mem_map.mp others), filled]
    simp [bare, ClassList.text]
  rw [result]
  exact mem_editableTokens_append (by decide) (same ▸ mem)

end Behind

/-! ### Changes of the size -/

section Changes

variable {classes classes' token : Text} {change : StyleChange}

theorem setsSize_of_belongs {u : Text} (size : belongs sizeRule u = true) : setsSize u = true := by
  rw [setsSize, size, Bool.true_or]

/-- What is said of hits is said of tokens that may be edited. -/
theorem forall_isHit_iff {wide hits : Text → Bool} :
    (∀ u ∈ tokenTexts classes, isHit wide u = true → isHit hits u = true) ↔
      ∀ u ∈ editableTokens classes, wide u = true → hits u = true := by
  simp only [isHit, Bool.and_eq_true]
  constructor
  · intro all u mem is
    obtain ⟨inTexts, editable⟩ := List.mem_filter.mp mem
    exact (all u inTexts ⟨editable, is⟩).2
  · rintro all u mem ⟨editable, is⟩
    exact ⟨editable, all u (List.mem_filter.mpr ⟨mem, editable⟩) is⟩

/-- A change of the size leaves its class as the only one that sets it exactly if every one before is read as a
size. -/
theorem filter_setsSize_iff (known : ruleFor? change.property = some sizeRule) (keeps : change.removes = false)
    (done : applyToClasses classes change = .ok (classes', token))
    (sized : ∃ u ∈ editableTokens classes, setsSize u = true) :
    (editableTokens classes').filter setsSize = [token] ↔
      ∀ u ∈ editableTokens classes, setsSize u = true → belongs sizeRule u = true := by
  obtain ⟨rule, known', rfl, ⟨removes, -⟩ | ⟨-, written⟩⟩ := applyToClasses_eq_ok done
  · cases removes.symm.trans keeps
  obtain rfl := Option.some.inj (known.symm.trans known')
  have fits := tokenFor_fits (mem_rules known) (fun stem => absurd stem (by decide)) written
  by_cases room : ∃ u ∈ tokenTexts classes, isHit (belongs sizeRule) u = true
  · have wider : ∀ u, isHit (belongs sizeRule) u = true → isHit setsSize u = true := fun u hit => by
      obtain ⟨editable, size⟩ := Bool.and_eq_true_iff.mp hit
      rw [isHit, editable, setsSize_of_belongs size, Bool.and_self]
    rw [filter_editableTokens, tokenTexts_replaceTokens fits.toSound.whole (.inr room),
      filter_withToken_iff wider fits.hit]
    exact forall_isHit_iff
  · have others : ∀ u ∈ tokenTexts classes, isHit (belongs sizeRule) u = false := fun u mem =>
      Bool.eq_false_iff.mpr fun hit => room ⟨u, mem, hit⟩
    obtain ⟨u, mem, sets⟩ := sized
    -- the size that is not read as one stays, and the new one is read as one
    have unread : belongs sizeRule u ≠ true := fun size => room ⟨u, (List.mem_filter.mp mem).1, by
      rw [isHit, (List.mem_filter.mp mem).2, size, Bool.and_self]⟩
    refine iff_of_false (fun only => unread ?_) fun all => unread (all u mem sets)
    have stays : u ∈ [token] :=
      only ▸ List.mem_filter.mpr ⟨mem_editableTokens_of_unhit fits.toSound.some others mem, sets⟩
    rw [List.mem_singleton.mp stays, fits.belongs]

end Changes

/-- **Sizes with a line height**: a size without a slash is still read as one with a line height behind it exactly
if it has a name, and there is one; with a size in square brackets it is not. So a class text with tokens that
set the size has just the new one after a change of the size exactly if each of them was read as a size. -/
theorem size_read_with_height (t m classes classes' token : Text) (change : StyleChange) :
    ruleFor? "fontSize" = some sizeRule ∧
      ('/' ∉ t → belongs sizeRule t = true → (∀ c ∈ m, isModifierChar c = true) →
        (belongs sizeRule (t ++ '/' :: m) = true ↔
          m ≠ [] ∧ ∃ name ∈ fontSizeNames, t = named "text" name)) ∧
      (ruleFor? change.property = some sizeRule → change.removes = false →
        applyToClasses classes change = .ok (classes', token) →
        (∃ u ∈ editableTokens classes, setsSize u = true) →
        ((editableTokens classes').filter setsSize = [token] ↔
          ∀ u ∈ editableTokens classes, setsSize u = true → belongs sizeRule u = true)) :=
  ⟨by decide, fun plain size chars => belongs_modified_iff plain size chars,
    fun known keeps done sized => filter_setsSize_iff known keeps done sized⟩

/-- A named size is read with its line height, and the new size takes its place. -/
theorem size_read_with_height_large :
    let large := "text-lg/7".toList
    let small := "text-sm".toList
    let change : StyleChange := ⟨"fontSize", "", "14px", false⟩
    belongs sizeRule large = true ∧
      applyToClasses ("p-4 ".toList ++ large) change = .ok ("p-4 ".toList ++ small, small) ∧
      (editableTokens ("p-4 ".toList ++ small)).filter setsSize = [small] := by
  intro large small change
  obtain ⟨known, read, sets⟩ :=
    size_read_with_height "text-lg".toList ['7'] ("p-4 ".toList ++ large) ("p-4 ".toList ++ small) small change
  have size : belongs sizeRule large = true :=
    (read (by decide) (by decide +kernel) (by decide)).mpr ⟨by decide, "lg", by decide, by decide⟩
  have done : applyToClasses ("p-4 ".toList ++ large) change = .ok ("p-4 ".toList ++ small, small) := by
    decide +kernel
  have before : editableTokens ("p-4 ".toList ++ large) = ["p-4".toList, large] := by decide +kernel
  refine ⟨size, done, (sets known (by decide) done ⟨large, ?_, by decide +kernel⟩).mpr ?_⟩
  · rw [before]
    decide
  · rw [before]
    decide +kernel

/-- A size in brackets is not read with its line height, and stays beside the new size. -/
theorem size_in_brackets_stays :
    let size := "text-[18px]".toList
    let change : StyleChange := ⟨"fontSize", "", "14px", false⟩
    belongs sizeRule size = true ∧ belongs sizeRule (size ++ "/7".toList) = false ∧
      applyToClasses (size ++ "/7".toList) change = .ok ("text-[18px]/7 text-sm".toList, "text-sm".toList) ∧
      (editableTokens "text-[18px]/7 text-sm".toList).filter setsSize =
        ["text-[18px]/7".toList, "text-sm".toList] := by
  decide +kernel

end Retouch.Style
