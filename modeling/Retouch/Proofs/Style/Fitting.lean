import Retouch.Proofs.Binary64.Sign
import Retouch.Proofs.Style.Compact
import Retouch.Proofs.Style.Opening

/-!
# Classes fit their rules

The class that is written for a value of a property is one of the rule of the property
(`tokenFor_fits`): the table that names a step has only names that are read again, and what stands in
square brackets is taken for what it was before. It is one token that may be edited, so it is replaced
by the next change. From this follows what a change does to a class text (`applyToClasses_places`).
-/

namespace Retouch.Style

open Retouch.Text

/-! ### Sound tokens -/

/-- A character that names in classes have. -/
def isTokenChar (c : Char) : Bool := !(isBlank c || ['{', '!', ':', '['].contains c)

/-- A token that is read as one, and may be edited. -/
structure Sound (token : Text) : Prop where
  /-- There is something. -/
  some : token ≠ []
  /-- There are no blanks. -/
  noBlank : ∀ c ∈ token, isBlank c = false
  /-- There is no segment. -/
  noBrace : '{' ∉ token
  /-- There is no variant. -/
  noVariant : isVariant token = false

/-- A text of such characters. -/
def NameText (t : Text) : Prop := ∀ c ∈ t, isTokenChar c = true

instance (t : Text) : Decidable (NameText t) :=
  inferInstanceAs (Decidable (∀ c ∈ t, isTokenChar c = true))

section Sound

variable {t u token : Text} {c : Char}

theorem isTokenChar_iff : isTokenChar c = true ↔
    isBlank c = false ∧ c ≠ '{' ∧ c ≠ '!' ∧ c ≠ ':' ∧ c ≠ '[' := by
  simp [isTokenChar]

theorem NameText.append (left : NameText t) (right : NameText u) : NameText (t ++ u) :=
  fun c mem => (List.mem_append.mp mem).elim (left c) (right c)

/-- A segment starts with a brace. -/
theorem not_isOpaque (noBrace : '{' ∉ t) : isOpaque t = false :=
  Bool.eq_false_iff.mpr fun segment => noBrace (mem_of_has segment '{' (by decide))

theorem Sound.editable (sound : Sound token) : isEditable token = true := by
  rw [isEditable, not_isOpaque sound.noBrace, sound.noVariant]
  rfl

theorem Sound.whole (sound : Sound token) : ClassList.Whole token :=
  ClassList.whole_of_clear sound.some sound.noBlank (not_isOpaque sound.noBrace)

/-- A name, perhaps with a bracket behind, has no variant. -/
theorem not_isVariant (name : NameText t) (some : t ≠ []) (bracket : ∀ c ∈ u.head?, c = '[') :
    isVariant (t ++ u) = false := by
  obtain ⟨c, t, rfl⟩ := List.exists_cons_of_ne_nil some
  have before : ((c :: t) ++ u).takeWhile (· != '[') = c :: t := by
    refine Markup.takeWhile_run (fun d mem => ?_) fun d head => by simp [bracket d head]
    simpa using (isTokenChar_iff.mp (name d mem)).2.2.2.2
  have noColon : (c :: t).contains ':' = false := by
    rw [List.contains_eq_mem, decide_eq_false_iff_not]
    exact fun mem => (isTokenChar_iff.mp (name _ mem)).2.2.2.1 rfl
  unfold isVariant
  split
  · rename_i eq
    rw [List.cons_append, List.cons.injEq] at eq
    exact absurd eq.1 (isTokenChar_iff.mp (name c (List.mem_cons_self ..))).2.2.1
  · rw [before, noColon]

/-- A name is a sound token. -/
theorem sound_of_name (name : NameText t) (some : t ≠ []) : Sound t where
  some := some
  noBlank c mem := (isTokenChar_iff.mp (name c mem)).1
  noBrace mem := (isTokenChar_iff.mp (name _ mem)).2.1 rfl
  noVariant := by simpa using not_isVariant name some (u := []) nofun

/-- A name with a value in square brackets is a sound token. -/
theorem sound_of_bracket {inner : Text} (name : NameText t) (some : t ≠ [])
    (clean : ∀ c ∈ inner, isBlank c = false ∧ c ≠ '{') :
    Sound (t ++ '[' :: (inner ++ [']'])) where
  some := by simp
  noBlank c mem := by
    simp only [List.mem_append, List.mem_cons, List.not_mem_nil, or_false] at mem
    obtain mem | rfl | mem | rfl := mem
    · exact (isTokenChar_iff.mp (name c mem)).1
    · decide
    · exact (clean c mem).1
    · decide
  noBrace mem := by
    simp only [List.mem_append, List.mem_cons, List.not_mem_nil, or_false] at mem
    obtain mem | mem | mem | mem := mem
    · exact (isTokenChar_iff.mp (name _ mem)).2.1 rfl
    · exact absurd mem (by decide)
    · exact (clean _ mem).2 rfl
    · exact absurd mem (by decide)
  noVariant := not_isVariant name some (by simp)

end Sound

/-! ### Classes read again -/

section Reading

variable {stem : String} {p : Text → Bool} {inner : Text}

/-- What is behind a stem and a hyphen is found there. -/
theorem stemThen_append {rest : Text} (ends : rest.getLast? ≠ some '\n') (p : Text → Bool) :
    stemThen stem p (stem.toList ++ '-' :: rest) = p rest := by
  have last : (stem.toList ++ '-' :: rest).getLast? ≠ some '\n' := by
    cases rest with
    | nil => simp
    | cons c rest => simpa using ends
  have after : afterStem? stem (stem.toList ++ '-' :: rest) = some rest := by
    have eq := dropHead?_append (stem.toList ++ ['-']) rest
    rwa [List.append_assoc, List.singleton_append] at eq
  rw [stemThen, dropFinalBreak_of_getLast? last, after, Option.any_some]

theorem stemThen_named {step : String} (ends : step.toList.getLast? ≠ some '\n') (p : Text → Bool) :
    stemThen stem p (named stem step) = p step.toList := stemThen_append ends p

/-- A value that holds something and no line feed is found in its brackets. -/
theorem bracketBody?_append (some : inner ≠ []) (noBreak : '\n' ∉ inner) :
    bracketBody? ('[' :: (inner ++ [']'])) = .some inner := by
  have filled : inner.isEmpty = false := by simpa using some
  rw [bracketBody?, List.getLast?_concat, List.dropLast_concat, filled]
  simp [noBreak]

theorem isBracketed_append (some : inner ≠ []) (noBreak : '\n' ∉ inner) :
    isBracketed ('[' :: (inner ++ [']'])) = true := by
  rw [isBracketed, bracketBody?_append some noBreak]
  rfl

/-- The arbitrary value of a class with one. -/
theorem arbitraryBody?_append (stems : stem ≠ "") (some : inner ≠ []) (noBreak : '\n' ∉ inner) :
    arbitraryBody? stem (stem.toList ++ '-' :: '[' :: (inner ++ [']'])) = .some inner := by
  have last : (stem.toList ++ '-' :: '[' :: (inner ++ [']'])).getLast? ≠ .some '\n' := by
    rw [← List.cons_append, ← List.cons_append, ← List.append_assoc, List.getLast?_concat]
    decide
  have after : afterStem? stem (stem.toList ++ '-' :: '[' :: (inner ++ [']'])) =
      .some ('[' :: (inner ++ [']'])) := by
    have eq := dropHead?_append (stem.toList ++ ['-']) ('[' :: (inner ++ [']']))
    rwa [List.append_assoc, List.singleton_append] at eq
  rw [arbitraryBody?, if_neg (by simpa using stems), dropFinalBreak_of_getLast? last, after,
    Option.bind_some, bracketBody?_append some noBreak]

theorem bodyThen_append (stems : stem ≠ "") (some : inner ≠ []) (noBreak : '\n' ∉ inner)
    (p : Text → Bool) : bodyThen stem p (stem.toList ++ '-' :: '[' :: (inner ++ [']'])) = p inner := by
  rw [bodyThen, arbitraryBody?_append stems some noBreak, Option.any_some]

end Reading

/-! ### Values in brackets -/

/-- A value that may stand in square brackets. -/
structure IsInner (inner : Text) : Prop where
  /-- There is something. -/
  some : inner ≠ []
  /-- There are no blanks and no braces. -/
  clean : ∀ c ∈ inner, isBlank c = false ∧ c ≠ '{'

theorem IsInner.noBreak {inner : Text} (is : IsInner inner) : '\n' ∉ inner := fun mem =>
  absurd (is.clean _ mem).1 (by decide)

theorem compact_ne_nil {raw : Text} (some : raw ≠ []) : compact raw ≠ [] := fun none => by
  have same := compact_eq_self (noMark_of_compact (none ▸ (nofun : ∀ c ∈ ([] : Text), _)))
  exact some (same.symm.trans none)

/-- **Values in brackets**: what is put in square brackets, and that it may stand there. -/
theorem arbitrary_eq_ok {stem value hint token : Text} {property : String} (stems : stem ≠ [])
    (hints : ∀ c ∈ hint, isBlank c = false ∧ c ≠ '{')
    (done : arbitrary stem value property hint = .ok token) :
    token = stem ++ '-' :: '[' :: (hint ++ compact (strip value) ++ [']']) ∧
      IsInner (hint ++ compact (strip value)) := by
  unfold arbitrary at done
  dsimp only at done
  split at done
  · cases done
  rename_i some
  split at done
  · cases done
  rename_i safe
  have some : strip value ≠ [] := by simpa using some
  have noBrace : ∀ c ∈ strip value, c ≠ '{' := by
    rintro c mem rfl
    exact safe (List.any_eq_true.mpr ⟨_, mem, by decide⟩)
  rw [if_neg (by simpa using stems)] at done
  cases done
  refine ⟨rfl, by simp [compact_ne_nil some], fun c mem => ?_⟩
  obtain mem | mem := List.mem_append.mp mem
  · exact hints c mem
  · refine ⟨not_isBlank_of_mem_compact mem, ?_⟩
    exact squeezeFrom_all (by decide) (tightenCommas_all (by decide) noBrace) false c mem

/-! ### Classes of each shape -/

/-- A token that is a class of a rule, and sound. -/
structure Fits (rule : Rule) (token : Text) : Prop extends Sound token where
  /-- It is one of the rule. -/
  belongs : belongs rule token = true

/-- It is found for the rule. -/
theorem Fits.hit {rule : Rule} {token : Text} (fits : Fits rule token) :
    isHit (Style.belongs rule) token = true := by
  rw [isHit, fits.toSound.editable, fits.belongs, Bool.and_self]

/-- What the tables put into classes. -/
structure TablesFit : Prop where
  /-- Stems are names. -/
  stem : ∀ rule ∈ rules, NameText rule.stem.toList
  /-- Colours that are given by a keyword have names of colours. -/
  colorKeyword : ∀ e ∈ colorKeywords, NameText e.2.toList ∧ '/' ∉ e.2.toList ∧ isColorName e.2.toList = true
  family : ∀ row ∈ palette, NameText row.1.toList ∧ '/' ∉ row.1.toList
  shade : ∀ shade ∈ shades, NameText shade.toList ∧ '/' ∉ shade.toList ∧
    isNumber shade.toList = true ∧ (shade.toList.length == 2 || shade.toList.length == 3) = true

theorem tables_fit : TablesFit := by constructor <;> decide +kernel

/-- What a shape takes behind the stem and the hyphen, colours and images apart. -/
def takes : Shape → Text → Bool
  | .fontSize => isFontSizeName
  | .fontWeight =>
    isOneOf ["thin", "extralight", "light", "normal", "medium", "semibold", "bold", "extrabold", "black"]
  | .spacing => fun t => isStep t || isOneOf ["px", "auto"] t || isBracketed t
  | .borderWidth => isOneOf ["0", "2", "4", "8"]
  | .radius => fun t => isOneOf ["none", "sm", "md", "lg", "xl", "2xl", "3xl", "full"] t || isBracketed t
  | .lineHeight => fun t =>
    isOneOf ["none", "tight", "snug", "normal", "relaxed", "loose"] t || isNumber t || isBracketed t
  | .letterSpacing => fun t =>
    isOneOf ["tighter", "tight", "normal", "wide", "wider", "widest"] t || isBracketed t
  | .opacity => fun t => isNumber t || isBracketed t
  | .size => fun t =>
    isStep t || isOneOf ["px", "auto", "full", "screen", "min", "max", "fit"] t || isFraction t || isBracketed t
  | _ => fun _ => false

/-- The shapes that take any value in brackets. -/
def bracketShapes : List Shape := [.spacing, .radius, .lineHeight, .letterSpacing, .opacity, .size]

section Fitting

variable {rule : Rule} {value token hint inner : Text} {property : String}

theorem takes_of_isBracketed {shape : Shape} (any : shape ∈ bracketShapes) {t : Text}
    (bracketed : isBracketed t = true) : takes shape t = true := by
  simp only [bracketShapes, List.mem_cons, List.not_mem_nil, or_false] at any
  obtain rfl | rfl | rfl | rfl | rfl | rfl := any <;> simp [takes, bracketed]

/-- A stem with a value that the shape takes is a class of the rule. -/
theorem belongs_of_takes (listed : rule ∈ rules) (holds : stemThen rule.stem (takes rule.shape) token = true) :
    belongs rule token = true := by
  obtain ⟨fixed, -, -⟩ := TablesOpen.stem_of_mem tables_open rule listed
  have nothing : ∀ stem token, stemThen stem (fun _ => false) token = false := fun stem token => by
    rw [stemThen]
    cases afterStem? stem (dropFinalBreak token) <;> rfl
  cases shape : rule.shape with (rw [shape] at holds fixed; rw [belongs, shape]; dsimp only [takes] at holds ⊢)
  | fontSize => rw [fixed "text" rfl, holds, Bool.true_or]
  | fontWeight => rw [fixed "font" rfl, holds, Bool.true_or]
  | spacing => rw [holds, Bool.true_or]
  | borderWidth => rw [holds, Bool.or_true, Bool.true_or]
  | radius => rw [holds, Bool.or_true]
  | lineHeight => rw [fixed "leading" rfl, holds]
  | letterSpacing => rw [fixed "tracking" rfl, holds]
  | opacity => rw [fixed "opacity" rfl, holds]
  | size => exact holds
  | _ => exact absurd holds (by simp [nothing])

/-- A stem with a named step is sound. -/
theorem sound_named {stem step : String} (stems : NameText stem.toList) (steps : NameText step.toList) :
    Sound (named stem step) :=
  sound_of_name (stems.append (List.forall_mem_cons.mpr ⟨by decide, steps⟩)) (by simp [named])

/-- A stem with a value in brackets is sound. -/
theorem sound_arbitrary (listed : rule ∈ rules) (is : IsInner inner) :
    Sound (rule.stem.toList ++ '-' :: '[' :: (inner ++ [']'])) := by
  have sound := sound_of_bracket (t := rule.stem.toList ++ ['-'])
    ((TablesFit.stem tables_fit rule listed).append (by decide)) (by simp) is.clean
  rwa [List.append_assoc, List.singleton_append] at sound

/-- Names end with no line feed. -/
theorem NameText.getLast? {t : Text} (name : NameText t) : t.getLast? ≠ some '\n' := fun last =>
  absurd (name _ (List.mem_of_getLast? last)) (by decide)

/-- A named step that the shape takes. -/
theorem fits_named {step : String} (listed : rule ∈ rules) (steps : NameText step.toList)
    (accepts : takes rule.shape step.toList = true) : Fits rule (named rule.stem step) :=
  ⟨sound_named (TablesFit.stem tables_fit rule listed) steps,
    belongs_of_takes listed (by rw [stemThen_named steps.getLast?, accepts])⟩

/-- A step from a table of names that a rule reads again. -/
theorem fits_step {table : List (String × String)} {key step : String} (listed : rule ∈ rules)
    (steps : ∀ e ∈ table, NameText e.2.toList ∧ takes rule.shape e.2.toList = true)
    (found : table.lookup key = some step) : Fits rule (named rule.stem step) := by
  obtain ⟨name, accepts⟩ := steps _ (Table.mem_of_get? found)
  exact fits_named listed name accepts

/-- A value in brackets, where the rule takes any. -/
theorem fits_arbitrary (listed : rule ∈ rules) (stems : rule.stem ≠ "")
    (any : rule.shape ∈ bracketShapes)
    (done : arbitrary rule.stem.toList value property [] = .ok token) : Fits rule token := by
  obtain ⟨rfl, inner⟩ := arbitrary_eq_ok (by simpa using stems) (fun _ mem => by cases mem) done
  refine ⟨sound_arbitrary listed inner, belongs_of_takes listed ?_⟩
  rw [stemThen_append (by rw [← List.cons_append, List.getLast?_concat]; decide)]
  exact takes_of_isBracketed any (isBracketed_append inner.some inner.noBreak)

/-- A named step or a value in brackets, where the rule takes any. -/
theorem fits_steppedToken {table : List (String × String)} (listed : rule ∈ rules)
    (stems : rule.stem ≠ "") (any : rule.shape ∈ bracketShapes)
    (steps : ∀ e ∈ table, NameText e.2.toList ∧ takes rule.shape e.2.toList = true)
    (done : steppedToken table rule.stem value property = .ok token) : Fits rule token := by
  unfold steppedToken at done
  split at done
  · rename_i step found
    cases done
    exact fits_step listed steps found
  · exact fits_arbitrary listed stems any done

/-- A whole word of a table. -/
theorem fits_wordToken {table : List (String × String)}
    (asks : ∀ token, isEntry table token = true → Style.belongs rule token = true)
    (words : ∀ e ∈ table, NameText e.2.toList ∧ e.2 ≠ "")
    (done : wordToken table value property = .ok token) : Fits rule token := by
  unfold wordToken at done
  split at done
  · rename_i word found
    cases done
    have mem := Table.mem_of_get? found
    obtain ⟨name, some⟩ := words _ mem
    refine ⟨sound_of_name name (by simpa using some), asks _ ?_⟩
    rw [isEntry, String.ofList_toList, List.contains_iff_mem]
    exact List.mem_map_of_mem (f := (·.2)) mem
  · cases done

/-- A length in brackets. A value that does not read like one says that it is. -/
theorem fits_lengthToken (listed : rule ∈ rules) (stems : rule.stem ≠ "")
    (asks : ∀ token, bodyThen rule.stem isLength token = true → Style.belongs rule token = true)
    (done : lengthToken rule.stem value property = .ok token) : Fits rule token := by
  unfold lengthToken at done
  dsimp only at done
  obtain ⟨rfl, inner⟩ := arbitrary_eq_ok (by simpa using stems) (by split <;> decide) done
  refine ⟨sound_arbitrary listed inner, asks _ ?_⟩
  rw [bodyThen_append stems inner.some inner.noBreak]
  split
  · rename_i length
    rw [List.nil_append, isLength_compact, length]
  · exact isLength_lengthHint fun c mem => not_isBlank_of_mem_compact mem

/-! ### Colours -/

/-- A name of a colour without a slash is a class of the colour of a stem. -/
theorem fits_colorName {name : String} (listed : rule ∈ rules) (shape : rule.shape = .color)
    (word : NameText name.toList) (noSlash : '/' ∉ name.toList) (color : isColorName name.toList = true) :
    Fits rule (named rule.stem name) := by
  refine ⟨sound_named (TablesFit.stem tables_fit rule listed) word, ?_⟩
  have whole : withoutFade name.toList = name.toList := by
    unfold withoutFade
    split
    · rename_i body tail parts
      exact absurd (by rw [fadeParts?_eq_some parts]; simp) noSlash
    · rfl
  have found : stemThen rule.stem (fun rest => isColorName (withoutFade rest)) (named rule.stem name) = true := by
    rw [stemThen_named word.getLast?, whole, color]
  unfold stemThen at found
  rw [Style.belongs, shape]
  dsimp only
  rw [isColorToken, found, Bool.true_or]

/-- The names of the palette are names of colours. -/
theorem palette_name {name : String} (mem : name ∈ namedColors.map (·.2)) :
    NameText name.toList ∧ '/' ∉ name.toList ∧ isColorName name.toList = true := by
  obtain ⟨entry, inPalette, rfl⟩ := List.mem_map.mp mem
  obtain ⟨row, listed, mem⟩ := List.mem_flatMap.mp inPalette
  obtain ⟨shade, one, eq⟩ := List.mem_map.mp (List.of_mem_zip mem).2
  obtain ⟨family, noSlash⟩ := TablesFit.family tables_fit row listed
  obtain ⟨step, noSlash', number, length⟩ := TablesFit.shade tables_fit shade one
  have spelled : entry.2.toList = (row.1.toList ++ ['-']) ++ shade.toList := by
    rw [← eq, String.toList_append, String.toList_append]
    rfl
  rw [spelled]
  refine ⟨(family.append (by decide)).append step, ?_, ?_⟩
  · simp only [List.mem_append, List.mem_singleton, not_or]
    exact ⟨⟨noSlash, by decide⟩, noSlash'⟩
  · rw [isColorName, Bool.or_eq_true]
    refine .inr (List.any_eq_true.mpr ⟨row.1, List.mem_map_of_mem (f := (·.1)) listed, ?_⟩)
    rw [dropHead?_append]
    dsimp only
    rw [number, length, Bool.true_and]

/-- A colour. One that reads like a length says that it is none; a background that looks like an image is
left out. -/
theorem fits_colorToken (listed : rule ∈ rules) (stems : rule.stem ≠ "") (shape : rule.shape = .color)
    (noImage : rule.stem = "bg" → looksLikeImage value = false)
    (done : colorToken rule.stem value property = .ok token) : Fits rule token := by
  unfold colorToken at done
  dsimp only at done
  split at done
  · rename_i word found
    cases done
    obtain ⟨name, noSlash, color⟩ := TablesFit.colorKeyword tables_fit _ (Table.mem_of_get? found)
    exact fits_colorName listed shape name noSlash color
  split at done
  · rename_i word found
    cases done
    obtain ⟨name, noSlash, color⟩ := palette_name (List.mem_map_of_mem (f := (·.2)) (Table.mem_of_get? found))
    exact fits_colorName listed shape name noSlash color
  -- the value in brackets
  generalize spelled : (if startsWith (normalizeColor value) ['#'] then normalizeColor value else strip value) =
    literal at done
  have noImage' : rule.stem = "bg" → looksLikeImage literal = false := by
    intro bg
    rw [← spelled]
    split
    · rename_i hash
      exact looksLikeImage_normalizeColor (noImage bg) hash
    · rw [looksLikeImage_eq, strip_strip, ← looksLikeImage_eq]
      exact noImage bg
  obtain ⟨rfl, inner⟩ := arbitrary_eq_ok (by simpa using stems) (by split <;> decide) done
  refine ⟨sound_arbitrary listed inner, ?_⟩
  have filled : ∀ c ∈ compact (strip literal), isBlank c = false := fun c mem => not_isBlank_of_mem_compact mem
  have color : isColorBody rule.stem
      ((if isLength literal then "color:".toList else []) ++ compact (strip literal)) = true := by
    have image : rule.stem = "bg" → looksLikeImage (compact (strip literal)) = false := fun bg => by
      rw [looksLikeImage_compact, noImage' bg]
    rw [isColorBody, Bool.and_eq_true, Bool.not_eq_true', Bool.not_eq_true', Bool.and_eq_false_imp, beq_iff_eq]
    split
    · exact ⟨fun bg => looksLikeImage_colorHint filled (image bg), isLength_colorHint filled⟩
    · rename_i length
      rw [List.nil_append, isLength_compact]
      exact ⟨image, by simpa using length⟩
  rw [Style.belongs, shape]
  dsimp only
  rw [isColorToken, arbitraryBody?_append stems inner.some inner.noBreak]
  dsimp only
  rw [color, Bool.or_true]

/-! ### Opacity and images -/

/-- An ASCII digit is a decimal one, and one for names. -/
theorem isDecimal_of_isDigit {c : Char} (digit : c.isDigit = true) :
    isDecimal c = true ∧ isTokenChar c = true := by
  have all : ∀ n ∈ List.range' 48 10, isDecimal (Char.ofNat n) = true ∧ isTokenChar (Char.ofNat n) = true := by
    decide
  have bounds : 48 ≤ c.toNat ∧ c.toNat ≤ 57 := Char.isDigit_iff_toNat.mp digit
  exact Char.ofNat_toNat c ▸ all _ (List.mem_range'_1.mpr (by omega))

/-- A natural number is a number among the names of steps. -/
theorem natural_name {n : Int} (nonneg : 0 ≤ n) :
    NameText (toString n).toList ∧ isNumber (toString n).toList = true := by
  obtain ⟨m, rfl⟩ := Int.eq_ofNat_of_zero_le nonneg
  have digits : ∀ c ∈ (toString (m : Int)).toList, c.isDigit = true := by
    intro c mem
    have mem : c ∈ (Nat.repr m).toList := mem
    rw [Nat.repr, String.toList_ofList] at mem
    exact Nat.isDigit_of_mem_toDigits (by decide) (by decide) mem
  have some : (toString (m : Int)).toList ≠ [] := by
    show (Nat.repr m).toList ≠ []
    rw [Nat.repr, String.toList_ofList]
    exact Nat.toDigits_ne_nil
  refine ⟨fun c mem => (isDecimal_of_isDigit (digits c mem)).2, ?_⟩
  rw [isNumber, Bool.and_eq_true, List.all_eq_true]
  exact ⟨by simpa using some, fun c mem => (isDecimal_of_isDigit (digits c mem)).1⟩

/-- An opacity. That it is not below nothing keeps a minus sign out of the name. -/
theorem fits_opacityToken (listed : rule ∈ rules) (stem : rule.stem = "opacity")
    (shape : rule.shape = .opacity)
    (done : opacityToken value property = .ok token) : Fits rule token := by
  have stems : rule.stem ≠ "" := by rw [stem]; decide
  unfold opacityToken at done
  rw [← stem] at done
  dsimp only at done
  split at done
  · cases done
  rename_i amount _
  split at done
  · cases done
  rename_i inRange
  split at done
  · rename_i n whole
    split at done
    · cases done
      have nonneg : 0 ≤ n := by
        simp only [Bool.not_eq_true, Bool.not_eq_false', Bool.and_eq_true, decide_eq_true_eq] at inRange
        have hundred : Binary64.Unsigned (100 : Float) := Binary64.unsigned_ofNat 100
        exact Binary64.truncate?_nonneg (((Binary64.unsigned_of_nonneg inRange.1).mul hundred).roundPlaces 4) whole
      obtain ⟨name, number⟩ := natural_name nonneg
      exact fits_named listed name (by rw [shape]; exact Bool.or_eq_true_iff.mpr (.inl number))
    · exact fits_arbitrary listed stems (by rw [shape]; decide) done
  · exact fits_arbitrary listed stems (by rw [shape]; decide) done

/-- An image: an address or a gradient in brackets, or none. -/
theorem fits_imageToken (listed : rule ∈ rules) (stem : rule.stem = "bg")
    (shape : rule.shape = .backgroundImage) (done : imageToken value property = .ok token) :
    Fits rule token := by
  have stems : rule.stem ≠ "" := by rw [stem]; decide
  have inBrackets : ∀ {v : Text}, looksLikeImage v = true →
      arbitrary "bg".toList v property [] = .ok token → Fits rule token := by
    intro v image done
    rw [← stem] at done
    obtain ⟨rfl, inner⟩ := arbitrary_eq_ok (by simpa using stems) (fun _ mem => by cases mem) done
    refine ⟨sound_arbitrary listed inner, ?_⟩
    have body := bodyThen_append stems inner.some inner.noBreak looksLikeImage
    rw [List.nil_append, looksLikeImage_compact, image] at body
    rw [Style.belongs, shape]
    dsimp only
    rw [List.nil_append, body, Bool.or_true]
  unfold imageToken at done
  dsimp only at done
  split at done
  · cases done
    refine ⟨sound_of_name (by decide) (by decide), ?_⟩
    rw [Style.belongs, shape]
    rfl
  split at done
  · refine inBrackets ?_ done
    rw [looksLikeImage_eq, strip_of_ends (by simp; decide)
      (by rw [List.getLast?_concat]; simp; decide), imageForm, List.append_assoc, fold_append,
      fold_formWord (by simp [formWords])]
    rfl
  · split at done
    · rename_i gradient
      refine inBrackets ?_ done
      rw [looksLikeImage, strip_strip, gradient, Bool.or_true]
    · cases done

/-- A stem alone, or with a name that a table puts behind it after a hyphen. -/
theorem fits_suffix (names : List String) {table : List (String × String)} {key suffix : String}
    (listed : rule ∈ rules) (stems : rule.stem ≠ "") (shape : rule.shape ∈ [Shape.borderWidth, .radius])
    (steps : ∀ step ∈ names, NameText step.toList ∧ takes rule.shape step.toList = true)
    (spelled : ∀ e ∈ table, e.2 = "" ∨ ∃ step ∈ names, e.2 = "-" ++ step)
    (found : table.lookup key = some suffix) : Fits rule (rule.stem ++ suffix).toList := by
  have stem := TablesFit.stem tables_fit rule listed
  obtain rfl | ⟨step, mem, rfl⟩ := spelled _ (Table.mem_of_get? found)
  · rw [String.append_empty]
    have alone : isStem rule.stem rule.stem.toList = true := by
      rw [isStem, dropFinalBreak_of_getLast? stem.getLast?, beq_self_eq_true]
    refine ⟨sound_of_name stem (by simpa using stems), ?_⟩
    simp only [List.mem_cons, List.not_mem_nil, or_false] at shape
    obtain shape | shape := shape
    · rw [Style.belongs, shape]
      dsimp only
      rw [alone, Bool.true_or, Bool.true_or]
    · rw [Style.belongs, shape]
      dsimp only
      rw [alone, Bool.true_or]
  · obtain ⟨name, accepts⟩ := steps step mem
    have eq : (rule.stem ++ ("-" ++ step)).toList = named rule.stem step := by
      rw [String.toList_append, String.toList_append]
      rfl
    rw [eq]
    exact fits_named listed name accepts

/-- A digit of any kind may stand in brackets. -/
theorem digit_clean {c : Char} (digit : isDigit c = true) : isBlank c = false ∧ c ≠ '{' := by
  refine ⟨Bool.eq_false_iff.mpr fun blank => ?_, ?_⟩
  · rw [(isMark_apart (isMark_of_isBlank blank)).2.2.1] at digit
    cases digit
  · rintro rfl
    exact absurd digit (by decide)

/-- A weight in brackets. -/
theorem fits_weight (listed : rule ∈ rules) (stems : rule.stem ≠ "") (shape : rule.shape = .fontWeight)
    (digits : allDigits value = true) : Fits rule (rule.stem.toList ++ ['-', '['] ++ value ++ [']']) := by
  have chars := digits
  simp only [allDigits, Bool.and_eq_true, Bool.not_eq_true', List.isEmpty_eq_false_iff, List.all_eq_true]
    at chars
  have inner : IsInner value := ⟨chars.1, fun c mem => digit_clean (chars.2 c mem)⟩
  have eq : rule.stem.toList ++ ['-', '['] ++ value ++ [']'] =
      rule.stem.toList ++ '-' :: '[' :: (value ++ [']']) := by simp
  rw [eq]
  refine ⟨sound_arbitrary listed inner, ?_⟩
  rw [Style.belongs, shape]
  dsimp only
  rw [bodyThen_append stems inner.some inner.noBreak, digits, Bool.or_true]

/-! ### All shapes -/

/-- **Classes fit their rules**: the class for a value of a property is one of the rule of the property,
and a token that may be edited. Only an image that is given for the colour of a background is written as
what it is. -/
theorem tokenFor_fits (listed : rule ∈ rules)
    (noImage : rule.stem = "bg" → rule.shape = .color → looksLikeImage value = false)
    (done : tokenFor rule value property = .ok token) : Fits rule token := by
  obtain ⟨fixed, -, stems⟩ := TablesOpen.stem_of_mem tables_open rule listed
  unfold tokenFor at done
  cases shape : rule.shape with (rw [shape] at done fixed stems noImage; dsimp only at done)
  | color => exact fits_colorToken listed (stems (by decide)) shape (fun bg => noImage bg rfl) done
  | fontSize =>
    rw [fixed "text" rfl] at done
    split at done
    · rename_i step found
      cases done
      exact fits_step listed (by rw [shape]; decide) found
    · refine fits_lengthToken listed (stems (by decide)) (fun token holds => ?_) done
      rw [Style.belongs, shape]
      dsimp only
      rw [holds, Bool.or_true]
  | fontWeight =>
    rw [fixed "font" rfl] at done
    split at done
    · rename_i step found
      cases done
      exact fits_step listed (by rw [shape]; decide) found
    split at done
    · rename_i digits
      cases done
      have eq : "font-[".toList = rule.stem.toList ++ ['-', '['] := by rw [← fixed "font" rfl]; rfl
      rw [eq]
      exact fits_weight listed (stems (by decide)) shape digits
    · cases done
  | textAlign =>
    exact fits_wordToken (fun token entry => by rw [Style.belongs, shape]; exact entry) (by decide) done
  | spacing =>
    split at done
    · cases done
      exact fits_named listed (by decide) (by rw [shape]; decide)
    · exact fits_steppedToken listed (stems (by decide)) (by rw [shape]; decide)
        (by rw [shape]; decide) done
  | borderWidth =>
    split at done
    · rename_i suffix found
      cases done
      exact fits_suffix widthSteps listed (stems (by decide)) (by rw [shape]; decide)
        (by rw [shape]; decide) (by decide) found
    · refine fits_lengthToken listed (stems (by decide)) (fun token holds => ?_) done
      rw [Style.belongs, shape]
      dsimp only
      rw [holds, Bool.or_true]
  | radius =>
    split at done
    · rename_i suffix found
      cases done
      exact fits_suffix radiusSteps listed
        (stems (by decide)) (by rw [shape]; decide) (by rw [shape]; decide +kernel) (by decide +kernel) found
    · exact fits_arbitrary listed (stems (by decide)) (by rw [shape]; decide) done
  | borderStyle =>
    exact fits_wordToken (fun token entry => by rw [Style.belongs, shape]; exact entry) (by decide +kernel) done
  | display =>
    refine fits_wordToken (fun token entry => ?_) (by decide +kernel) done
    rw [Style.belongs, shape]
    dsimp only
    rw [entry, Bool.true_or]
  | textTransform =>
    exact fits_wordToken (fun token entry => by rw [Style.belongs, shape]; exact entry) (by decide) done
  | textDecoration =>
    exact fits_wordToken (fun token entry => by rw [Style.belongs, shape]; exact entry) (by decide +kernel) done
  | lineHeight =>
    rw [fixed "leading" rfl] at done
    exact fits_steppedToken listed (stems (by decide)) (by rw [shape]; decide)
      (by rw [shape]; decide +kernel) done
  | letterSpacing =>
    rw [fixed "tracking" rfl] at done
    exact fits_steppedToken listed (stems (by decide)) (by rw [shape]; decide)
      (by rw [shape]; decide +kernel) done
  | opacity => exact fits_opacityToken listed (fixed "opacity" rfl).symm shape done
  | size =>
    exact fits_steppedToken listed (stems (by decide)) (by rw [shape]; decide)
      (by rw [shape]; decide +kernel) done
  | backgroundImage => exact fits_imageToken listed (fixed "bg" rfl).symm shape done

end Fitting

/-! ### Changes to class texts -/

/-- The class that a change puts into a class text. -/
theorem applyToClasses_eq_ok {classes classes' token : Text} {change : StyleChange}
    (done : applyToClasses classes change = .ok (classes', token)) :
    ∃ rule, ruleFor? change.property = some rule ∧ classes' = replaceTokens classes (belongs rule) token ∧
      (change.removes = true ∧ token = [] ∨
        change.removes = false ∧ tokenFor rule change.newValue.toList change.property = .ok token) := by
  unfold applyToClasses at done
  split at done
  · rename_i removes
    split at done
    · cases done
    · rename_i rule known
      cases done
      exact ⟨rule, known, rfl, .inl ⟨removes, rfl⟩⟩
  · rename_i keeps
    obtain ⟨utility, found, eq⟩ := map_eq_ok.mp done
    cases eq
    unfold utilityFor at found
    split at found
    · cases found
    · rename_i rule known
      obtain ⟨token, written, rfl⟩ := map_eq_ok.mp found
      exact ⟨rule, known, rfl, .inr ⟨by simpa using keeps, written⟩⟩

/-- A change of the same property and value writes the same class into every class text. -/
theorem applyToClasses_of_tokenFor {change : StyleChange} {rule : Rule} {token : Text}
    (known : ruleFor? change.property = some rule) (keeps : change.removes = false)
    (written : tokenFor rule change.newValue.toList change.property = .ok token) (classes : Text) :
    applyToClasses classes change = .ok (replaceTokens classes (belongs rule) token, token) := by
  rw [applyToClasses, if_neg (by simp [keeps]), utilityFor, known]
  dsimp only
  rw [written]
  rfl

/-- The editable tokens that a rule accepts. -/
theorem filter_editableTokens (classes : Text) (hits : Text → Bool) :
    (editableTokens classes).filter hits = (tokenTexts classes).filter (isHit hits) := by
  rw [editableTokens, List.filter_filter]
  exact List.filter_congr fun u _ => Bool.and_comm ..

/-- **What a change does to a class text**: without a value, the editable classes of the property are gone
and all other tokens stay in order. With one, its class stands where the first of them stood, or last;
it is the only one of them and the one that is found for the property, the other tokens stay in
order, and to make the change again changes nothing. For this every segment has to close, so that something
can be put behind it, and the colour of a background must not be an image. -/
theorem applyToClasses_places {classes classes' token : Text} {change : StyleChange}
    (done : applyToClasses classes change = .ok (classes', token)) :
    ∃ rule, ruleFor? change.property = some rule ∧
      (change.removes = true → token = [] ∧
        tokenTexts classes' = (tokenTexts classes).filter (!isHit (belongs rule) ·)) ∧
      (change.removes = false → segmentsClose classes = true →
        (rule = ⟨"bg", .color⟩ → looksLikeImage change.newValue.toList = false) →
          tokenTexts classes' = withToken (belongs rule) token (tokenTexts classes) ∧
          (editableTokens classes').filter (belongs rule) = [token] ∧
          tokenOf? classes' change.property = some token ∧
          applyToClasses classes' change = .ok (classes', token)) := by
  obtain ⟨rule, known, rfl, ⟨removes, rfl⟩ | ⟨keeps, written⟩⟩ := applyToClasses_eq_ok done
  · refine ⟨rule, known, fun _ => ⟨rfl, tokenTexts_dropTokens classes _⟩, fun keeps => ?_⟩
    cases removes.symm.trans keeps
  · refine ⟨rule, known, fun removes => ?_, fun _ closed noImage => ?_⟩
    · cases removes.symm.trans keeps
    have image (bg : rule.stem = "bg") (color : rule.shape = .color) : rule = ⟨"bg", .color⟩ := by
      rw [← bg, ← color]
    have fits := tokenFor_fits (mem_rules known) (fun bg color => noImage (image bg color)) written
    have whole := fits.toSound.whole
    have placed : tokenTexts (replaceTokens classes (belongs rule) token) =
        withToken (belongs rule) token (tokenTexts classes) :=
      tokenTexts_replaceTokens whole (.inl (whole_of_segmentsClose closed))
    have only : (editableTokens (replaceTokens classes (belongs rule) token)).filter (belongs rule) = [token] := by
      rw [filter_editableTokens, placed, filter_withToken fits.hit]
    refine ⟨placed, only, ?_, ?_⟩
    · rw [tokenOf?, known, Option.bind_some, findToken?, ← List.head?_filter, only]
      rfl
    · rw [applyToClasses_of_tokenFor known keeps written, replaceTokens_again closed whole fits.hit]

/-- A colour takes the place of the colour before it, between a length and a segment. -/
theorem color_takes_its_place :
    ∃ rule, ruleFor? "color" = some rule ∧
      tokenTexts "p-4 text-[#123456] ${active} hover:text-lg".toList =
        withToken (belongs rule) "text-[#123456]".toList
          (tokenTexts "p-4 text-red-500 ${active} hover:text-lg".toList) ∧
      tokenOf? "p-4 text-[#123456] ${active} hover:text-lg".toList "color" = some "text-[#123456]".toList := by
  have done : applyToClasses "p-4 text-red-500 ${active} hover:text-lg".toList ⟨"color", "", "#123456", false⟩ =
      .ok ("p-4 text-[#123456] ${active} hover:text-lg".toList, "text-[#123456]".toList) := by decide
  obtain ⟨rule, known, -, sets⟩ := applyToClasses_places done
  obtain ⟨placed, -, found, -⟩ := sets (by decide) (by decide) fun _ => by decide +kernel
  exact ⟨rule, known, placed, found⟩

end Retouch.Style
