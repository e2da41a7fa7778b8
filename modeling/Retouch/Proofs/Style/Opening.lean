import Mathlib.Data.List.Infix
import Retouch.Proofs.Style.Replaced
import Retouch.Proofs.Table
import Retouch.Proofs.Text
import Retouch.Style.Membership
import Retouch.Style.Utility

/-!
# What utility classes open with

A class of a rule is a whole word, or it starts with the stem of the rule, a hyphen and something by
which the values of the shape open (`whole_or_opens`): a name, or the square bracket of an arbitrary
value that is of the shape.
-/

namespace Retouch.Style

open Retouch.Text

/-- The rules there are. -/
def rules : List Rule := propertyRules.map (·.2)

/-- The rule of a property is one of those there are. -/
theorem mem_rules {property : String} {rule : Rule} (known : ruleFor? property = some rule) :
    rule ∈ rules := List.mem_map_of_mem (f := (·.2)) (Table.mem_of_get? known)

/-! ### Values of classes -/

theorem afterStem?_eq_some {stem : String} {t rest : Text} (found : afterStem? stem t = some rest) :
    t = stem.toList ++ '-' :: rest := by
  rw [dropHead?_eq_some found, List.append_assoc, List.singleton_append]

theorem stemThen_eq_true {stem : String} {p : Text → Bool} {token : Text}
    (holds : stemThen stem p token = true) :
    ∃ rest, dropFinalBreak token = stem.toList ++ '-' :: rest ∧ p rest = true := by
  obtain ⟨rest, found, accepts⟩ := (Option.any_eq_true _ _).mp holds
  exact ⟨rest, afterStem?_eq_some found, accepts⟩

theorem bracketBody?_eq_some {t body : Text} (found : bracketBody? t = some body) :
    t = '[' :: (body ++ [']']) := by
  unfold bracketBody? at found
  split at found
  · rename_i rest
    split at found
    · rename_i closed
      simp only [Bool.and_eq_true, beq_iff_eq] at closed
      obtain ⟨start, rfl⟩ := List.getLast?_eq_some_iff.mp closed.1.1
      rw [List.dropLast_concat] at found
      rw [Option.some.inj found]
    · cases found
  · cases found

theorem arbitraryBody?_eq_some {stem : String} {token body : Text}
    (found : arbitraryBody? stem token = some body) :
    dropFinalBreak token = stem.toList ++ '-' :: '[' :: (body ++ [']']) := by
  unfold arbitraryBody? at found
  split at found
  · cases found
  · obtain ⟨rest, after, bracket⟩ := Option.bind_eq_some_iff.mp found
    rw [afterStem?_eq_some after, bracketBody?_eq_some bracket]

theorem fadeParts?_eq_some {t body tail : Text} (found : fadeParts? t = some (body, tail)) :
    t = body ++ '/' :: tail := by
  unfold fadeParts? at found
  extract_lets last start at found
  have whole : t = (t.reverse.dropWhile (· != '/')).reverse ++ last := by
    rw [← List.reverse_append, List.takeWhile_append_dropWhile, List.reverse_reverse]
  have start_eq : start = (t.reverse.dropWhile (· != '/')).reverse := by
    have length := congrArg List.length whole
    rw [List.length_append] at length
    exact (congrArg _ whole).trans (List.take_left' (by omega))
  split at found
  · rename_i slash
    simp only [Bool.and_eq_true, beq_iff_eq] at slash
    obtain ⟨front, eq⟩ := List.getLast?_eq_some_iff.mp slash.1
    obtain ⟨rfl, rfl⟩ := Prod.mk.inj (Option.some.inj found)
    rw [eq, List.dropLast_concat]
    exact (start_eq.symm.trans eq ▸ whole).trans (List.append_assoc ..)
  · cases found

/-- An arbitrary colour with its opacity behind a slash. -/
theorem fadedArbitrary?_eq_some {token start : Text} (found : fadedArbitrary? token = some start) :
    ∃ tail, dropFinalBreak token = dropFinalBreak start ++ '/' :: tail := by
  unfold fadedArbitrary? at found
  split at found
  · rename_i body tail parts
    split at found
    · rename_i closed
      simp only [Bool.and_eq_true, beq_iff_eq] at closed
      obtain rfl := Option.some.inj found
      rw [dropFinalBreak_of_getLast? (t := body) (by simp [closed.1.1])]
      exact ⟨tail, fadeParts?_eq_some parts⟩
    · cases found
  · cases found

/-- What is left without an opacity is the start of the text. -/
theorem withoutFade_starts (t : Text) : withoutFade t <+: t := by
  unfold withoutFade
  split
  · rename_i body tail found
    exact ⟨'/' :: tail, (fadeParts?_eq_some found).symm⟩
  · exact List.prefix_rfl

theorem isOneOf_eq_true {names : List String} {t : Text} (one : isOneOf names t = true) :
    t ∈ names.map (·.toList) :=
  List.mem_map.mpr ⟨_, List.contains_iff_mem.mp one, String.toList_ofList⟩

/-- What the names of colours open with. -/
def colorOpenings : List Text :=
  basicColors.map (·.toList) ++ families.map (·.toList ++ ['-'])

theorem isColorName_starts {t : Text} (color : isColorName t = true) : ∃ o ∈ colorOpenings, o <+: t := by
  obtain basic | family := Bool.or_eq_true_iff.mp color
  · exact ⟨t, List.mem_append_left _ (isOneOf_eq_true basic), List.prefix_rfl⟩
  · obtain ⟨family, listed, shade⟩ := List.any_eq_true.mp family
    split at shade
    · rename_i rest found
      exact ⟨_, List.mem_append_right _ (List.mem_map_of_mem listed), rest, (dropHead?_eq_some found).symm⟩
    · cases shade

theorem isFontSizeName_starts {t : Text} (size : isFontSizeName t = true) :
    ∃ o ∈ fontSizeNames.map (·.toList), o <+: t := by
  have whole := join_splitOn '/' t
  unfold isFontSizeName at size
  split at size
  · rename_i name split
    rw [split, join] at whole
    exact ⟨name, isOneOf_eq_true size, whole ▸ List.prefix_rfl⟩
  · rename_i name height split
    rw [split, join_cons (List.cons_ne_nil _ _), join] at whole
    rw [Bool.and_assoc, Bool.and_eq_true] at size
    exact ⟨name, isOneOf_eq_true size.1, ['/'] ++ height, by rw [← List.append_assoc, whole]⟩
  · cases size

/-! ### What classes open with -/

/-- The whole words that are classes of a rule. -/
def wholeTokens (rule : Rule) : List Text :=
  match rule.shape with
  | .textAlign => textAlignments.map (·.2.toList)
  | .borderStyle => borderStyles.map (·.2.toList)
  | .display => displays.map (·.2.toList) ++ ["inline-table".toList]
  | .textTransform => textTransforms.map (·.2.toList)
  | .textDecoration => textDecorations.map (·.2.toList)
  | .backgroundImage => ["bg-none".toList]
  | .borderWidth | .radius => [rule.stem.toList, rule.stem.toList ++ ['\n']]
  | _ => []

/-- The widths of borders that have names. -/
def widthSteps : List String := ["0", "2", "4", "8"]

/-- The radii that have names. -/
def radiusSteps : List String := ["none", "sm", "md", "lg", "xl", "2xl", "3xl", "full"]

/-- What the values of a shape open with; nothing in particular where the stem tells the rule. -/
def openings : Shape → List Text
  | .color => ['['] :: colorOpenings
  | .fontSize => ['['] :: fontSizeNames.map (·.toList)
  | .borderWidth => ['['] :: widthSteps.map (·.toList)
  | .radius => ['['] :: radiusSteps.map (·.toList)
  | .backgroundImage => [['['], "gradient-to-".toList]
  | .textAlign | .borderStyle | .display | .textTransform | .textDecoration => []
  | _ => [[]]

/-- The stem that all classes of a shape have, where they have one. -/
def stemOf? : Shape → Option String
  | .fontSize => some "text"
  | .fontWeight => some "font"
  | .lineHeight => some "leading"
  | .letterSpacing => some "tracking"
  | .opacity => some "opacity"
  | .backgroundImage => some "bg"
  | _ => none

/-- The arbitrary value of a class, if it has one, is of the shape. A colour may have an opacity behind
the bracket, and is then not looked at here. -/
def bodyFits (rule : Rule) (token : Text) : Bool :=
  match rule.shape with
  | .color => (arbitraryBody? rule.stem token).all (isColorBody rule.stem)
  | .fontSize | .borderWidth => bodyThen rule.stem isLength token
  | .backgroundImage => bodyThen rule.stem looksLikeImage token
  | _ => true

/-- A class without a line feed behind it and a minus sign before it. -/
def bareToken (token : Text) : Text := withoutMinus (dropFinalBreak token)

/-- A class opens like one of the rule. -/
def Opens (rule : Rule) (token : Text) : Prop :=
  ∃ o ∈ openings rule.shape, rule.stem.toList ++ '-' :: o <+: bareToken token ∧
    (o = ['['] → bodyFits rule token = true)

theorem isEntry_eq_true {table : List (String × String)} {token : Text}
    (entry : isEntry table token = true) : token ∈ table.map (·.2.toList) := by
  have mem : token ∈ (table.map (·.2)).map (·.toList) := isOneOf_eq_true entry
  rwa [List.map_map] at mem

/-! ### Classes of one rule -/

/-- What the tables of rules and of named values say about stems and names. -/
structure TablesOpen : Prop where
  /-- The rules of a shape with a stem of its own have that stem, and no stem starts with a hyphen. -/
  stem_of_mem : ∀ rule ∈ rules, (∀ stem ∈ stemOf? rule.shape, stem = rule.stem) ∧
    rule.stem.toList.head? ≠ some '-' ∧ (openings rule.shape ≠ [] → rule.stem ≠ "")
  /-- No name is the bracket. -/
  noBracket : ['['] ∉ colorOpenings ++ (fontSizeNames ++ widthSteps ++ radiusSteps).map (·.toList)

theorem tables_open : TablesOpen := by constructor <;> decide +kernel

/-- No name in one of the lists is the bracket. -/
theorem not_bracket {names : List String} (listed : names ⊆ fontSizeNames ++ widthSteps ++ radiusSteps) :
    ['['] ∉ names.map (·.toList) := fun mem =>
  TablesOpen.noBracket tables_open (List.mem_append_right _ (List.map_subset _ listed mem))

/-- A class that starts with the stem of a rule has no minus sign before it. -/
theorem bareToken_of_stem {rule : Rule} (listed : rule ∈ rules) (opens : openings rule.shape ≠ [])
    {token rest : Text} (starts : dropFinalBreak token = rule.stem.toList ++ rest) :
    bareToken token = rule.stem.toList ++ rest := by
  obtain ⟨-, noMinus, some⟩ := TablesOpen.stem_of_mem tables_open rule listed
  rw [bareToken, starts]
  cases stem : rule.stem.toList with
  | nil => exact absurd (String.toList_eq_nil_iff.mp stem) (some opens)
  | cons c cs =>
    unfold withoutMinus
    split
    · rename_i eq
      rw [stem] at noMinus
      exact absurd (congrArg List.head? eq) noMinus
    · rfl

section Shapes

variable {rule : Rule} {token : Text}

/-- A class that is a stem and a value opens like one of the rule if the value does. -/
theorem opens_of_stemThen (listed : rule ∈ rules) {p : Text → Bool}
    (holds : stemThen rule.stem p token = true)
    (value : ∀ rest, p rest = true → ∃ o ∈ openings rule.shape, o <+: rest ∧
      (o = ['['] → bodyFits rule token = true)) : Opens rule token := by
  obtain ⟨rest, eq, accepts⟩ := stemThen_eq_true holds
  obtain ⟨o, mem, ⟨more, rfl⟩, fits⟩ := value rest accepts
  refine ⟨o, mem, ⟨more, ?_⟩, fits⟩
  rw [bareToken_of_stem listed (List.ne_nil_of_mem mem) eq, List.append_assoc, List.cons_append]

/-- A class that is a stem and an arbitrary value opens like one of the rule. -/
theorem opens_of_body (listed : rule ∈ rules) (bracket : ['['] ∈ openings rule.shape)
    (found : (arbitraryBody? rule.stem token).isSome) (fits : bodyFits rule token = true) :
    Opens rule token := by
  obtain ⟨body, found⟩ := Option.isSome_iff_exists.mp found
  refine ⟨['['], bracket, ⟨body ++ [']'], ?_⟩, fun _ => fits⟩
  rw [bareToken_of_stem listed (List.ne_nil_of_mem bracket) (arbitraryBody?_eq_some found)]
  simp

theorem isSome_of_bodyThen {stem : String} {p : Text → Bool} (holds : bodyThen stem p token = true) :
    (arbitraryBody? stem token).isSome := by
  obtain ⟨body, found, -⟩ := (Option.any_eq_true _ _).mp holds
  simp [found]

/-- Where nothing is asked of what comes behind the stem, the stem and the hyphen are enough. -/
theorem opens_of_bare {rest : Text} (any : openings rule.shape = [[]])
    (starts : bareToken token = rule.stem.toList ++ '-' :: rest) : Opens rule token :=
  ⟨[], any ▸ List.mem_singleton.mpr rfl, ⟨rest, by rw [starts]; simp⟩, by nofun⟩

theorem opens_of_stem (listed : rule ∈ rules) (any : openings rule.shape = [[]]) {p : Text → Bool}
    (holds : stemThen rule.stem p token = true) : Opens rule token := by
  obtain ⟨rest, starts, -⟩ := stemThen_eq_true holds
  exact opens_of_bare any (bareToken_of_stem listed (by simp [any]) starts)

/-- A class with a minus sign before it opens like the one without. -/
theorem opens_of_minus (listed : rule ∈ rules) (any : openings rule.shape = [[]]) {p : Text → Bool}
    (holds : stemThen rule.stem p (withoutMinus token) = true) : Opens rule token := by
  unfold withoutMinus at holds
  split at holds
  · rename_i t
    obtain ⟨rest, starts, -⟩ := stemThen_eq_true holds
    have some : t ≠ [] := by
      rintro rfl
      have := congrArg List.length starts
      simp [dropFinalBreak] at this
    exact opens_of_bare any (by rw [bareToken, dropFinalBreak_cons some, withoutMinus, starts])
  · exact opens_of_stem listed any holds

/-- A class that is the stem alone is a whole word. -/
theorem mem_of_isStem {stem : String} (is : isStem stem token = true) :
    token ∈ [stem.toList, stem.toList ++ ['\n']] := by
  have bare : dropFinalBreak token = stem.toList := eq_of_beq is
  rw [← bare]
  obtain eq | eq := eq_dropFinalBreak token
  · exact List.mem_cons.mpr (.inl eq)
  · exact List.mem_cons_of_mem _ (List.mem_singleton.mpr eq)

/-- A named value opens with its name. -/
theorem opens_of_isOneOf (names : List String) (listed : names.map (·.toList) ⊆ openings rule.shape)
    (noBracket : ['['] ∉ names.map (·.toList)) {rest : Text} (one : isOneOf names rest = true) :
    ∃ o ∈ openings rule.shape, o <+: rest ∧ (o = ['['] → bodyFits rule token = true) := by
  have mem := isOneOf_eq_true one
  exact ⟨rest, listed mem, List.prefix_rfl, fun eq => absurd (eq ▸ mem) noBracket⟩

theorem isBracketed_starts {rest : Text} (bracketed : isBracketed rest = true) : ['['] <+: rest := by
  obtain ⟨body, found⟩ := Option.isSome_iff_exists.mp bracketed
  exact ⟨body ++ [']'], (bracketBody?_eq_some found).symm⟩

/-- A class of a colour opens like one: by the name, or by the bracket, also with an opacity behind. -/
theorem opens_of_isColorToken (listed : rule ∈ rules) (shape : rule.shape = .color)
    (color : isColorToken rule.stem token = true) : Opens rule token := by
  have fits_eq : bodyFits rule token = (arbitraryBody? rule.stem token).all (isColorBody rule.stem) := by
    rw [bodyFits, shape]
  have bracket : ['['] ∈ openings rule.shape := by simp [shape, openings]
  obtain named | value := Bool.or_eq_true_iff.mp color
  · refine opens_of_stemThen (p := fun rest => isColorName (withoutFade rest)) listed named fun rest name => ?_
    obtain ⟨o, mem, opens⟩ := isColorName_starts name
    exact ⟨o, by simp [shape, openings, mem], opens.trans (withoutFade_starts rest),
      fun eq => absurd (List.mem_append_left _ (eq ▸ mem)) (TablesOpen.noBracket tables_open)⟩
  · split at value
    · rename_i body found
      exact opens_of_body listed bracket (by simp [found]) (by simp [fits_eq, found, value])
    · rename_i none
      split at value
      · rename_i body found
        obtain ⟨start, faded, found⟩ := Option.bind_eq_some_iff.mp found
        obtain ⟨tail, parts⟩ := fadedArbitrary?_eq_some faded
        refine ⟨['['], bracket, ⟨body ++ [']'] ++ '/' :: tail, ?_⟩, fun _ => by simp [fits_eq, none]⟩
        have starts : dropFinalBreak token =
            rule.stem.toList ++ ('-' :: '[' :: (body ++ [']']) ++ '/' :: tail) := by
          rw [parts, ← List.append_assoc, ← arbitraryBody?_eq_some found]
        rw [bareToken_of_stem listed (List.ne_nil_of_mem bracket) starts]
        simp
      · cases value

/-- **What a class opens with**: a class of a rule is one of its whole words, or it opens by the stem and
something that values of the shape open with. -/
theorem whole_or_opens (listed : rule ∈ rules) (belongs : belongs rule token = true) :
    token ∈ wholeTokens rule ∨ Opens rule token := by
  obtain ⟨fixed, -, -⟩ := TablesOpen.stem_of_mem tables_open rule listed
  unfold Style.belongs at belongs
  unfold wholeTokens
  cases shape : rule.shape with simp only [shape] at belongs fixed ⊢
  | color => exact .inr (opens_of_isColorToken listed shape belongs)
  | fontSize =>
    rw [fixed "text" rfl] at belongs
    have bracket : ['['] ∈ openings rule.shape := by simp [shape, openings]
    obtain named | body := Bool.or_eq_true_iff.mp belongs
    · refine .inr (opens_of_stemThen listed named fun rest size => ?_)
      obtain ⟨o, mem, opens⟩ := isFontSizeName_starts size
      refine ⟨o, by rw [shape]; exact List.mem_cons_of_mem _ mem, opens, fun eq => ?_⟩
      exact absurd (eq ▸ mem) (not_bracket (by simp))
    · exact .inr (opens_of_body listed bracket (isSome_of_bodyThen body) (by rwa [bodyFits, shape]))
  | fontWeight =>
    rw [fixed "font" rfl] at belongs
    have any : openings rule.shape = [[]] := by rw [shape]; rfl
    obtain named | body := Bool.or_eq_true_iff.mp belongs
    · exact .inr (opens_of_stem listed any named)
    · obtain ⟨body, found⟩ := Option.isSome_iff_exists.mp (isSome_of_bodyThen body)
      exact .inr (opens_of_bare any (bareToken_of_stem listed (by simp [any]) (arbitraryBody?_eq_some found)))
  | textAlign => exact .inl (isEntry_eq_true belongs)
  | spacing =>
    have any : openings rule.shape = [[]] := by rw [shape]; rfl
    obtain plain | minus := Bool.or_eq_true_iff.mp belongs
    · exact .inr (opens_of_stem listed any plain)
    · exact .inr (opens_of_minus listed any minus)
  | borderWidth =>
    have bracket : ['['] ∈ openings rule.shape := by simp [shape, openings]
    obtain named | body := Bool.or_eq_true_iff.mp belongs
    · obtain alone | named := Bool.or_eq_true_iff.mp named
      · exact .inl (mem_of_isStem alone)
      · refine .inr (opens_of_stemThen listed named fun rest one => ?_)
        exact opens_of_isOneOf widthSteps (by rw [shape]; exact List.subset_cons_self ..)
          (not_bracket (by simp)) one
    · exact .inr (opens_of_body listed bracket (isSome_of_bodyThen body) (by rwa [bodyFits, shape]))
  | radius =>
    obtain alone | value := Bool.or_eq_true_iff.mp belongs
    · exact .inl (mem_of_isStem alone)
    · refine .inr (opens_of_stemThen listed value fun rest value => ?_)
      obtain one | bracketed := Bool.or_eq_true_iff.mp value
      · exact opens_of_isOneOf radiusSteps (by rw [shape]; exact List.subset_cons_self ..)
          (not_bracket (by simp)) one
      · exact ⟨['['], by simp [shape, openings], isBracketed_starts bracketed,
          fun _ => by rw [bodyFits, shape]⟩
  | borderStyle => exact .inl (isEntry_eq_true belongs)
  | display =>
    obtain entry | table := Bool.or_eq_true_iff.mp belongs
    · exact .inl (List.mem_append_left _ (isEntry_eq_true entry))
    · exact .inl (List.mem_append_right _ (List.mem_singleton.mpr (eq_of_beq table)))
  | textTransform => exact .inl (isEntry_eq_true belongs)
  | textDecoration => exact .inl (isEntry_eq_true belongs)
  | lineHeight =>
    rw [fixed "leading" rfl] at belongs
    exact .inr (opens_of_stem listed (by rw [shape]; rfl) belongs)
  | letterSpacing =>
    rw [fixed "tracking" rfl] at belongs
    exact .inr (opens_of_stem listed (by rw [shape]; rfl) belongs)
  | opacity =>
    rw [fixed "opacity" rfl] at belongs
    exact .inr (opens_of_stem listed (by rw [shape]; rfl) belongs)
  | size => exact .inr (opens_of_stem listed (by rw [shape]; rfl) belongs)
  | backgroundImage =>
    obtain stem : "bg" = rule.stem := fixed "bg" rfl
    have bracket : ['['] ∈ openings rule.shape := by simp [shape, openings]
    obtain named | body := Bool.or_eq_true_iff.mp belongs
    · obtain none | gradient := Bool.or_eq_true_iff.mp named
      · exact .inl (List.mem_singleton.mpr (eq_of_beq none))
      · obtain ⟨rest, starts, -⟩ := stemThen_eq_true gradient
        have starts : dropFinalBreak token = rule.stem.toList ++ '-' :: ("gradient-to-".toList ++ rest) := by
          rw [starts, ← stem]
          rfl
        refine .inr ⟨"gradient-to-".toList, by simp [shape, openings], ⟨rest, ?_⟩, fun eq => ?_⟩
        · rw [bareToken_of_stem listed (List.ne_nil_of_mem bracket) starts]
          simp
        · exact absurd eq (by decide)
    · exact .inr (opens_of_body listed bracket (isSome_of_bodyThen body) (by rwa [bodyFits, shape]))

end Shapes

end Retouch.Style
