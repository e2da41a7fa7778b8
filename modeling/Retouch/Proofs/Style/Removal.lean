import Retouch.Proofs.Style.Opening

/-!
# Utility classes of different rules

No class is one of two rules (`belongs_apart`). Whole words are few, and so are the stems of which one
starts with another; in what the values open with, shapes differ, but for the square bracket. Behind
that, it is the value itself that decides: a colour is none of what the other shapes take.
-/

namespace Retouch.Style

open Retouch.Text

/-! ### The tables -/

/-- The stems of the rules, character by character. -/
def stems : List Text :=
  [['t', 'e', 'x', 't'], ['b', 'g'], ['f', 'o', 'n', 't'], ['p'], ['p', 't'], ['p', 'r'],
   ['p', 'b'], ['p', 'l'], ['m'], ['m', 't'], ['m', 'r'], ['m', 'b'], ['m', 'l'],
   ['b', 'o', 'r', 'd', 'e', 'r'], ['b', 'o', 'r', 'd', 'e', 'r', '-', 't'],
   ['b', 'o', 'r', 'd', 'e', 'r', '-', 'r'], ['b', 'o', 'r', 'd', 'e', 'r', '-', 'b'],
   ['b', 'o', 'r', 'd', 'e', 'r', '-', 'l'], ['r', 'o', 'u', 'n', 'd', 'e', 'd'],
   ['r', 'o', 'u', 'n', 'd', 'e', 'd', '-', 't', 'l'],
   ['r', 'o', 'u', 'n', 'd', 'e', 'd', '-', 't', 'r'],
   ['r', 'o', 'u', 'n', 'd', 'e', 'd', '-', 'b', 'l'],
   ['r', 'o', 'u', 'n', 'd', 'e', 'd', '-', 'b', 'r'], ['l', 'e', 'a', 'd', 'i', 'n', 'g'],
   ['t', 'r', 'a', 'c', 'k', 'i', 'n', 'g'], ['o', 'p', 'a', 'c', 'i', 't', 'y'], ['w'], ['h'],
   ['m', 'i', 'n', '-', 'w'], ['m', 'i', 'n', '-', 'h'], ['m', 'a', 'x', '-', 'w'],
   ['m', 'a', 'x', '-', 'h'], ['g', 'a', 'p']]

/-- The sides and corners that some stems end with. -/
def sides : List Text :=
  [['t'], ['r'], ['b'], ['l'], ['t', 'l'], ['t', 'r'], ['b', 'l'], ['b', 'r']]

/-- The shapes that share their stem with colours. -/
def colorNeighbours : List Shape := [.fontSize, .borderWidth, .backgroundImage]

/-- What keeps the classes of two rules apart, as the tables of rules and of named values have it. -/
structure TablesApart : Prop where
  mem_stems : ∀ rule ∈ rules, rule.stem ≠ "" → rule.stem.toList ∈ stems
  /-- No stem starts with another one and a hyphen, but for those of a side or a corner. -/
  stems : ∀ stem ∈ stems, ∀ stem' ∈ stems, stem ++ ['-'] <+: stem' ++ ['-'] →
    stem = stem' ∨ (stem = "border".toList ∨ stem = "rounded".toList) ∧
      ∃ side ∈ sides, stem' = stem ++ '-' :: side
  shape_of_sided : ∀ rule ∈ rules, rule.stem.toList = "border".toList ∨
    rule.stem.toList = "rounded".toList → openings rule.shape ≠ [] →
      rule.shape ∈ [Shape.borderWidth, .color, .radius]
  /-- No value of a border or a radius starts like a side or a corner. -/
  openings_sides : ∀ shape ∈ [Shape.borderWidth, .color, .radius], ∀ o ∈ openings shape,
    ∀ side ∈ sides, ¬(o <+: side ++ ['-'] ∨ side ++ ['-'] <+: o)
  /-- Two rules on one stem whose values open with something are a colour and something else. -/
  rules_on_stem : ∀ rule ∈ rules, ∀ rule' ∈ rules, rule.stem = rule'.stem → rule ≠ rule' →
    openings rule.shape ≠ [] → openings rule'.shape ≠ [] →
      rule.shape = .color ∧ rule'.shape ∈ colorNeighbours ∨
        rule'.shape = .color ∧ rule.shape ∈ colorNeighbours
  /-- A colour and a value of another shape on the same stem differ in what they open with, but for the
  bracket. -/
  openings : ∀ shape ∈ colorNeighbours, ∀ o ∈ openings .color, ∀ o' ∈ openings shape,
    (o <+: o' ∨ o' <+: o) → o = ['['] ∧ o' = ['[']
  /-- A whole word that is a class of a rule is one of no other. -/
  whole : ∀ rule ∈ rules, ∀ token ∈ wholeTokens rule, ∀ rule' ∈ rules, rule ≠ rule' →
    belongs rule' token = false

theorem tables_apart : TablesApart := by constructor <;> decide +kernel

/-! ### Two rules -/

section Apart

variable {rule rule' : Rule} {token : Text}

/-- Two texts that a third one starts with. -/
theorem prefix_of_append {a b t : Text} {c d : Text} (first : a ++ c <+: t) (second : b ++ d <+: t)
    (same : a = b) : c <+: d ∨ d <+: c := by
  subst same
  obtain fits | fits := List.prefix_or_prefix_of_prefix first second
  · exact .inl ((List.prefix_append_right_inj a).mp fits)
  · exact .inr ((List.prefix_append_right_inj a).mp fits)

/-- The arbitrary value of a colour is that of no other shape on its stem. -/
theorem bodyFits_apart (shape : rule.shape = .color) (shape' : rule'.shape ∈ colorNeighbours)
    (listed' : rule' ∈ rules) (stem : rule.stem = rule'.stem) (fits : bodyFits rule token = true)
    (fits' : bodyFits rule' token = true) : False := by
  have color : (arbitraryBody? rule.stem token).all (isColorBody rule.stem) = true := by
    rwa [bodyFits, shape] at fits
  -- the value is there, as only a colour may have something behind the bracket
  have clash : ∀ {p : Text → Bool}, bodyThen rule'.stem p token = true →
      ∃ body, p body = true ∧ isColorBody rule.stem body = true := by
    intro p holds
    obtain ⟨body, found, accepts⟩ := (Option.any_eq_true _ _).mp holds
    rw [stem, found] at color
    exact ⟨body, accepts, stem ▸ color⟩
  simp only [colorNeighbours, List.mem_cons, List.not_mem_nil, or_false] at shape'
  obtain size | width | image := shape'
  · rw [bodyFits, size] at fits'
    obtain ⟨body, length, color⟩ := clash fits'
    simp [isColorBody, length] at color
  · rw [bodyFits, width] at fits'
    obtain ⟨body, length, color⟩ := clash fits'
    simp [isColorBody, length] at color
  · rw [bodyFits, image] at fits'
    obtain ⟨body, image', color⟩ := clash fits'
    have bg : rule.stem = "bg" := by
      obtain ⟨fixed, -, -⟩ := TablesOpen.stem_of_mem tables_open rule' listed'
      rw [stem, ← fixed "bg" (by rw [image]; rfl)]
    simp [isColorBody, image', bg] at color

/-- On one stem, no class opens like one of two rules. -/
theorem opens_apart_of_stem (listed : rule ∈ rules) (listed' : rule' ∈ rules) (differ : rule ≠ rule')
    (stem : rule.stem = rule'.stem) (opens : Opens rule token) (opens' : Opens rule' token) : False := by
  have color : ∀ {rule rule' : Rule}, rule'  ∈ rules → rule.stem = rule'.stem → rule.shape = .color →
      rule'.shape ∈ colorNeighbours → Opens rule token → Opens rule' token → False := by
    rintro rule rule' listed' stem shape shape' ⟨o, mem, starts, fits⟩ ⟨o', mem', starts', fits'⟩
    have comparable : '-' :: o <+: '-' :: o' ∨ '-' :: o' <+: '-' :: o :=
      prefix_of_append starts starts' (congrArg String.toList stem)
    simp only [List.cons_prefix_cons, true_and] at comparable
    obtain ⟨rfl, rfl⟩ := TablesApart.openings tables_apart _ shape' o (shape ▸ mem) o' mem' comparable
    exact bodyFits_apart shape shape' listed' stem (fits rfl) (fits' rfl)
  obtain ⟨shape, shape'⟩ | ⟨shape', shape⟩ :=
    TablesApart.rules_on_stem tables_apart rule listed rule' listed' stem differ
    (by obtain ⟨o, mem, -⟩ := opens; exact List.ne_nil_of_mem mem)
    (by obtain ⟨o, mem, -⟩ := opens'; exact List.ne_nil_of_mem mem)
  · exact color listed' stem shape shape' opens opens'
  · exact color listed stem.symm shape' shape opens' opens

/-- A class that opens like one of two rules on different stems: neither stem goes on as the other. -/
theorem opens_apart_of_prefix (listed : rule ∈ rules) (listed' : rule' ∈ rules)
    (differ : rule.stem ≠ rule'.stem) (opens : Opens rule token) (opens' : Opens rule' token)
    (starts : rule.stem.toList ++ ['-'] <+: rule'.stem.toList ++ ['-']) : False := by
  obtain ⟨o, mem, ⟨more, text⟩, -⟩ := opens
  obtain ⟨o', mem', ⟨more', text'⟩, -⟩ := opens'
  have some := (TablesOpen.stem_of_mem tables_open rule listed).2.2 (List.ne_nil_of_mem mem)
  have some' := (TablesOpen.stem_of_mem tables_open rule' listed').2.2 (List.ne_nil_of_mem mem')
  have stem := TablesApart.mem_stems tables_apart rule listed some
  have stem' := TablesApart.mem_stems tables_apart rule' listed' some'
  obtain same | ⟨sided, side, side_mem, longer⟩ := TablesApart.stems tables_apart _ stem _ stem' starts
  · exact differ (String.toList_injective same)
  · have shape := TablesApart.shape_of_sided tables_apart rule listed sided (List.ne_nil_of_mem mem)
    refine TablesApart.openings_sides tables_apart _ shape o mem side side_mem ?_
    rw [longer] at text'
    refine prefix_of_append (t := bareToken token) (a := rule.stem.toList ++ ['-'])
      ⟨more, ?_⟩ ⟨o' ++ more', ?_⟩ rfl
    · simpa using text
    · simpa using text'

/-- No class opens like one of two rules. -/
theorem opens_apart (listed : rule ∈ rules) (listed' : rule' ∈ rules) (differ : rule ≠ rule')
    (opens : Opens rule token) (opens' : Opens rule' token) : False := by
  by_cases stem : rule.stem = rule'.stem
  · exact opens_apart_of_stem listed listed' differ stem opens opens'
  · have start : ∀ {rule : Rule}, Opens rule token → rule.stem.toList ++ ['-'] <+: bareToken token := by
      rintro rule ⟨o, -, starts, -⟩
      exact .trans ⟨o, by simp⟩ starts
    obtain shorter | longer := List.prefix_or_prefix_of_prefix (start opens) (start opens')
    · exact opens_apart_of_prefix listed listed' stem opens opens' shorter
    · exact opens_apart_of_prefix listed' listed (Ne.symm stem) opens' opens longer

/-- No class is one of two rules. -/
theorem belongs_apart (listed : rule ∈ rules) (listed' : rule' ∈ rules) (differ : rule ≠ rule')
    (belongs : belongs rule token = true) : Style.belongs rule' token = false := by
  refine Bool.eq_false_iff.mpr fun belongs' => ?_
  obtain whole | opens := whole_or_opens listed belongs
  · have other := TablesApart.whole tables_apart rule listed token whole rule' listed' differ
    exact absurd belongs' (by simp [other])
  obtain whole | opens' := whole_or_opens listed' belongs'
  · have other := TablesApart.whole tables_apart rule' listed' token whole rule listed differ.symm
    exact absurd belongs (by simp [other])
  · exact opens_apart listed listed' differ opens opens'

/-- Tokens of one rule stay when those of another are dropped. -/
theorem filter_dropTokens (listed : rule ∈ rules) (listed' : rule' ∈ rules) (differ : rule ≠ rule')
    (classes : Text) :
    (tokenTexts (replaceTokens classes (belongs rule) [])).filter (belongs rule') =
      (tokenTexts classes).filter (belongs rule') := by
  rw [tokenTexts_dropTokens, List.filter_filter]
  refine List.filter_congr fun token _ => ?_
  cases other : belongs rule' token with
  | false => rfl
  | true => simp [isHit, belongs_apart listed' listed differ.symm other]

end Apart

/-! ### Properties taken away -/

/-- To change a property to nothing is to take it away. -/
theorem applyToClasses_removes {change : StyleChange} (removes : change.removes = true) {rule : Rule}
    (known : ruleFor? change.property = some rule) (classes : Text) :
    applyToClasses classes change = .ok (removeProperty classes change.property, []) := by
  rw [applyToClasses, if_pos removes, removeProperty, known]

/-- **Rules are apart**: no token is a class of two different rules. So whatever property is taken away,
the classes of every other rule stay in the class text, all of them and in their order. -/
theorem removal_keeps_other_rules {rule rule' : Rule} (listed : rule ∈ propertyRules.map (·.2))
    (listed' : rule' ∈ propertyRules.map (·.2)) (differ : rule ≠ rule') :
    (∀ token, ¬(belongs rule token = true ∧ belongs rule' token = true)) ∧
      ∀ property, ruleFor? property = some rule → ∀ classes,
        (tokenTexts (removeProperty classes property)).filter (belongs rule') =
          (tokenTexts classes).filter (belongs rule') ∧
        ∀ change : StyleChange, change.property = property → change.removes = true →
          applyToClasses classes change = .ok (removeProperty classes property, []) := by
  refine ⟨fun token both => ?_, fun property known classes => ⟨?_, ?_⟩⟩
  · exact absurd both.2 (by simp [belongs_apart listed listed' differ both.1])
  · rw [removeProperty, known]
    exact filter_dropTokens listed listed' differ classes
  · rintro change rfl removes
    exact applyToClasses_removes removes known classes

/-- The size of a text stays when its colour is taken away, though both have the stem `text`. -/
theorem removal_keeps_text_size :
    (tokenTexts (removeProperty "p-4 text-red-500 text-lg".toList "color")).filter
        (belongs ⟨"text", .fontSize⟩) = ["text-lg".toList] :=
  ((@removal_keeps_other_rules ⟨"text", .color⟩ ⟨"text", .fontSize⟩
    (by decide +kernel) (by decide +kernel) (by decide)).2 "color" (by decide +kernel)
      "p-4 text-red-500 text-lg".toList).1.trans (by decide +kernel)

end Retouch.Style
