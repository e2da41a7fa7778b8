import Retouch.Proofs.Style.Plain
import Retouch.Proofs.Text
import Retouch.Proofs.Text.Lower
import Retouch.Style.Utility

/-!
# Values in square brackets

A value in square brackets has no blanks: those around commas are gone, and the others are underscores
(`compact`). What the value is taken for afterwards is decided by words in it, and by whether it is a
number with a unit; none of these has a blank, a comma or an underscore in it. So the value in the
brackets is a length, or an image, exactly if the value is that was put there (`isLength_compact`,
`looksLikeImage_compact`).
-/

namespace Retouch.Style

open Retouch.Text

/-- A value as it stands in square brackets. -/
def compact (raw : Text) : Text := squeezeBlanks '_' (tightenCommas raw)

/-- The characters that come and go when a value is put in square brackets. -/
def isMark (c : Char) : Bool := isBlank c || c == ',' || c == '_'

/-- A word that no such character is in. -/
def Solid (w : Text) : Prop := ∀ c ∈ w, isMark c = false

instance (w : Text) : Decidable (Solid w) := inferInstanceAs (Decidable (∀ c ∈ w, isMark c = false))

/-! ### Words in a text -/

section Words

variable {w t u : Text} {c : Char}

/-- A character that is no part of a word ends what it may start with. -/
theorem startsWith_append (other : c ∉ w) (t u : Text) :
    startsWith (t ++ c :: u) w = startsWith t w := by
  induction t generalizing w with
  | nil =>
    cases w with
    | nil => rfl
    | cons d w =>
      have differ : (d == c) = false := beq_false_of_ne fun eq => other (eq ▸ List.mem_cons_self ..)
      rw [List.nil_append, startsWith_cons, differ]
      rfl
  | cons b t ih =>
    cases w with
    | nil => rfl
    | cons d w =>
      rw [List.cons_append, startsWith_cons, startsWith_cons, ih fun mem => other (List.mem_cons_of_mem _ mem)]

/-- A character that is no part of a word stands between two places where the word may be. -/
theorem has_append (some : w ≠ []) (other : c ∉ w) (t u : Text) :
    has (t ++ c :: u) w = (has t w || has u w) := by
  induction t with
  | nil =>
    have here := startsWith_append other [] u
    rw [List.nil_append] at here ⊢
    rw [has_cons, here, has_nil some]
    cases w with
    | nil => exact absurd rfl some
    | cons => rfl
  | cons b t ih =>
    have here := startsWith_append other (b :: t) u
    rw [List.cons_append] at here ⊢
    rw [has_cons, here, ih, has_cons, Bool.or_assoc]

/-- Marks before and behind a text are no part of a word. -/
theorem has_marks (some : w ≠ []) (solid : Solid w) {a b : Text} (before : ∀ c ∈ a, isMark c = true)
    (behind : ∀ c ∈ b, isMark c = true) : has (a ++ (t ++ b)) w = has t w := by
  have other : ∀ {c}, isMark c = true → c ∉ w := fun mark mem => by
    rw [solid _ mem] at mark
    cases mark
  have ends : has (t ++ b) w = has t w := by
    induction b generalizing t with
    | nil => rw [List.append_nil]
    | cons c b ih =>
      obtain ⟨here, later⟩ := List.forall_mem_cons.mp behind
      have rest := ih (t := []) later
      rw [List.nil_append] at rest
      rw [has_append some (other here), rest, has_nil some, Bool.or_false]
  induction a with
  | nil => exact ends
  | cons c a ih =>
    obtain ⟨here, later⟩ := List.forall_mem_cons.mp before
    have first := has_append some (other here) [] (a ++ (t ++ b))
    rw [has_nil some, Bool.false_or, List.nil_append] at first
    rw [List.cons_append, first, ih later]

/-- A word is found where characters are exchanged that are no part of it. -/
theorem startsWith_map {g : Char → Char} (same : ∀ c ∈ t, ∀ d ∈ w, g c = d ↔ c = d) :
    startsWith (t.map g) w = startsWith t w := by
  induction t generalizing w with
  | nil => rfl
  | cons c t ih =>
    cases w with
    | nil => rfl
    | cons d w =>
      have here : (d == g c) = (d == c) := by
        rw [Bool.eq_iff_iff, beq_iff_eq, beq_iff_eq, eq_comm,
          same c (List.mem_cons_self ..) d (List.mem_cons_self ..), eq_comm]
      rw [List.map_cons, startsWith_cons, startsWith_cons, here,
        ih fun c mem d mem' => same c (List.mem_cons_of_mem _ mem) d (List.mem_cons_of_mem _ mem')]

theorem has_map {g : Char → Char} (same : ∀ c ∈ t, ∀ d ∈ w, g c = d ↔ c = d) :
    has (t.map g) w = has t w := by
  induction t with
  | nil => rfl
  | cons c t ih =>
    have starts := startsWith_map same
    rw [List.map_cons] at starts ⊢
    rw [has_cons, has_cons, starts, ih fun c mem => same c (List.mem_cons_of_mem _ mem)]

end Words

/-! ### Lower case of marks -/

/-- What holds of every mark is settled by their codes. -/
theorem forall_isMark {P : Char → Prop} (all : ∀ n ∈ 0x2C :: 0x5F :: blankCodes, P (Char.ofNat n)) {c : Char}
    (mark : isMark c = true) : P c := by
  obtain ⟨comma, underscore, blanks⟩ : P (Char.ofNat 0x2C) ∧ P (Char.ofNat 0x5F) ∧
      ∀ n ∈ blankCodes, P (Char.ofNat n) := by simpa using all
  simp only [isMark, Bool.or_eq_true, beq_iff_eq] at mark
  obtain (blank | rfl) | rfl := mark
  · exact forall_isBlank blanks blank
  · exact comma
  · exact underscore

/-- A character that a number with a unit may have. -/
def isMeasureChar (c : Char) : Bool := c == '-' || c == '.' || isDecimal c || isUnitChar c

/-- Marks are no letters, nor the lower case of one, no digits, and in no number with a unit. -/
theorem isMark_apart {c : Char} : isMark c = true →
    foldChar c = [c] ∧ isFixed c.toNat = true ∧ isDigit c = false ∧ isMeasureChar c = false :=
  forall_isMark (P := fun c => foldChar c = [c] ∧ isFixed c.toNat = true ∧ isDigit c = false ∧
    isMeasureChar c = false) (by decide +kernel)

/-- Marks are in lower case. -/
theorem foldChar_mark {c : Char} (mark : isMark c = true) : foldChar c = [c] := (isMark_apart mark).1

/-- No letter becomes a mark. -/
theorem isMark_of_mem_foldChar {c d : Char} (mark : isMark d = true) (mem : d ∈ foldChar c) : c = d :=
  eq_of_mem_foldChar (isMark_apart mark).2.1 mem

theorem isMark_of_isBlank {c : Char} (blank : isBlank c = true) : isMark c = true := by
  rw [isMark, blank]
  rfl

theorem foldChar_ne_nil (c : Char) : foldChar c ≠ [] := by
  unfold foldChar lowerChar
  split <;> simp

/-- The lower case of what is no blank has none. -/
theorem not_isBlank_of_mem_foldChar {c d : Char} (noBlank : isBlank c = false) (mem : d ∈ foldChar c) :
    isBlank d = false :=
  Bool.eq_false_iff.mpr fun blank => by
    rw [isMark_of_mem_foldChar (isMark_of_isBlank blank) mem, blank] at noBlank
    cases noBlank

/-- A text of marks has no upper case. -/
theorem fold_marks {t : Text} (marks : ∀ c ∈ t, isMark c = true) : fold t = t := by
  induction t with
  | nil => rfl
  | cons c t ih =>
    obtain ⟨here, later⟩ := List.forall_mem_cons.mp marks
    rw [fold_cons, foldChar_mark here, ih later, List.singleton_append]

/-! ### Blanks squeezed -/

section Squeezing

variable {filler : Char} {w t : Text}

/-- Characters that are no blanks pass. -/
theorem squeezeFrom_append {x : Text} (some : x ≠ []) (noBlank : ∀ c ∈ x, isBlank c = false)
    (afterBlank : Bool) (t : Text) :
    squeezeFrom filler afterBlank (x ++ t) = x ++ squeezeFrom filler false t := by
  induction x generalizing afterBlank with
  | nil => exact absurd rfl some
  | cons c x ih =>
    obtain ⟨here, later⟩ := List.forall_mem_cons.mp noBlank
    rw [List.cons_append, squeezeFrom, if_neg (by simp [here]), List.cons_append]
    cases x with
    | nil => rfl
    | cons => rw [ih (List.cons_ne_nil _ _) later]

/-- Squeezing does not mind the case. -/
theorem fold_squeezeFrom (mark : isMark filler = true) (afterBlank : Bool) (t : Text) :
    fold (squeezeFrom filler afterBlank t) = squeezeFrom filler afterBlank (fold t) := by
  fun_induction squeezeFrom filler afterBlank t with
  | case1 => rfl
  | case2 c rest blank ih =>
    rw [fold_cons, foldChar_mark (isMark_of_isBlank blank), List.singleton_append, squeezeFrom,
      if_pos blank, if_pos rfl, ih]
  | case3 afterBlank c rest blank first ih =>
    rw [fold_cons, fold_cons, foldChar_mark mark, foldChar_mark (isMark_of_isBlank blank),
      List.singleton_append, List.singleton_append, squeezeFrom, if_pos blank, if_neg first, ih]
  | case4 afterBlank c rest noBlank ih =>
    rw [fold_cons, fold_cons, ih, squeezeFrom_append (foldChar_ne_nil c)
      fun d mem => not_isBlank_of_mem_foldChar (by simpa using noBlank) mem]

/-- A word that no mark is in is found after squeezing exactly where it was. -/
theorem startsWith_squeezeFrom (mark : isMark filler = true) (solid : Solid w) (t : Text) :
    startsWith (squeezeFrom filler false t) w = startsWith t w := by
  have differs : ∀ {c d : Char}, isMark c = true → isMark d = false → (d == c) = false := by
    rintro c d mark noMark
    exact beq_false_of_ne fun eq => by
      rw [eq, mark] at noMark
      cases noMark
  induction t generalizing w with
  | nil => rfl
  | cons c t ih =>
    cases w with
    | nil => rw [startsWith_nil, startsWith_nil]
    | cons d w =>
      obtain ⟨here, later⟩ := List.forall_mem_cons.mp solid
      rw [squeezeFrom]
      by_cases blank : isBlank c = true
      · rw [if_pos blank, if_neg (by decide), startsWith_cons, startsWith_cons, differs mark here,
          differs (isMark_of_isBlank blank) here]
        rfl
      · rw [if_neg blank, startsWith_cons, startsWith_cons, ih later]

theorem has_squeezeFrom (mark : isMark filler = true) (some : w ≠ []) (solid : Solid w)
    (afterBlank : Bool) (t : Text) : has (squeezeFrom filler afterBlank t) w = has t w := by
  have passes : ∀ {c} (t : Text), isMark c = true → has (c :: t) w = has t w := fun t mark => by
    have marks := has_marks (t := t) some solid (a := [_]) (b := [])
      (List.forall_mem_cons.mpr ⟨mark, nofun⟩) nofun
    rwa [List.append_nil] at marks
  fun_induction squeezeFrom filler afterBlank t with
  | case1 => rfl
  | case2 c rest blank ih => rw [ih, passes rest (isMark_of_isBlank blank)]
  | case3 _ c rest blank _ ih => rw [passes _ mark, ih, passes rest (isMark_of_isBlank blank)]
  | case4 afterBlank c rest noBlank ih =>
    have starts := startsWith_squeezeFrom mark solid (c :: rest)
    rw [squeezeFrom, if_neg noBlank] at starts
    rw [has_cons, has_cons, starts, ih]

/-- What is no blank is not squeezed. -/
theorem mem_squeezeFrom {c : Char} (noBlank : isBlank c = false) (mem : c ∈ t) (afterBlank : Bool) :
    c ∈ squeezeFrom filler afterBlank t := by
  fun_induction squeezeFrom filler afterBlank t with
  | case1 => cases mem
  | case2 d rest blank ih =>
    obtain rfl | mem := List.mem_cons.mp mem
    · cases noBlank.symm.trans blank
    · exact ih mem
  | case3 _ d rest blank _ ih =>
    obtain rfl | mem := List.mem_cons.mp mem
    · cases noBlank.symm.trans blank
    · exact List.mem_cons_of_mem _ (ih mem)
  | case4 _ d rest _ ih =>
    obtain rfl | mem := List.mem_cons.mp mem
    · exact List.mem_cons_self ..
    · exact List.mem_cons_of_mem _ (ih mem)

/-- Blanks leave something behind. -/
theorem filler_mem_squeezeFrom {c : Char} (blank : isBlank c = true) (mem : c ∈ t) :
    filler ∈ squeezeFrom filler false t := by
  induction t with
  | nil => cases mem
  | cons d t ih =>
    rw [squeezeFrom]
    by_cases first : isBlank d = true
    · rw [if_pos first, if_neg (by decide)]
      exact List.mem_cons_self ..
    · rw [if_neg first]
      obtain rfl | mem := List.mem_cons.mp mem
      · exact absurd blank first
      · exact List.mem_cons_of_mem _ (ih mem)

theorem squeezeFrom_eq_self (noBlank : ∀ c ∈ t, isBlank c = false) (afterBlank : Bool) :
    squeezeFrom filler afterBlank t = t := by
  cases t with
  | nil => rfl
  | cons c t =>
    have all := @squeezeFrom_append filler (c :: t) (List.cons_ne_nil c t) noBlank afterBlank []
    rwa [List.append_nil, squeezeFrom, List.append_nil] at all

theorem not_isBlank_of_mem_squeezeFrom (noBlank : isBlank filler = false) {c : Char}
    {afterBlank : Bool} (mem : c ∈ squeezeFrom filler afterBlank t) : isBlank c = false := by
  fun_induction squeezeFrom filler afterBlank t with
  | case1 => cases mem
  | case2 d rest blank ih => exact ih mem
  | case3 _ d rest blank _ ih =>
    obtain rfl | mem := List.mem_cons.mp mem
    · exact noBlank
    · exact ih mem
  | case4 _ d rest here ih =>
    obtain rfl | mem := List.mem_cons.mp mem
    · simpa using here
    · exact ih mem

end Squeezing

/-! ### Blanks around commas -/

section Commas

variable {w p : Text}

theorem fold_join_cons {pieces : List Text} (more : pieces ≠ []) (p : Text) :
    fold (join [','] (p :: pieces)) = fold p ++ ',' :: fold (join [','] pieces) := by
  rw [join_cons more, fold_append, fold_append, fold_marks (t := [',']) (by decide), List.append_assoc,
    List.singleton_append]

/-- A value without commas has no blanks beside any. -/
theorem tightenCommas_eq_self {raw : Text} (none : ',' ∉ raw) : tightenCommas raw = raw := by
  rw [tightenCommas, splitOn, splitFrom_eq_self none]
  rfl

theorem tightenRest_ne_nil {pieces : List Text} (some : pieces ≠ []) :
    tightenCommas.tightenRest pieces ≠ [] := by
  unfold tightenCommas.tightenRest
  split
  · exact absurd rfl some
  · exact List.cons_ne_nil _ _
  · exact List.cons_ne_nil _ _

/-- Commas stay. -/
theorem comma_mem_tightenCommas {raw : Text} (comma : ',' ∈ raw) : ',' ∈ tightenCommas raw := by
  have whole := join_splitOn ',' raw
  rw [tightenCommas]
  generalize splitOn ',' raw = pieces at whole
  unfold tightenCommas.tighten
  split
  · rwa [whole]
  · rwa [whole]
  · rename_i first rest more
    rw [join_cons (tightenRest_ne_nil fun none => more (none ▸ rfl))]
    simp

variable (some : w ≠ []) (solid : Solid w)
include some solid

/-- Blanks around a text do not matter to the words in it. -/
theorem has_fold_blanks {a t b : Text} (before : ∀ c ∈ a, isBlank c = true)
    (behind : ∀ c ∈ b, isBlank c = true) : has (fold (a ++ (t ++ b))) w = has (fold t) w := by
  have marks : ∀ {l : Text}, (∀ c ∈ l, isBlank c = true) → ∀ c ∈ l, isMark c = true :=
    fun blank c mem => isMark_of_isBlank (blank c mem)
  rw [fold_append, fold_append, fold_marks (marks before), fold_marks (marks behind)]
  exact has_marks some solid (marks before) (marks behind)

theorem has_fold_strip (p : Text) : has (fold (strip p)) w = has (fold p) w := by
  obtain ⟨a, b, eq, before, behind⟩ := exists_strip p
  exact ((congrArg (fun t => has (fold t) w) eq).trans (has_fold_blanks some solid before behind)).symm

theorem has_fold_stripStart (p : Text) : has (fold (stripStart p)) w = has (fold p) w := by
  obtain ⟨a, eq, before⟩ := exists_stripStart p
  have blanks := has_fold_blanks some solid before (t := stripStart p) (b := []) nofun
  rw [List.append_nil, ← eq] at blanks
  exact blanks.symm

theorem has_fold_stripEnd (p : Text) : has (fold (stripEnd p)) w = has (fold p) w := by
  obtain ⟨b, eq, behind⟩ := exists_stripEnd p
  have blanks := has_fold_blanks some solid (a := []) nofun behind (t := stripEnd p)
  rw [List.nil_append, ← eq] at blanks
  exact blanks.symm

/-- A word without a comma is in one of the pieces. -/
theorem has_fold_join (pieces : List Text) :
    has (fold (join [','] pieces)) w = pieces.any fun p => has (fold p) w := by
  have comma : ',' ∉ w := fun mem => absurd (solid _ mem) (by decide)
  induction pieces with
  | nil => exact has_nil some
  | cons p pieces ih =>
    cases pieces with
    | nil => simp [join]
    | cons q pieces =>
      rw [fold_join_cons (List.cons_ne_nil _ _), has_append some comma, ih]
      rfl

theorem any_tightenRest (pieces : List Text) :
    ((tightenCommas.tightenRest pieces).any fun p => has (fold p) w) =
      pieces.any fun p => has (fold p) w := by
  fun_induction tightenCommas.tightenRest pieces with
  | case1 => rfl
  | case2 last => simp [has_fold_stripStart some solid]
  | case3 piece rest _ ih => rw [List.any_cons, List.any_cons, ih, has_fold_strip some solid]

/-- A word is in the value in the brackets if it is in the value. -/
theorem has_fold_compact (raw : Text) : has (fold (compact raw)) w = has (fold raw) w := by
  rw [compact, squeezeBlanks, fold_squeezeFrom (by decide), has_squeezeFrom (by decide) some solid,
    tightenCommas]
  conv_rhs => rw [← join_splitOn ',' raw]
  rw [has_fold_join some solid, has_fold_join some solid]
  generalize splitOn ',' raw = pieces
  unfold tightenCommas.tighten
  split
  · rfl
  · rfl
  · rw [List.any_cons, List.any_cons, any_tightenRest some solid, has_fold_stripEnd some solid]

omit some in
/-- The value in the brackets starts with a word if the value does. -/
theorem startsWith_fold_compact (raw : Text) :
    startsWith (fold (compact raw)) w = startsWith (fold raw) w := by
  have comma : ',' ∉ w := fun mem => absurd (solid _ mem) (by decide)
  rw [compact, squeezeBlanks, fold_squeezeFrom (by decide), startsWith_squeezeFrom (by decide) solid,
    tightenCommas]
  conv_rhs => rw [← join_splitOn ',' raw]
  generalize splitOn ',' raw = pieces
  unfold tightenCommas.tighten
  split
  · rfl
  · rfl
  · rename_i first rest more
    have more : rest ≠ [] := fun none => more (none ▸ rfl)
    rw [fold_join_cons more, fold_join_cons (tightenRest_ne_nil more), startsWith_append comma, startsWith_append comma]
    obtain ⟨b, eq, behind⟩ := exists_stripEnd first
    conv_rhs => rw [eq, fold_append, fold_marks fun c mem => isMark_of_isBlank (behind c mem)]
    cases b with
    | nil => rw [List.append_nil]
    | cons c b =>
      have blank := isMark_of_isBlank (behind c (List.mem_cons_self ..))
      refine (startsWith_append (fun mem => ?_) _ _).symm
      rw [solid c mem] at blank
      cases blank

end Commas

/-! ### What a value is taken for -/

/-- A number with a unit has no other characters. -/
theorem isMeasureChar_of_isMeasure {t : Text} (measure : isMeasure t = true) :
    ∀ c ∈ t, isMeasureChar c = true := by
  have decimals : ∀ {u : Text}, ∀ c ∈ u.takeWhile isDecimal, isMeasureChar c = true := fun c mem => by
    simp [isMeasureChar, List.mem_takeWhile_imp mem]
  have units : ∀ {u : Text}, u.all isUnitChar = true → ∀ c ∈ u, isMeasureChar c = true :=
    fun all c mem => by simp [isMeasureChar, List.all_eq_true.mp all c mem]
  have cut : ∀ u : Text, u = u.takeWhile isDecimal ++ u.drop (u.takeWhile isDecimal).length := fun u => by
    rw [Markup.drop_length_takeWhile, List.takeWhile_append_dropWhile]
  unfold isMeasure at measure
  extract_lets body whole rest at measure
  have rest_eq : rest = body.drop whole.length := rfl
  clear_value rest
  have inRest : ∀ c ∈ rest, isMeasureChar c = true := by
    split at measure
    · rename_i after
      simp only [Bool.and_eq_true] at measure
      refine List.forall_mem_cons.mpr ⟨rfl, fun c mem => ?_⟩
      rw [cut after] at mem
      exact (List.mem_append.mp mem).elim (decimals c) (units measure.2 c)
    · simp only [Bool.and_eq_true] at measure
      exact units measure.2
  have inBody : ∀ c ∈ body, isMeasureChar c = true := by
    rw [cut body]
    exact fun c mem => (List.mem_append.mp mem).elim (decimals c) fun mem => inRest c (rest_eq ▸ mem)
  intro c mem
  unfold body at inBody
  split at inBody
  · obtain rfl | mem := List.mem_cons.mp mem
    · rfl
    · exact inBody c mem
  · exact inBody c mem

/-- Marks are in no number with a unit. -/
theorem not_isMeasureChar_of_isMark {c : Char} (mark : isMark c = true) : isMeasureChar c = false :=
  (isMark_apart mark).2.2.2

/-- The forms of sigma are in no number with a unit. -/
theorem isMeasure_map_evenSigma (t : Text) : isMeasure (t.map evenSigma) = isMeasure t := by
  have stays : (∀ c ∈ t.map evenSigma, isMeasureChar c = true) ∨ (∀ c ∈ t, isMeasureChar c = true) →
      t.map evenSigma = t := by
    intro chars
    refine (List.map_congr_left fun c mem => ?_).trans (List.map_id t)
    unfold evenSigma
    split
    · rename_i sigma
      obtain chars | chars := chars
      · have here := chars _ (List.mem_map_of_mem mem)
        rw [evenSigma, if_pos sigma] at here
        exact absurd here (by decide)
      · have here := chars c mem
        rw [← Char.ofNat_toNat c, sigma] at here
        exact absurd here (by decide)
    · rfl
  cases mapped : isMeasure (t.map evenSigma) with
  | true => rw [← mapped, stays (.inl (isMeasureChar_of_isMeasure mapped))]
  | false =>
    cases plain : isMeasure t with
    | false => rfl
    | true => rw [stays (.inr (isMeasureChar_of_isMeasure plain)), plain] at mapped; cases mapped

/-- A value without marks stays as it is. -/
theorem compact_eq_self {raw : Text} (noMark : ∀ c ∈ raw, isMark c = false) : compact raw = raw := by
  have single : tightenCommas raw = raw := tightenCommas_eq_self fun mem => absurd (noMark _ mem) (by decide)
  rw [compact, single, squeezeBlanks, squeezeFrom_eq_self]
  exact fun c mem => Bool.eq_false_iff.mpr fun blank => by
    have := noMark c mem
    rw [isMark_of_isBlank blank] at this
    cases this

/-- A value that has no marks in the brackets has none. -/
theorem noMark_of_compact {raw : Text} (noMark : ∀ c ∈ compact raw, isMark c = false) :
    ∀ c ∈ raw, isMark c = false := by
  have noComma : ',' ∉ raw := fun comma =>
    absurd (noMark _ (mem_squeezeFrom (by decide) (comma_mem_tightenCommas comma) false)) (by decide)
  rw [compact, tightenCommas_eq_self noComma] at noMark
  intro c mem
  cases blank : isBlank c with
  | true => exact absurd (noMark _ (filler_mem_squeezeFrom blank mem)) (by decide)
  | false => exact noMark c (mem_squeezeFrom blank mem false)

/-- A value is a number with a unit in the brackets if it is one. -/
theorem isMeasure_fold_compact (raw : Text) :
    isMeasure (fold (compact raw)) = isMeasure (fold raw) := by
  have plain : ∀ {t : Text}, isMeasure (fold t) = true → ∀ c ∈ t, isMark c = false := by
    intro t measure c mem
    refine Bool.eq_false_iff.mpr fun mark => ?_
    have here : c ∈ fold t := List.mem_flatMap.mpr ⟨c, mem, by simp [foldChar_mark mark]⟩
    have := isMeasureChar_of_isMeasure measure c here
    rw [not_isMeasureChar_of_isMark mark] at this
    cases this
  have same : isMeasure (fold (compact raw)) = true ∨ isMeasure (fold raw) = true →
      compact raw = raw := fun measure =>
    compact_eq_self (measure.elim (fun inside => noMark_of_compact (plain inside)) plain)
  rw [Bool.eq_iff_iff]
  exact ⟨fun measure => same (.inl measure) ▸ measure, fun measure => (same (.inr measure)).symm ▸ measure⟩

/-! ### Lengths and images in square brackets -/

/-- A value in lower case is a length. -/
def lengthForm (v : Text) : Bool :=
  if startsWith v "length:".toList then true
  else if startsWith v "color:".toList then false
  else isMeasure v || lengthFunctions.any (startsWith v)

/-- A value in lower case is an image. -/
def imageForm (v : Text) : Bool := startsWith v "url(".toList || has v "gradient(".toList

/-- The words that tell what a value is. -/
def formWords : List Text :=
  "length:".toList :: "color:".toList :: "url(".toList :: "gradient(".toList :: lengthFunctions

/-- They are in small letters, without a mark. -/
theorem small_formWords : ∀ w ∈ formWords, ∀ d ∈ w,
    isMark d = false ∧ isSmallCode d.toNat = true ∧ foldChar d = [d] := by
  decide

theorem mem_formWords {w : Text} (mem : w ∈ lengthFunctions) : w ∈ formWords := by simp [formWords, mem]

theorem solid_formWord {w : Text} (mem : w ∈ formWords) : Solid w := fun d inWord =>
  (small_formWords w mem d inWord).1

theorem fold_formWord {w : Text} (mem : w ∈ formWords) : fold w = w := by
  rw [fold, List.flatMap_congr fun d inWord => (small_formWords w mem d inWord).2.2, List.flatMap_singleton']

/-- Words in small letters do not mind which sigma is meant. -/
theorem evenSigma_eq_iff {w : Text} (small : ∀ d ∈ w, isSmallCode d.toNat = true ∧ foldChar d = [d])
    {t : Text} : ∀ c ∈ t, ∀ d ∈ w, evenSigma c = d ↔ c = d := by
  intro c _ d mem
  obtain ⟨letter, stays⟩ := small d mem
  unfold evenSigma
  split
  · rename_i final
    refine ⟨fun eq => ?_, fun eq => ?_⟩
    · rw [← eq] at letter
      exact absurd letter (by decide)
    · rw [← eq, ← Char.ofNat_toNat c, final] at stays
      exact absurd stays (by decide)
  · exact Iff.rfl

/-- Such a word is told in either form of lower case. -/
theorem startsWith_fold {w : Text} (mem : w ∈ formWords) (t : Text) :
    startsWith (fold t) w = startsWith (lower t) w := by
  rw [← map_lower]
  exact startsWith_map (evenSigma_eq_iff fun d inWord => (small_formWords w mem d inWord).2)

/-- Lengths are told by the characters in lower case. -/
theorem isLength_eq (t : Text) : isLength t = lengthForm (fold (strip t)) := by
  have functions : lengthFunctions.any (startsWith (fold (strip t))) =
      lengthFunctions.any (startsWith (lower (strip t))) := by
    rw [Bool.eq_iff_iff, List.any_eq_true, List.any_eq_true]
    refine exists_congr fun w => and_congr_right fun mem => ?_
    rw [startsWith_fold (mem_formWords mem)]
  have measure : isMeasure (fold (strip t)) = isMeasure (lower (strip t)) := by
    rw [← map_lower, isMeasure_map_evenSigma]
  rw [isLength, lengthForm, startsWith_fold (by simp [formWords]), startsWith_fold (by simp [formWords]),
    functions, measure]

theorem looksLikeImage_eq (t : Text) : looksLikeImage t = imageForm (fold (strip t)) := by
  have gradient := small_formWords "gradient(".toList (by simp [formWords])
  rw [looksLikeImage, imageForm, startsWith_fold (by simp [formWords]), ← map_lower,
    has_map (evenSigma_eq_iff fun d mem => (gradient d mem).2)]

theorem lengthForm_compact (raw : Text) : lengthForm (fold (compact raw)) = lengthForm (fold raw) := by
  have functions : lengthFunctions.any (startsWith (fold (compact raw))) =
      lengthFunctions.any (startsWith (fold raw)) := by
    rw [Bool.eq_iff_iff, List.any_eq_true, List.any_eq_true]
    refine exists_congr fun w => and_congr_right fun mem => ?_
    rw [startsWith_fold_compact (solid_formWord (mem_formWords mem))]
  rw [lengthForm, lengthForm, startsWith_fold_compact (solid_formWord (by simp [formWords])),
    startsWith_fold_compact (solid_formWord (by simp [formWords])), functions, isMeasure_fold_compact]

theorem imageForm_compact (raw : Text) : imageForm (fold (compact raw)) = imageForm (fold raw) := by
  rw [imageForm, imageForm, startsWith_fold_compact (solid_formWord (by simp [formWords])),
    has_fold_compact (by decide) (solid_formWord (by simp [formWords]))]

/-- There are no blanks in the brackets. -/
theorem not_isBlank_of_mem_compact {raw : Text} {c : Char} (mem : c ∈ compact raw) :
    isBlank c = false := not_isBlank_of_mem_squeezeFrom (by decide) mem

/-- **Lengths in brackets**: the value in the brackets is a length if the value is one. -/
theorem isLength_compact (value : Text) : isLength (compact (strip value)) = isLength value := by
  rw [isLength_eq, isLength_eq, strip_eq_self fun c mem => not_isBlank_of_mem_compact mem,
    lengthForm_compact]

/-- **Images in brackets**: the value in the brackets is an image if the value is one. -/
theorem looksLikeImage_compact (value : Text) :
    looksLikeImage (compact (strip value)) = looksLikeImage value := by
  rw [looksLikeImage_eq, looksLikeImage_eq, strip_eq_self fun c mem => not_isBlank_of_mem_compact mem,
    imageForm_compact]

/-! ### Hints -/

section Hints

variable {t : Text} (filled : ∀ c ∈ t, isBlank c = false)
include filled

/-- A value that says that it is a length is one. -/
theorem isLength_lengthHint : isLength ("length:".toList ++ t) = true := by
  have all : ∀ c ∈ "length:".toList ++ t, isBlank c = false := fun c mem =>
    (List.mem_append.mp mem).elim ((by decide : ∀ c ∈ "length:".toList, isBlank c = false) c) (filled c)
  rw [isLength_eq, strip_eq_self all, fold_append, fold_formWord (by simp [formWords]), lengthForm]
  rfl

theorem strip_colorHint : strip ("color:".toList ++ t) = "color:".toList ++ t :=
  strip_eq_self fun c mem =>
    (List.mem_append.mp mem).elim ((by decide : ∀ c ∈ "color:".toList, isBlank c = false) c) (filled c)

/-- A value that says that it is a colour is no length. -/
theorem isLength_colorHint : isLength ("color:".toList ++ t) = false := by
  rw [isLength_eq, strip_colorHint filled, fold_append,
    fold_formWord (by simp [formWords]), lengthForm]
  rfl

/-- The hint makes no image of a colour. -/
theorem looksLikeImage_colorHint (noImage : looksLikeImage t = false) :
    looksLikeImage ("color:".toList ++ t) = false := by
  rw [looksLikeImage_eq, strip_eq_self filled, imageForm, Bool.or_eq_false_iff] at noImage
  rw [looksLikeImage_eq, strip_colorHint filled, fold_append,
    fold_formWord (by simp [formWords]), imageForm]
  have behind : has ("color:".toList ++ fold t) "gradient(".toList = has (fold t) "gradient(".toList := by
    show has ('c' :: 'o' :: 'l' :: 'o' :: 'r' :: ':' :: fold t) "gradient(".toList = _
    simp only [has_cons]
    rfl
  rw [behind, noImage.2]
  rfl

end Hints

/-! ### Colours in their normal spelling -/

/-- The characters of a word are in the text that it is found in. -/
theorem mem_of_has {t w : Text} (found : has t w = true) : ∀ c ∈ w, c ∈ t := by
  intro c mem
  induction t with
  | nil =>
    rw [has_nil (List.ne_nil_of_mem mem)] at found
    cases found
  | cons d t ih =>
    rw [has_cons, Bool.or_eq_true] at found
    obtain here | later := found
    · exact ( List.isPrefixOf_iff_prefix.mp here).subset mem
    · exact List.mem_cons_of_mem _ (ih later)

/-- A word in small letters is in the lower case of a text in lower case as it is in the text. -/
theorem has_fold_lower {t w : Text} (small : ∀ d ∈ w, isSmallCode d.toNat = true ∧ foldChar d = [d]) :
    has (fold (lower t)) w = has (fold t) w := by
  let g : Char → Char := fun c => (foldChar c).headD c
  have single : ∀ c ∈ lower t, foldChar c = [g c] := fun c mem => by
    obtain ⟨x, eq⟩ := foldChar_single (not_isCapitalCode_of_mem_lower mem)
    rw [eq, show g c = x by simp [g, eq]]
  have chars : fold (lower t) = (lower t).map g := by
    rw [fold, List.map_eq_flatMap]
    exact List.flatMap_congr fun c mem => single c mem
  have same : ∀ c ∈ lower t, ∀ d ∈ w, g c = d ↔ c = d := by
    intro c mem d mem'
    obtain ⟨letter, stays⟩ := small d mem'
    constructor
    · rintro eq
      exact eq_of_foldChar_small (not_isCapitalCode_of_mem_lower mem) letter (eq ▸ single c mem)
    · rintro rfl
      simp [g, stays]
  rw [chars, has_map same, ← map_lower, has_map (evenSigma_eq_iff small)]

/-- A hexadecimal digit is no bracket. -/
theorem hexFigure_ne {n : Nat} (small : n < 16) : hexFigure n ≠ '(' := by
  revert n
  decide

/-- A colour in its normal spelling that is one in hexadecimal has no bracket, or it is the value in its
normal spelling. -/
theorem normalizeColor_cases (value : Text) :
    normalizeColor value = normalize value ∨ '(' ∉ normalizeColor value := by
  unfold normalizeColor
  dsimp only
  split
  · rename_i r g b spelling
    split
    · rename_i hex
      right
      simp only [List.all_cons, List.all_nil, Bool.and_true, Bool.and_eq_true] at hex
      obtain ⟨red, green, blue⟩ := hex
      have noBracket : ∀ {c}, isHexChar c = true → '(' ≠ c := by
        rintro c hex rfl
        exact absurd hex (by decide)
      simp [noBracket red, noBracket green, noBracket blue]
    · exact .inl rfl
  · split
    · rename_i channels opacity parts
      split
      · rename_i full
        right
        simp only [Bool.and_eq_true, List.all_eq_true, decide_eq_true_eq] at full
        rintro mem
        obtain bad | mem := List.mem_cons.mp mem
        · exact absurd bad (by decide)
        obtain ⟨n, channel, mem⟩ := List.mem_flatMap.mp mem
        have small := full.2 n channel
        simp only [List.mem_cons, List.not_mem_nil, or_false] at mem
        obtain eq | eq := mem
        · exact hexFigure_ne (by omega) eq.symm
        · exact hexFigure_ne (by omega) eq.symm
      · exact .inl rfl
    · exact .inl rfl

/-- No image becomes of a value when it is spelled in hexadecimal. -/
theorem looksLikeImage_normalizeColor {value : Text} (noImage : looksLikeImage value = false)
    (hash : startsWith (normalizeColor value) ['#'] = true) :
    looksLikeImage (normalizeColor value) = false := by
  rw [looksLikeImage_eq, imageForm, Bool.or_eq_false_iff] at noImage ⊢
  have small := small_formWords "gradient(".toList (by simp [formWords])
  have solid := solid_formWord (w := "gradient(".toList) (by simp [formWords])
  constructor
  · obtain ⟨rest, eq⟩ := List.isPrefixOf_iff_prefix.mp hash
    rw [← eq]
    have first : ∃ more, strip (['#'] ++ rest) = '#' :: more := by
      have start : stripStart ('#' :: rest) = '#' :: rest := rfl
      obtain ⟨b, last, behind⟩ := exists_stripEnd ('#' :: rest)
      cases ends : stripEnd ('#' :: rest) with
      | nil =>
        rw [ends, List.nil_append] at last
        exact absurd (behind '#' (last ▸ List.mem_cons_self ..)) (by decide)
      | cons c more =>
        rw [ends, List.cons_append, List.cons.injEq] at last
        exact ⟨more, by rw [List.singleton_append, strip, start, ends, ← last.1]⟩
    obtain ⟨more, eq⟩ := first
    rw [eq, fold_cons, show foldChar '#' = ['#'] by decide]
    rfl
  · rw [has_fold_strip (by decide) solid]
    obtain normal | noBracket := normalizeColor_cases value
    · rw [normal, normalize, squeezeBlanks, fold_squeezeFrom (by decide),
        has_squeezeFrom (by decide) (by decide) solid, has_fold_lower fun d mem => (small d mem).2]
      exact noImage.2
    · refine Bool.eq_false_iff.mpr fun found => ?_
      obtain ⟨c, mem, bracket⟩ := List.mem_flatMap.mp (mem_of_has found '(' (by decide))
      exact noBracket (eq_of_mem_foldChar (by decide) bracket ▸ mem)

end Retouch.Style
