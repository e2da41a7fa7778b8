import Mathlib.Data.List.Basic
import Retouch.Proofs.Markup.Value
import Retouch.Proofs.Text
import Retouch.Style.ObjectLiteral

/-!
# Tokens of style objects

The text of a style object is cut into tokens, each as long as possible. A token is proper if its text has the
form of its kind (`Token.IsProper`), and all tokens that are cut are proper (`isProper_of_mem_tokensFrom?`).
Written down again, a proper token is cut off the text where it ends, provided that what follows does not go on
with it (`tokensFrom?_text`).
-/

namespace Retouch.Style.ObjectLiteral

open Retouch.Text Retouch.Markup

/-! ### Names -/

/-- A name: a letter, an underscore or a dollar sign, and what may follow. -/
def IsName (t : Text) : Prop :=
  ∃ c rest, t = c :: rest ∧ isNameStart c = true ∧ ∀ d ∈ rest, isNameChar d = true

instance (t : Text) : Decidable (IsName t) :=
  match t with
  | [] => .isFalse fun ⟨_, _, shape, _⟩ => nomatch shape
  | c :: rest =>
    decidable_of_iff (isNameStart c = true ∧ ∀ d ∈ rest, isNameChar d = true)
      ⟨fun is => ⟨c, rest, rfl, is⟩, fun ⟨_, _, shape, is⟩ => by
        obtain ⟨rfl, rfl⟩ := List.cons.inj shape
        exact is⟩

/-! ### Strings and templates -/

/-- What stands between the quotes of a string. -/
inductive StringBody (q : Char) : Text → Prop where
  /-- A string may be empty. -/
  | nil : StringBody q []
  /-- A backslash covers the next character, but no line feed. -/
  | covered {c : Char} {t : Text} : c ≠ '\n' → StringBody q t → StringBody q ('\\' :: c :: t)
  /-- Other characters stand for themselves. -/
  | plain {c : Char} {t : Text} : c ≠ q → c ≠ '\\' → StringBody q t → StringBody q (c :: t)

/-- One after the other. -/
theorem StringBody.append {q : Char} {s t : Text} (first : StringBody q s) (second : StringBody q t) :
    StringBody q (s ++ t) := by
  induction first with
  | nil => exact second
  | covered noFeed _ ih => exact .covered noFeed ih
  | plain goes noCover _ ih => exact .plain goes noCover ih

/-- A text that needs no covers may stand in quotes. -/
theorem StringBody.of_forall {q : Char} {t : Text} (plain : ∀ c ∈ t, c ≠ q ∧ c ≠ '\\') : StringBody q t := by
  induction t with
  | nil => exact .nil
  | cons c t ih =>
    obtain ⟨⟨goes, noCover⟩, later⟩ := List.forall_mem_cons.mp plain
    exact .plain goes noCover (ih later)

/-- A string ends at the first quote that is not covered. -/
theorem stringLength?_eq_some_iff {q : Char} (noCover : q ≠ '\\') {t : Text} {n : Nat} :
    stringLength? q t = some n ↔
      ∃ body rest, t = body ++ q :: rest ∧ StringBody q body ∧ n = body.length + 1 := by
  constructor
  · intro read
    fun_induction stringLength? q t generalizing n with
    | case1 => cases read
    | case2 => cases read
    | case3 c rest noFeed ih =>
      obtain ⟨m, behind, rfl⟩ := Option.map_eq_some_iff.mp read
      obtain ⟨body, rest, rfl, inside, rfl⟩ := ih behind
      exact ⟨'\\' :: c :: body, rest, rfl, .covered (by simpa using noFeed) inside, rfl⟩
    | case4 => cases read
    | case5 c rest _ noCover same =>
      obtain rfl := Option.some.inj read
      exact ⟨[], rest, by rw [eq_of_beq same, List.nil_append], .nil, rfl⟩
    | case6 c rest _ noCover goes ih =>
      obtain ⟨m, behind, rfl⟩ := Option.map_eq_some_iff.mp read
      obtain ⟨body, rest, rfl, inside, rfl⟩ := ih behind
      exact ⟨c :: body, rest, rfl, .plain (by simpa using goes) (by simpa using noCover) inside, rfl⟩
  · rintro ⟨body, rest, rfl, inside, rfl⟩
    induction inside with
    | nil => simp [stringLength?, noCover]
    | covered noFeed _ ih => simp [stringLength?, noFeed, ih]
    | plain goes noCover _ ih => simp [stringLength?, goes, noCover, ih]

/-- A template ends at the first back quote, and no dollar sign comes before it. -/
theorem templateLength?_eq_some_iff {t : Text} {n : Nat} :
    templateLength? t = some n ↔
      ∃ body rest, t = body ++ backQuote :: rest ∧ (∀ c ∈ body, c ≠ backQuote ∧ c ≠ '$') ∧
        n = body.length + 1 := by
  have isBody : ∀ c : Char, (c != '\x60' && c != '$') = true ↔ c ≠ backQuote ∧ c ≠ '$' := by
    intro c
    simp [backQuote]
  unfold templateLength?
  constructor
  · intro read
    obtain ⟨body, rest, rfl, run, stops⟩ := exists_run (fun c => c != '\x60' && c != '$') t
    rw [takeWhile_run run stops] at read
    dsimp only at read
    split at read
    · rename_i quote
      obtain rfl := Option.some.inj read
      rw [List.getElem?_append_right (Nat.le_refl _), Nat.sub_self, beq_iff_eq] at quote
      obtain ⟨rest, rfl⟩ : ∃ tail, rest = backQuote :: tail := by
        cases rest with
        | nil => simp at quote
        | cons c rest => exact ⟨rest, congrArg (· :: rest) (Option.some.inj quote)⟩
      exact ⟨body, rest, rfl, fun c mem => (isBody c).mp (run c mem), rfl⟩
    · cases read
  · rintro ⟨body, rest, rfl, run, rfl⟩
    have stops : ∀ c, (backQuote :: rest).head? = some c → (c != '\x60' && c != '$') = false := by
      rintro c ⟨⟩
      decide
    rw [takeWhile_run (fun c mem => (isBody c).mpr (run c mem)) stops]
    simp [backQuote]

/-! ### Numbers -/

/-- A sign, or none. -/
def IsSign (t : Text) : Prop := t = [] ∨ t = ['+'] ∨ t = ['-']

/-- What holds of every figure is settled by their codes. -/
theorem forall_isFigure {P : Char → Prop} (all : ∀ n ∈ List.range' 48 10, P (Char.ofNat n)) {c : Char}
    (figure : isFigure c = true) : P c := by
  have listed : c.toNat ∈ List.range' 48 10 := by
    simp only [isFigure, Bool.and_eq_true, decide_eq_true_eq] at figure
    exact List.mem_range'_1.mpr ⟨figure.1, Nat.lt_succ_of_le figure.2⟩
  exact Char.ofNat_toNat c ▸ all _ listed

/-- A figure goes on with a name, but starts none. -/
theorem isNameChar_of_isFigure {c : Char} (figure : isFigure c = true) :
    isNameChar c = true ∧ isNameStart c = false :=
  forall_isFigure (P := fun c => isNameChar c = true ∧ isNameStart c = false) (by decide) figure

/-- Figures. -/
def IsFigures (t : Text) : Prop := ∀ c ∈ t, isFigure c = true

/-- An exponent, or none. -/
def IsExponent (t : Text) : Prop :=
  t = [] ∨ ∃ e sign figures, t = e :: (sign ++ figures) ∧ (e = 'e' ∨ e = 'E') ∧ IsSign sign ∧
    figures ≠ [] ∧ IsFigures figures

/-- The figures of a number with its point: there is a figure in front of the point or behind it. -/
def IsDecimals (t : Text) : Prop :=
  t ≠ [] ∧ IsFigures t ∨
    ∃ whole fraction, t = whole ++ '.' :: fraction ∧ IsFigures whole ∧ IsFigures fraction ∧
      (whole ≠ [] ∨ fraction ≠ [])

/-- A number: a sign, figures with or without a point, and an exponent. -/
def IsNumber (t : Text) : Prop :=
  ∃ sign decimals exponent, t = sign ++ (decimals ++ exponent) ∧ IsSign sign ∧ IsDecimals decimals ∧
    IsExponent exponent

section Numbers

variable {sign decimals exponent rest t : Text} {n : Nat}

/-- The length of the sign at the start of a text. -/
def signLength : Text → Nat
  | '+' :: _ => 1
  | '-' :: _ => 1
  | _ => 0

/-- The length of the figures, with a point or without, at the start of a text. -/
def decimalsLength (t : Text) : Nat :=
  let whole := (t.takeWhile isFigure).length
  match t.drop whole with
  | '.' :: rest =>
    let fraction := (rest.takeWhile isFigure).length
    if whole == 0 && fraction == 0 then 0 else whole + 1 + fraction
  | _ => whole

/-- An exponent is a letter, a sign and figures. -/
theorem exponentLength_cons (c : Char) (rest : Text) :
    exponentLength (c :: rest) =
      if c == 'e' || c == 'E' then
        let figures := ((rest.drop (signLength rest)).takeWhile isFigure).length
        if figures == 0 then 0 else 1 + signLength rest + figures
      else 0 := rfl

/-- A number is a sign, figures and an exponent. -/
theorem numberLength?_eq (t : Text) :
    numberLength? t =
      let body := t.drop (signLength t)
      if decimalsLength body == 0 then none
      else some (signLength t + decimalsLength body + exponentLength (body.drop (decimalsLength body))) := rfl

/-- A text starts with a sign, or with none. -/
theorem exists_sign (t : Text) : ∃ sign rest, t = sign ++ rest ∧ IsSign sign ∧ signLength t = sign.length := by
  fun_cases signLength t with
  | case1 rest => exact ⟨['+'], rest, rfl, .inr (.inl rfl), rfl⟩
  | case2 rest => exact ⟨['-'], rest, rfl, .inr (.inr rfl), rfl⟩
  | case3 => exact ⟨[], t, rfl, .inl rfl, rfl⟩

theorem signLength_append (is : IsSign sign) (stops : ∀ c ∈ rest.head?, c ≠ '+' ∧ c ≠ '-') :
    signLength (sign ++ rest) = sign.length := by
  rcases is with rfl | rfl | rfl
  · fun_cases signLength rest with
    | case1 => simp at stops
    | case2 => simp at stops
    | case3 => simp_all
  · rfl
  · rfl

/-- Figures without a point. -/
theorem decimalsLength_whole {whole : Text} (figures : IsFigures whole)
    (stops : ∀ c ∈ rest.head?, isFigure c = false ∧ c ≠ '.') :
    decimalsLength (whole ++ rest) = whole.length := by
  rw [decimalsLength, takeWhile_run figures fun c head => (stops c head).1, List.drop_left]
  dsimp only
  split
  · exact absurd rfl (stops '.' rfl).2
  · rfl

/-- Figures with a point. -/
theorem decimalsLength_point {whole fraction : Text} (figures : IsFigures whole) (figures' : IsFigures fraction)
    (stops : ∀ c, rest.head? = some c → isFigure c = false) :
    decimalsLength (whole ++ '.' :: (fraction ++ rest)) =
      if whole.length == 0 && fraction.length == 0 then 0 else whole.length + 1 + fraction.length := by
  have point : ∀ c, ('.' :: (fraction ++ rest)).head? = some c → isFigure c = false := by
    rintro c ⟨⟩
    decide
  rw [decimalsLength, takeWhile_run figures point, List.drop_left]
  simp only [takeWhile_run figures' stops]

/-- A text starts with figures, or with none. -/
theorem exists_decimals (t : Text) :
    decimalsLength t = 0 ∨
      ∃ decimals rest, t = decimals ++ rest ∧ IsDecimals decimals ∧ decimalsLength t = decimals.length := by
  obtain ⟨whole, tail, rfl, figures, stops⟩ := exists_run isFigure t
  by_cases point : tail.head? = some '.'
  · obtain ⟨rest, rfl⟩ := List.head?_eq_some_iff.mp point
    obtain ⟨fraction, rest, rfl, figures', stops'⟩ := exists_run isFigure rest
    rw [decimalsLength_point figures figures' stops']
    split
    · exact .inl rfl
    · rename_i some
      refine .inr ⟨whole ++ '.' :: fraction, rest, by simp, .inr ⟨whole, fraction, rfl, figures, figures', ?_⟩, ?_⟩
      · by_contra none
        simp_all
      · simp only [List.length_append, List.length_cons]
        omega
  · have stops' : ∀ c ∈ tail.head?, isFigure c = false ∧ c ≠ '.' :=
      fun c head => ⟨stops c head, fun same => point (same ▸ head)⟩
    rw [decimalsLength_whole figures stops']
    cases whole with
    | nil => exact .inl rfl
    | cons c whole => exact .inr ⟨c :: whole, tail, rfl, .inl ⟨List.cons_ne_nil _ _, figures⟩, rfl⟩

theorem decimalsLength_append (is : IsDecimals decimals)
    (stops : ∀ c ∈ rest.head?, isFigure c = false ∧ c ≠ '.') :
    decimalsLength (decimals ++ rest) = decimals.length := by
  rcases is with ⟨-, figures⟩ | ⟨whole, fraction, rfl, figures, figures', some⟩
  · exact decimalsLength_whole figures stops
  · rw [List.append_assoc, List.cons_append, decimalsLength_point figures figures' fun c head => (stops c head).1,
      if_neg (by simpa [imp_iff_not_or] using some)]
    simp only [List.length_append, List.length_cons]
    omega

/-- A text starts with an exponent, or with none. -/
theorem exists_exponent (t : Text) :
    ∃ exponent rest, t = exponent ++ rest ∧ IsExponent exponent ∧ exponentLength t = exponent.length := by
  have none : exponentLength t = 0 →
      ∃ exponent rest, t = exponent ++ rest ∧ IsExponent exponent ∧ exponentLength t = exponent.length :=
    fun zero => ⟨[], t, rfl, .inl rfl, zero⟩
  cases t with
  | nil => exact none rfl
  | cons e t =>
    by_cases letter : (e == 'e' || e == 'E') = true
    · obtain ⟨sign, body, rfl, isSign, signed⟩ := exists_sign t
      obtain ⟨figures, rest, rfl, run, stops⟩ := exists_run isFigure body
      rw [exponentLength_cons, if_pos letter, signed, List.drop_left, takeWhile_run run stops] at none ⊢
      dsimp only at none ⊢
      by_cases some : (figures.length == 0) = true
      · rw [if_pos some] at none ⊢
        exact none rfl
      · refine ⟨e :: (sign ++ figures), rest, by simp, .inr ⟨e, sign, figures, rfl, ?_, isSign, ?_, run⟩, ?_⟩
        · simpa using letter
        · simpa using some
        · rw [if_neg some]
          simp only [List.length_append, List.length_cons]
          omega
    · rw [exponentLength_cons, if_neg letter] at none ⊢
      exact none rfl

theorem isFigure_ne_sign {c : Char} (figure : isFigure c = true) : c ≠ '+' ∧ c ≠ '-' :=
  forall_isFigure (P := fun c => c ≠ '+' ∧ c ≠ '-') (by decide) figure

theorem exponentLength_append (is : IsExponent exponent)
    (stops : ∀ c ∈ rest.head?, isFigure c = false ∧ c ≠ 'e' ∧ c ≠ 'E') :
    exponentLength (exponent ++ rest) = exponent.length := by
  rcases is with rfl | ⟨e, sign, figures, rfl, letter, isSign, some, run⟩
  · cases rest with
    | nil => rfl
    | cons c rest => simp [exponentLength_cons, (stops c rfl).2]
  · have unsigned : ∀ c ∈ (figures ++ rest).head?, c ≠ '+' ∧ c ≠ '-' := by
      cases figures with
      | nil => exact absurd rfl some
      | cons c figures =>
        rintro d ⟨⟩
        exact isFigure_ne_sign (run _ (List.mem_cons_self ..))
    have isLetter : (e == 'e' || e == 'E') = true := by simpa using letter
    rw [List.cons_append, List.append_assoc, exponentLength_cons, if_pos isLetter, signLength_append isSign unsigned,
      List.drop_left, takeWhile_run run fun c head => (stops c head).1]
    simp only [List.length_append, List.length_cons, beq_iff_eq, List.length_eq_zero_iff, some, if_false]
    omega

/-- What is read as a number is one. -/
theorem isNumber_of_numberLength? (read : numberLength? t = some n) : IsNumber (t.take n) := by
  obtain ⟨sign, body, rfl, isSign, signed⟩ := exists_sign t
  rw [numberLength?_eq, signed, List.drop_left] at read
  dsimp only at read
  split at read
  · cases read
  rename_i some
  rcases exists_decimals body with zero | ⟨decimals, tail, rfl, isDecimals, length⟩
  · simp [zero] at some
  obtain ⟨exponent, rest, rfl, isExponent, length'⟩ := exists_exponent tail
  rw [length, List.drop_left, length'] at read
  obtain rfl := Option.some.inj read
  refine ⟨sign, decimals, exponent, ?_, isSign, isDecimals, isExponent⟩
  rw [← List.append_assoc, ← List.append_assoc, ← List.append_assoc]
  exact List.take_left' (by simp [Nat.add_assoc])

theorem IsDecimals.head (is : IsDecimals decimals) :
    ∃ c rest, decimals = c :: rest ∧ (isFigure c = true ∨ c = '.') := by
  rcases is with ⟨some, figures⟩ | ⟨whole, fraction, rfl, figures, -, -⟩
  · obtain ⟨c, rest, rfl⟩ := List.exists_cons_of_ne_nil some
    exact ⟨c, rest, rfl, .inl (figures c (List.mem_cons_self ..))⟩
  · cases whole with
    | nil => exact ⟨'.', fraction, rfl, .inr rfl⟩
    | cons c whole => exact ⟨c, _, rfl, .inl (figures c (List.mem_cons_self ..))⟩

/-- A number is read up to its end, if nothing goes on with it. -/
theorem numberLength?_append (is : IsNumber t)
    (stops : ∀ c ∈ rest.head?, isFigure c = false ∧ c ≠ '.' ∧ c ≠ 'e' ∧ c ≠ 'E') :
    numberLength? (t ++ rest) = some t.length := by
  obtain ⟨sign, decimals, exponent, rfl, isSign, isDecimals, isExponent⟩ := is
  have unsigned : ∀ c ∈ (decimals ++ (exponent ++ rest)).head?, c ≠ '+' ∧ c ≠ '-' := by
    obtain ⟨d, more, rfl, start⟩ := isDecimals.head
    rintro c ⟨⟩
    rcases start with figure | rfl
    · exact isFigure_ne_sign figure
    · decide
  have ends : ∀ c ∈ (exponent ++ rest).head?, isFigure c = false ∧ c ≠ '.' := by
    rcases isExponent with rfl | ⟨e, more, figures, rfl, letter, -⟩
    · exact fun c head => ⟨(stops c head).1, (stops c head).2.1⟩
    · rintro c ⟨⟩
      rcases letter with rfl | rfl <;> decide
  have some : decimals ≠ [] := by
    obtain ⟨c, more, rfl, -⟩ := isDecimals.head
    exact List.cons_ne_nil c more
  rw [List.append_assoc, List.append_assoc, numberLength?_eq, signLength_append isSign unsigned, List.drop_left]
  dsimp only
  rw [decimalsLength_append isDecimals ends, List.drop_left,
    exponentLength_append isExponent fun c head => ⟨(stops c head).1, (stops c head).2.2⟩]
  simp [some, Nat.add_assoc]

end Numbers

/-! ### Tokens -/

/-- A string with its quotes. -/
def IsString (t : Text) : Prop :=
  ∃ q body, t = q :: (body ++ [q]) ∧ (q = '"' ∨ q = '\'') ∧ StringBody q body

/-- A template with its quotes; it has no substitutions. -/
def IsTemplate (t : Text) : Prop :=
  ∃ body, t = backQuote :: (body ++ [backQuote]) ∧ ∀ c ∈ body, c ≠ backQuote ∧ c ≠ '$'

namespace Token

/-- The characters of a token. -/
def text : Token → Text
  | .opening => ['{']
  | .closing => ['}']
  | .comma => [',']
  | .colon => [':']
  | .dot => ['.']
  | .spread => ['.', '.', '.']
  | .name t | .string t | .constant t => t

/-- The text of the token has the form of its kind. -/
def IsProper : Token → Prop
  | .name t => IsName t
  | .string t => IsString t
  | .constant t => IsNumber t ∨ IsTemplate t
  | _ => True

/-- What follows does not go on with the token. -/
def EndsAt : Token → Text → Prop
  | .name _, rest => ∀ c ∈ rest.head?, isNameChar c = false
  | .constant _, rest => ∀ c ∈ rest.head?, isNameChar c = false ∧ c ≠ '.'
  | .dot, rest => ∀ c ∈ rest.head?, isNameStart c = true
  | _, _ => True

end Token

section Cutting

variable {token : Token} {t rest : Text} {n : Nat} {c : Char}

/-- A number starts with a figure, a point or a sign. -/
theorem IsNumber.head (is : IsNumber t) :
    ∃ c rest, t = c :: rest ∧ (isFigure c = true ∨ c = '.' ∨ c = '+' ∨ c = '-') := by
  obtain ⟨sign, decimals, exponent, rfl, isSign, isDecimals, -⟩ := is
  rcases isSign with rfl | rfl | rfl
  · obtain ⟨c, rest, rfl, start⟩ := isDecimals.head
    exact ⟨c, _, rfl, start.imp_right .inl⟩
  · exact ⟨'+', _, rfl, by simp⟩
  · exact ⟨'-', _, rfl, by simp⟩

/-- A point without figures behind it is no number. -/
theorem numberLength?_point (stops : ∀ c, rest.head? = some c → isFigure c = false) :
    numberLength? ('.' :: rest) = none := by
  have none : decimalsLength ([] ++ '.' :: ([] ++ rest)) = 0 := decimalsLength_point nofun nofun stops
  rw [numberLength?_eq]
  exact if_pos (beq_iff_eq.mpr none)

/-- A character that is no mark starts a name, a string, a template or a number. -/
theorem tokenAt?_of_noMark (noMark : c ∉ ['{', '}', ',', ':'])
    (noSpread : startsWith (c :: rest) ['.', '.', '.'] = false) :
    tokenAt? (c :: rest) =
      if isNameStart c then some (.name (c :: rest.takeWhile isNameChar), (rest.takeWhile isNameChar).length + 1)
      else if c == '"' || c == '\'' then
        (stringLength? c rest).map fun n => (.string ((c :: rest).take (n + 1)), n + 1)
      else if c == '\x60' then
        (templateLength? rest).map fun n => (.constant ((c :: rest).take (n + 1)), n + 1)
      else match numberLength? (c :: rest) with
        | some n => some (.constant ((c :: rest).take n), n)
        | none => if c == '.' then some (.dot, 1) else none := by
  simp only [List.mem_cons, List.not_mem_nil, or_false, not_or] at noMark
  obtain ⟨noOpening, noClosing, noComma, noColon⟩ := noMark
  unfold tokenAt?
  refine (if_neg (by simpa using noOpening)).trans ((if_neg (by simpa using noClosing)).trans ?_)
  refine (if_neg (by simpa using noComma)).trans ((if_neg (by simpa using noColon)).trans ?_)
  exact if_neg (by simp [noSpread])

/-- A text that does not start with a dot does not start with three. -/
theorem startsWith_dots (noDot : c ≠ '.') : startsWith (c :: rest) ['.', '.', '.'] = false := by
  simp [startsWith, List.isPrefixOf, noDot.symm]

theorem take_quoted (q : Char) (body rest : Text) :
    (q :: (body ++ q :: rest)).take (body.length + 1 + 1) = q :: (body ++ [q]) := by
  rw [List.take_succ_cons, List.append_cons]
  exact congrArg _ (List.take_left' (by simp))

/-- What is read as a string is one, -/
theorem isString_take (quote : c = '"' ∨ c = '\'') (read : stringLength? c rest = some n) :
    IsString ((c :: rest).take (n + 1)) := by
  have noCover : c ≠ '\\' := by rcases quote with rfl | rfl <;> decide
  obtain ⟨body, rest, rfl, inside, rfl⟩ := (stringLength?_eq_some_iff noCover).mp read
  exact ⟨c, body, take_quoted c body rest, quote, inside⟩

/-- and what is read as a template is one. -/
theorem isTemplate_take (quote : c = backQuote) (read : templateLength? rest = some n) :
    IsTemplate ((c :: rest).take (n + 1)) := by
  obtain ⟨body, rest, rfl, plain, rfl⟩ := templateLength?_eq_some_iff.mp read
  exact ⟨body, quote ▸ take_quoted c body rest, plain⟩

/-- The token that is cut off a text is proper. -/
theorem isProper_of_tokenAt? (cut : tokenAt? t = some (token, n)) : token.IsProper := by
  cases t with
  | nil => cases cut
  | cons c rest =>
    by_cases mark : c ∈ ['{', '}', ',', ':']
    · simp only [List.mem_cons, List.not_mem_nil, or_false] at mark
      rcases mark with rfl | rfl | rfl | rfl <;> cases cut <;> trivial
    by_cases dots : startsWith (c :: rest) ['.', '.', '.'] = true
    · obtain ⟨rest, eq⟩ := List.isPrefixOf_iff_prefix.mp dots
      rw [← eq] at cut
      cases cut
      trivial
    rw [tokenAt?_of_noMark mark (by simpa using dots)] at cut
    split at cut
    · rename_i starts
      cases cut
      exact ⟨c, _, rfl, starts, fun d mem => List.mem_takeWhile_imp mem⟩
    split at cut
    · rename_i quote
      obtain ⟨n, read, result⟩ := Option.map_eq_some_iff.mp cut
      obtain rfl := (Prod.mk.inj result).1
      exact isString_take (by simpa using quote) read
    split at cut
    · rename_i quote
      obtain ⟨n, read, result⟩ := Option.map_eq_some_iff.mp cut
      obtain rfl := (Prod.mk.inj result).1
      exact .inr (isTemplate_take (eq_of_beq quote) read)
    split at cut
    · rename_i read
      cases cut
      exact .inl (isNumber_of_numberLength? read)
    · split at cut
      · cases cut
        trivial
      · cases cut

theorem noMark_of_class {p : Char → Bool} (is : p c = true) (no : ∀ d ∈ ['{', '}', ',', ':', '.'], p d = false) :
    c ∉ ['{', '}', ',', ':'] ∧ c ≠ '.' := by
  have other : ∀ d ∈ ['{', '}', ',', ':', '.'], c ≠ d := fun d mem => ne_of_class is (no d mem)
  simp only [List.forall_mem_cons] at other
  simp_all

theorem tokenAt?_string (is : IsString t) :
    tokenAt? (t ++ rest) = some (.string t, t.length) := by
  obtain ⟨q, body, rfl, quote, inside⟩ := is
  have noCover : q ≠ '\\' := by rcases quote with rfl | rfl <;> decide
  have read := (stringLength?_eq_some_iff noCover).mpr ⟨body, rest, rfl, inside, rfl⟩
  have plain : q ∉ ['{', '}', ',', ':'] ∧ q ≠ '.' ∧ ¬ isNameStart q = true := by
    rcases quote with rfl | rfl <;> decide
  rw [List.cons_append, List.append_assoc, List.singleton_append,
    tokenAt?_of_noMark plain.1 (startsWith_dots plain.2.1), if_neg plain.2.2, if_pos (by simpa using quote), read,
    Option.map_some, take_quoted]
  simp

theorem tokenAt?_template (is : IsTemplate t) :
    tokenAt? (t ++ rest) = some (.constant t, t.length) := by
  obtain ⟨body, rfl, plain⟩ := is
  have read := templateLength?_eq_some_iff.mpr ⟨body, rest, rfl, plain, rfl⟩
  rw [List.cons_append, List.append_assoc, List.singleton_append,
    tokenAt?_of_noMark (by decide) (startsWith_dots (by decide)), if_neg (by decide), if_neg (by decide),
    if_pos (by decide), read, Option.map_some, take_quoted]
  simp

theorem tokenAt?_number (is : IsNumber t)
    (stops : ∀ c ∈ rest.head?, isFigure c = false ∧ c ≠ '.' ∧ c ≠ 'e' ∧ c ≠ 'E') :
    tokenAt? (t ++ rest) = some (.constant t, t.length) := by
  have read := numberLength?_append is stops
  obtain ⟨c, body, rfl, start⟩ := is.head
  have plain : c ∉ ['{', '}', ',', ':'] ∧ ¬ isNameStart c = true ∧ ¬ (c == '"' || c == '\'') = true ∧
      ¬ (c == '\x60') = true := by
    rcases start with figure | rfl | rfl | rfl
    · exact forall_isFigure (P := fun c => c ∉ ['{', '}', ',', ':'] ∧ ¬ isNameStart c = true ∧
        ¬ (c == '"' || c == '\'') = true ∧ ¬ (c == '\x60') = true) (by decide) figure
    all_goals decide
  obtain ⟨noMark, noName, noQuote, noTemplate⟩ := plain
  -- three dots are no number
  have noSpread : startsWith (c :: (body ++ rest)) ['.', '.', '.'] = false := by
    refine Bool.eq_false_iff.mpr fun dots => ?_
    obtain ⟨tail, eq⟩ := List.isPrefixOf_iff_prefix.mp dots
    have none : numberLength? ('.' :: '.' :: '.' :: tail) = none := numberLength?_point (by rintro _ ⟨⟩; decide)
    rw [List.cons_append, ← eq] at read
    cases read.symm.trans none
  rw [List.cons_append] at read ⊢
  rw [tokenAt?_of_noMark noMark noSpread, if_neg noName, if_neg noQuote, if_neg noTemplate, read]
  have whole : ((c :: body) ++ rest).take (c :: body).length = c :: body := List.take_left' rfl
  exact congrArg (fun t => some (Token.constant t, _)) whole

/-- A proper token is cut off where it ends. -/
theorem tokenAt?_text (proper : token.IsProper) (ends : token.EndsAt rest) :
    tokenAt? (token.text ++ rest) = some (token, token.text.length) := by
  cases token with
  | opening | closing | comma | colon | spread => rfl
  | dot =>
    have noFigure : ∀ c, rest.head? = some c → isFigure c = false := by
      refine fun c head => Bool.eq_false_iff.mpr fun figure => ?_
      cases (ends c head).symm.trans (isNameChar_of_isFigure figure).2
    have noSpread : startsWith ('.' :: rest) ['.', '.', '.'] = false := by
      refine Bool.eq_false_iff.mpr fun dots => ?_
      obtain ⟨tail, eq⟩ := List.isPrefixOf_iff_prefix.mp dots
      obtain rfl : '.' :: '.' :: tail = rest := (List.cons.inj eq).2
      cases ends '.' rfl
    exact (tokenAt?_of_noMark (by decide) noSpread).trans (by rw [numberLength?_point noFigure]; rfl)
  | name t =>
    obtain ⟨c, body, rfl, starts, run⟩ := proper
    obtain ⟨noMark, noDot⟩ := noMark_of_class starts (by decide)
    show tokenAt? (c :: (body ++ rest)) = _
    rw [tokenAt?_of_noMark noMark (startsWith_dots noDot), if_pos starts, takeWhile_run run ends]
    rfl
  | string t => exact tokenAt?_string proper
  | constant t =>
    rcases proper with number | template
    · refine tokenAt?_number number fun c head => ?_
      obtain ⟨noName, noDot⟩ := ends c head
      refine ⟨Bool.eq_false_iff.mpr fun figure => ?_, noDot, ?_, ?_⟩
      · cases noName.symm.trans (isNameChar_of_isFigure figure).1
      all_goals
        rintro rfl
        revert noName
        decide
    · exact tokenAt?_template template

/-! ### Texts as tokens -/

/-- The tokens that are cut off a text are proper. -/
theorem isProper_of_mem_tokensFrom? {skip : Nat} {ts : List Token} (cut : tokensFrom? skip t = some ts) :
    ∀ token ∈ ts, token.IsProper := by
  fun_induction tokensFrom? skip t generalizing ts with
  | case1 =>
    cases cut
    exact List.forall_mem_nil _
  | case2 _ _ _ ih => exact ih cut
  | case3 _ _ _ ih => exact ih cut
  | case4 c rest _ token n read ih =>
    obtain ⟨more, behind, rfl⟩ := Option.map_eq_some_iff.mp cut
    exact List.forall_mem_cons.mpr ⟨isProper_of_tokenAt? read, ih behind⟩
  | case5 => cases cut

theorem tokensFrom?_skip (skip : Nat) (t : Text) : tokensFrom? skip t = tokensFrom? 0 (t.drop skip) := by
  induction skip generalizing t with
  | zero => rfl
  | succ skip ih =>
    cases t with
    | nil => simp [tokensFrom?]
    | cons c t => rw [tokensFrom?, ih, List.drop_succ_cons]

/-- A blank starts no name. -/
theorem isNameStart_of_isSpace (space : isSpace c = true) : isNameStart c = false := by
  have listed : c.toNat ∈ [9, 10, 12, 13, 32] := by
    simp only [isSpace, Bool.or_eq_true, beq_iff_eq] at space
    rcases space with (((rfl | rfl) | rfl) | rfl) | feed
    · decide
    · decide
    · decide
    · decide
    · simp [feed]
  have all : ∀ n ∈ [9, 10, 12, 13, 32], isNameStart (Char.ofNat n) = false := by decide
  simpa using all _ listed

/-- A blank stands between tokens. -/
theorem tokensFrom?_space (space : isSpace c = true) (t : Text) : tokensFrom? 0 (c :: t) = tokensFrom? 0 t := by
  rw [tokensFrom?, if_pos space]

/-- A proper token starts with no blank. -/
theorem Token.IsProper.head (proper : token.IsProper) : ∃ c rest, token.text = c :: rest ∧ isSpace c = false := by
  cases token with
  | opening | closing | comma | colon | dot | spread => exact ⟨_, _, rfl, by decide⟩
  | name t =>
    obtain ⟨c, rest, rfl, starts, -⟩ := proper
    refine ⟨c, rest, rfl, Bool.eq_false_iff.mpr fun space => ?_⟩
    cases starts.symm.trans (isNameStart_of_isSpace space)
  | string t =>
    obtain ⟨q, body, rfl, rfl | rfl, -⟩ := proper <;> exact ⟨_, _, rfl, by decide⟩
  | constant t =>
    rcases proper with number | ⟨body, rfl, -⟩
    · obtain ⟨c, rest, rfl, start⟩ := number.head
      refine ⟨c, rest, rfl, ?_⟩
      rcases start with figure | rfl | rfl | rfl
      · exact forall_isFigure (P := (isSpace · = false)) (by decide) figure
      all_goals decide
    · exact ⟨_, _, rfl, by decide⟩

/-- **A proper token is cut off a text** where it ends. -/
theorem tokensFrom?_text (token : Token) (proper : token.IsProper) (ends : token.EndsAt rest) :
    tokensFrom? 0 (token.text ++ rest) = (tokensFrom? 0 rest).map (token :: ·) := by
  have read := tokenAt?_text proper ends
  obtain ⟨c, u, shape, noSpace⟩ := proper.head
  rw [shape, List.cons_append] at read ⊢
  rw [tokensFrom?, if_neg (by simp [noSpace]), read]
  dsimp only
  rw [List.length_cons, Nat.add_sub_cancel, tokensFrom?_skip, List.drop_left]

end Cutting

end Retouch.Style.ObjectLiteral
