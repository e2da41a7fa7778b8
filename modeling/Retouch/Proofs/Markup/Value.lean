import Mathlib.Data.List.TakeWhile
import Retouch.Markup.Attribute
import Retouch.Proofs.Markup.Delimited

/-!
# How values are written

The value of an attribute is written in one of four ways: without delimiters, in quotes, in quotes that
stand in braces, or in braces alone. `ValueText.Reads` says when a value is what it looks like to the
reader of attributes, given what follows; it is then read back in its place (`readValue?_text`).
-/

namespace Retouch.Markup

open Retouch.Text

/-! ### Runs of characters -/

section Runs

variable {α : Type} {p : α → Bool} {body rest : List α}

/-- A run ends where what follows does not go on with it. -/
theorem takeWhile_run (run : ∀ a ∈ body, p a = true) (stops : ∀ a, rest.head? = some a → p a = false) :
    (body ++ rest).takeWhile p = body := by
  rw [List.takeWhile_append_of_pos run]
  cases rest with
  | nil => rw [List.takeWhile_nil, List.append_nil]
  | cons a rest => rw [List.takeWhile_cons_of_neg (by simp [stops a rfl]), List.append_nil]

/-- What follows a run. -/
theorem dropWhile_run (run : ∀ a ∈ body, p a = true) (stops : ∀ a, rest.head? = some a → p a = false) :
    (body ++ rest).dropWhile p = rest := by
  rw [List.dropWhile_append_of_pos run]
  cases rest with
  | nil => rfl
  | cons a rest => rw [List.dropWhile_cons_of_neg (by simp [stops a rfl])]

/-- A text starts with a run, which may be empty. -/
theorem exists_run (p : α → Bool) (l : List α) :
    ∃ run rest, l = run ++ rest ∧ (∀ a ∈ run, p a = true) ∧ ∀ a, rest.head? = some a → p a = false := by
  refine ⟨l.takeWhile p, l.dropWhile p, List.takeWhile_append_dropWhile.symm,
    fun a mem => List.mem_takeWhile_imp mem, fun a head => ?_⟩
  have stop := List.head?_dropWhile_not p l
  rw [head] at stop
  simpa using stop

/-- The characters behind the run at the start of a text. -/
theorem drop_length_takeWhile (p : α → Bool) (l : List α) :
    l.drop (l.takeWhile p).length = l.dropWhile p := by
  induction l with
  | nil => rfl
  | cons a l ih => by_cases h : p a = true <;> simp [h, ih]

end Runs

/-! ### Values in braces -/

theorem isOpener_of_isBlank {c : Char} (blank : isBlank c = true) : isOpener c = false :=
  isOpener_of_class blank (by decide)

theorem isBlank_of_isOpener {c : Char} (opens : isOpener c = true) : isBlank c = false :=
  Bool.eq_false_iff.mpr fun blank => by cases opens.symm.trans (isOpener_of_isBlank blank)

/-- Blanks pass in a block. -/
theorem blank_in_block {u : Text} (blank : ∀ c ∈ u, isBlank c = true) :
    ∀ c ∈ u, isOpener c = false ∧ c ≠ Opened.closer .block := fun c mem =>
  ⟨isOpener_of_isBlank (blank c mem), ne_of_class (blank c mem) (by decide)⟩

theorem isOpener_of_isQuote {c : Char} (quote : isQuote c = true) : isOpener c = true := by
  rw [isOpener, quote, Bool.true_or]

theorem isQuote_cases {c : Char} (quote : isQuote c = true) : c = '"' ∨ c = '\'' ∨ c = backQuote := by
  simpa [isQuote, or_assoc] using quote

theorem block_ne_quoted (q : Char) : Opened.block ≠ .quoted q := nofun

/-- A string with blanks around it stands inside of braces. -/
theorem isInside_string {lead u trail : Text} {q : Char} (before : ∀ c ∈ lead, isBlank c = true)
    (quote : isQuote q = true) (inside : IsInside (.quoted q) u) (behind : ∀ c ∈ trail, isBlank c = true) :
    IsInside .block (lead ++ q :: (u ++ q :: trail)) := by
  have closes : closeFrom [.block] ['}'] = some 1 := rfl
  have string := closeFrom_opener block_ne_quoted (isOpener_of_isQuote quote)
    (opensAs_quote quote ▸ inside) [] (trail ++ ['}'])
  rw [opensAs_quote quote, Opened.closer, closeFrom_run block_ne_quoted (blank_in_block behind), closes]
    at string
  unfold IsInside
  rw [List.append_assoc, closeFrom_run block_ne_quoted (blank_in_block before), List.cons_append,
    List.append_assoc, List.cons_append, Opened.closer, string]
  simp only [Option.map_some, List.length_append, List.length_cons]
  congr 1
  omega

/-- In braces, a string that starts is closed. -/
theorem exists_string {lead rest : Text} {q : Char} (before : ∀ c ∈ lead, isBlank c = true)
    (quote : isQuote q = true) (inside : IsInside .block (lead ++ q :: rest)) :
    ∃ u w, rest = u ++ q :: w ∧ IsInside (.quoted q) u := by
  unfold IsInside at inside
  rw [List.append_assoc, closeFrom_run block_ne_quoted (blank_in_block before)] at inside
  obtain ⟨n, closed, -⟩ := Option.map_eq_some_iff.mp inside
  obtain ⟨u, after, k, eq, string, block⟩ :=
    exists_closed block_ne_quoted (isOpener_of_isQuote quote) closed
  rw [opensAs_quote quote] at eq string
  -- the brace that closes the block stands behind the string
  obtain rfl | ⟨w, last, rfl⟩ := List.eq_nil_or_concat after
  · unfold closeFrom at block
    cases block
  rw [List.concat_eq_append, ← List.cons_append, ← List.append_assoc] at eq
  obtain ⟨eq, -⟩ := List.append_inj' eq rfl
  exact ⟨u, w, eq, string⟩

/-- A value in braces that is a string, or a string with something else behind it. -/
theorem readBraced?_string {lead u trail : Text} {q : Char} (before : ∀ c ∈ lead, isBlank c = true)
    (quote : isQuote q = true) (string : IsInside (.quoted q) u)
    (inside : IsInside .block (lead ++ q :: (u ++ q :: trail))) (after : Text) :
    readBraced? (lead ++ q :: (u ++ q :: trail) ++ '}' :: after) =
      some ((lead ++ q :: (u ++ q :: trail)).length + 1,
        if isBlankText trail then some (lead.length + 1, lead.length + (u.length + 1), q) else none) := by
  have block : closeFrom [.block] (lead ++ q :: (u ++ q :: trail) ++ '}' :: after) =
      some ((lead ++ q :: (u ++ q :: trail)).length + 1) := inside.closeFrom_singleton proper_block after
  have closed : closeFrom [.quoted q] (u ++ q :: (trail ++ '}' :: after)) = some (u.length + 1) :=
    string.closeFrom_singleton (proper_quoted quote) _
  have whole : lead ++ q :: (u ++ q :: trail) ++ '}' :: after =
      lead ++ q :: (u ++ q :: (trail ++ '}' :: after)) := by simp
  have stops : ∀ c, (q :: (u ++ q :: (trail ++ '}' :: after))).head? = some c → isBlank c = false := by
    rintro c eq
    cases eq
    refine Bool.eq_false_iff.mpr fun blank => ?_
    have := isOpener_of_isBlank blank
    rw [isOpener, quote] at this
    cases this
  have behind : slice (lead ++ q :: (u ++ q :: (trail ++ '}' :: after))) (lead.length + (u.length + 1) + 1)
      ((lead ++ q :: (u ++ q :: trail)).length + 1 - 1) = trail := by
    rw [← whole, slice, Nat.add_sub_cancel, List.take_left, show lead ++ q :: (u ++ q :: trail) =
      (lead ++ q :: (u ++ [q])) ++ trail by simp]
    exact List.drop_left' (by simp; omega)
  unfold readBraced?
  rw [block, Option.bind_eq_bind, Option.bind_some, whole]
  dsimp only
  rw [takeWhile_run before stops, List.drop_left]
  dsimp only
  rw [if_pos quote, closed]
  dsimp only
  rw [behind]
  split <;> rfl

/-- A value in braces that does not start with a string. -/
theorem readBraced?_code {u : Text} (inside : IsInside .block u)
    (code : ∀ c, (stripStart u).head? = some c → isQuote c = false) (after : Text) :
    readBraced? (u ++ '}' :: after) = some (u.length + 1, none) := by
  have block : closeFrom [.block] (u ++ '}' :: after) = some (u.length + 1) :=
    inside.closeFrom_singleton proper_block after
  have rest : (u ++ '}' :: after).drop ((u ++ '}' :: after).takeWhile isBlank).length =
      stripStart u ++ '}' :: after := by
    rw [drop_length_takeWhile, stripStart]
    cases code : u.dropWhile isBlank with
    | nil =>
      rw [List.dropWhile_append, code]
      rfl
    | cons c t =>
      rw [List.dropWhile_append, code]
      rfl
  unfold readBraced?
  rw [block, Option.bind_eq_bind, Option.bind_some]
  dsimp only
  rw [rest]
  cases start : stripStart u with
  | nil => rfl
  | cons c t =>
    rw [start] at code
    dsimp only [List.cons_append]
    rw [if_neg (by simp [code c rfl])]

/-- A text that is a single string with blanks around it. -/
def IsOneString (t : Text) : Prop :=
  ∃ lead q u trail, t = lead ++ q :: (u ++ q :: trail) ∧ (∀ c ∈ lead, isBlank c = true) ∧
    isQuote q = true ∧ IsInside (.quoted q) u ∧ ∀ c ∈ trail, isBlank c = true

/-- A value in braces that is not a single string. -/
theorem readBraced?_expression {t : Text} (inside : IsInside .block t) (other : ¬ IsOneString t)
    (after : Text) : readBraced? (t ++ '}' :: after) = some (t.length + 1, none) := by
  by_cases code : ∀ c, (stripStart t).head? = some c → isQuote c = false
  · exact readBraced?_code inside code after
  · obtain ⟨q, start, quote⟩ : ∃ q, (stripStart t).head? = some q ∧ isQuote q = true := by
      simpa using code
    obtain ⟨lead, rest, rfl, before, stops⟩ := exists_run isBlank t
    rw [stripStart, dropWhile_run before stops] at start
    obtain ⟨rest, rfl⟩ := List.head?_eq_some_iff.mp start
    obtain ⟨u, trail, rfl, string⟩ := exists_string before quote inside
    rw [readBraced?_string before quote string inside, if_neg]
    intro blank
    exact other ⟨_, q, u, trail, rfl, before, quote, string, List.all_eq_true.mp blank⟩

/-! ### Values -/

/-- The value of an attribute as it is written. -/
inductive ValueText where
  /-- Without delimiters. -/
  | unquoted (t : Text)
  /-- In quotes. -/
  | quoted (q : Char) (inside : Text)
  /-- In quotes, with braces around them and blanks between. -/
  | braced (lead : Text) (q : Char) (inside trail : Text)
  /-- In braces. -/
  | expression (inside : Text)

namespace ValueText

/-- The delimiters in front of the value. -/
def opening : ValueText → Text
  | .unquoted _ => []
  | .quoted q _ => [q]
  | .braced lead q _ _ => '{' :: lead ++ [q]
  | .expression _ => ['{']

/-- The value. -/
def inner : ValueText → Text
  | .unquoted t => t
  | .quoted _ inside => inside
  | .braced _ _ inside _ => inside
  | .expression inside => inside

/-- The delimiters behind the value. -/
def ending : ValueText → Text
  | .unquoted _ => []
  | .quoted q _ => [q]
  | .braced _ q _ trail => q :: trail ++ ['}']
  | .expression _ => ['}']

/-- The value with its delimiters. -/
def text (v : ValueText) : Text := v.opening ++ v.inner ++ v.ending

/-- How the value is written. -/
def form : ValueText → AttributeForm
  | .unquoted _ => .unquoted
  | .quoted q _ => .literal q false
  | .braced _ q _ _ => .literal q true
  | .expression _ => .expression

/-- A character of a value without delimiters. -/
def isUnquotedChar (c : Char) : Bool := !(isBlank c || c == '/' || c == '>')

/-- The reader of attributes takes the value for what it is if `after` follows. -/
def Reads : ValueText → Text → Prop
  | .unquoted t, after =>
    (∀ c ∈ t, isUnquotedChar c = true) ∧ (∀ c, (t ++ after).head? = some c → isOpener c = false) ∧
      (∀ c, (t ++ after).head? = some c → isBlank c = false) ∧
      ∀ c, after.head? = some c → isUnquotedChar c = false
  | .quoted q inside, _ => isQuote q = true ∧ IsInside (.quoted q) inside
  | .braced lead q inside trail, _ =>
    (∀ c ∈ lead, isBlank c = true) ∧ isQuote q = true ∧ IsInside (.quoted q) inside ∧
      ∀ c ∈ trail, isBlank c = true
  | .expression inside, _ => IsInside .block inside ∧ ¬ IsOneString inside

/-- A value is read back. -/
theorem readValue?_text {v : ValueText} {after : Text} (reads : v.Reads after) (k : Nat) :
    readValue? k (v.text ++ after) = some (v.form, k + v.opening.length,
      k + v.opening.length + v.inner.length, k + v.text.length) := by
  cases v with
  | unquoted t =>
    obtain ⟨run, opens, -, stops⟩ := reads
    have text : (ValueText.unquoted t).text = t := List.append_nil t
    rw [text, show (ValueText.unquoted t).opening = [] from rfl, List.length_nil, Nat.add_zero]
    have word : (t ++ after).takeWhile isUnquotedChar = t := takeWhile_run run stops
    cases whole : t ++ after with
    | nil =>
      obtain ⟨rfl, rfl⟩ := List.append_eq_nil_iff.mp whole
      rfl
    | cons c rest =>
      have plain := opens c (by rw [whole]; rfl)
      unfold isOpener at plain
      rw [Bool.or_eq_false_iff] at plain
      rw [whole] at word
      unfold readValue?
      dsimp only
      rw [if_neg (by simp [plain.1]), if_neg (by simp [plain.2])]
      exact congrArg (fun n => some (AttributeForm.unquoted, k, k + n, k + n)) (congrArg List.length word)
  | quoted q inside =>
    obtain ⟨quote, string⟩ := reads
    have closed : closeFrom [.quoted q] (inside ++ [q] ++ after) = some (inside.length + 1) := by
      rw [List.append_assoc]
      exact string.closeFrom_singleton (proper_quoted quote) after
    show readValue? k (q :: (inside ++ [q] ++ after)) = _
    unfold readValue?
    dsimp only
    rw [if_pos quote, closed, Option.map_some]
    simp only [form, opening, inner, text, ending, List.length_append, List.length_singleton]
    simp only [Option.some.injEq, Prod.mk.injEq, true_and]
    omega
  | braced lead q inside trail =>
    obtain ⟨before, quote, string, behind⟩ := reads
    have read := readBraced?_string before quote string (isInside_string before quote string behind) after
    have blank : isBlankText trail = true := List.all_eq_true.mpr behind
    rw [if_pos blank] at read
    have shape : (ValueText.braced lead q inside trail).text ++ after =
        '{' :: (lead ++ q :: (inside ++ q :: trail) ++ '}' :: after) := by
      simp [text, opening, inner, ending]
    rw [shape]
    unfold readValue?
    dsimp only
    rw [if_neg (by decide), if_pos (beq_self_eq_true _), read, Option.map_some]
    simp only [form, opening, inner, text, ending, List.length_append, List.length_cons, List.length_nil]
    simp only [Option.some.injEq, Prod.mk.injEq, true_and]
    omega
  | expression inside =>
    obtain ⟨block, other⟩ := reads
    have shape : (ValueText.expression inside).text ++ after = '{' :: (inside ++ '}' :: after) := by
      simp [text, opening, inner, ending]
    rw [shape]
    unfold readValue?
    dsimp only
    rw [if_neg (by decide), if_pos (beq_self_eq_true _), readBraced?_expression block other,
      Option.map_some]
    simp only [form, opening, inner, text, ending, List.length_append, List.length_cons, List.length_nil]
    simp only [Option.some.injEq, Prod.mk.injEq, true_and]
    omega

end ValueText

end Retouch.Markup
