import Retouch.Proofs.Markup.Value

/-!
# The grammar of blocks and strings

A block holds blocks, strings and plain characters; a string holds plain characters, characters behind a
backslash, and in back quotes blocks behind a dollar sign. `Derives` is that grammar. The scanner reads a
text once, under a stack of open delimiters, and what it has read when the stack is empty unwinds the stack:
for each delimiter there stands what the grammar allows inside, and the delimiter that closes it
(`unwinds_of_closeFrom`). So a block or a string is closed exactly where the grammar ends it
(`closing?_eq_some_iff`).
-/

namespace Retouch.Markup

open Retouch.Text

/-! ### The grammar -/

/-- What the grammar derives. -/
inductive Symbol where
  /-- A block in braces. -/
  | block
  /-- What stands in a block. -/
  | items
  /-- A string in the given quotes. -/
  | string (quote : Char)
  /-- What stands in a string. -/
  | inside (quote : Char)

/-- The text is derived from the symbol. -/
inductive Derives : Symbol → Text → Prop where
  /-- A block is items in braces. -/
  | block {u : Text} : Derives .items u → Derives .block ('{' :: (u ++ ['}']))
  /-- There may be no items. -/
  | noItems : Derives .items []
  /-- An item may be a block. -/
  | blockItem {b t : Text} : Derives .block b → Derives .items t → Derives .items (b ++ t)
  /-- An item may be a string. -/
  | stringItem {q : Char} {s t : Text} :
      Derives (.string q) s → Derives .items t → Derives .items (s ++ t)
  /-- An item may be any character other than braces and quotes. -/
  | charItem {c : Char} {t : Text} : isQuote c = false → c ≠ '{' → c ≠ '}' →
      Derives .items t → Derives .items (c :: t)
  /-- A string stands in quotes of one kind. -/
  | string {q : Char} {u : Text} : isQuote q = true → Derives (.inside q) u →
      Derives (.string q) (q :: (u ++ [q]))
  /-- A string may be empty. -/
  | nothing {q : Char} : Derives (.inside q) []
  /-- A backslash covers the next character. -/
  | covered {q c : Char} {t : Text} : Derives (.inside q) t → Derives (.inside q) ('\\' :: c :: t)
  /-- Other characters are plain, but for the quote, and in back quotes a dollar sign before a brace. -/
  | plain {q c : Char} {t : Text} : c ≠ q → c ≠ '\\' →
      (q = backQuote → c = '$' → t.head? ≠ some '{') → Derives (.inside q) t → Derives (.inside q) (c :: t)
  /-- In back quotes, a block may stand behind a dollar sign. -/
  | hole {b t : Text} : Derives .block b → Derives (.inside backQuote) t →
      Derives (.inside backQuote) ('$' :: (b ++ t))

/-- The symbol for what opens with a character: a string with a quote, a block with a brace. -/
def symbolOf (c : Char) : Symbol := if isQuote c then .string c else .block

/-- The characters from offset `i` up to offset `j`, that one included, are derived from the symbol. -/
def Spans (symbol : Symbol) (source : Text) (i j : Nat) : Prop :=
  j < source.length ∧ Derives symbol (slice source i (j + 1))

/-! ### What is derived stands inside of its delimiters -/

/-- A string or a block may stand in a block. -/
theorem IsInside.opener {c : Char} {u t : Text} (opens : isOpener c = true)
    (inside : IsInside (opensAs c) u) (rest : IsInside .block t) :
    IsInside .block (c :: (u ++ (opensAs c).closer :: t)) := by
  have passes := closeFrom_opener block_ne_quoted opens inside [] (t ++ [Opened.closer .block])
  rw [rest, Option.map_some] at passes
  unfold IsInside
  rw [List.cons_append, List.append_assoc, List.cons_append, passes]
  congr 1
  simp only [List.length_cons, List.length_append]
  omega

/-- A plain character may stand in a block. -/
theorem IsInside.char {c : Char} {t : Text} (plain : isOpener c = false) (goes : c ≠ '}')
    (rest : IsInside .block t) : IsInside .block (c :: t) := by
  have passes := closeFrom_run block_ne_quoted (List.forall_mem_singleton.mpr ⟨plain, goes⟩) []
    (t ++ [Opened.closer .block])
  rw [rest, Option.map_some] at passes
  unfold IsInside
  rw [← List.singleton_append (l := t), List.append_assoc, passes, Nat.add_comm]
  rfl

/-- A character of a string that is plain. -/
theorem closeFrom_plain {q c : Char} {t : Text} (goes : c ≠ q) (plain : c ≠ '\\')
    (noHole : q = backQuote → c = '$' → t.head? ≠ some '{') (outer : List Opened) :
    closeFrom (.quoted q :: outer) (c :: t) = (closeFrom (.quoted q :: outer) t).map (· + 1) := by
  by_cases brace : c = '$' ∧ t.head? = some '{'
  · obtain ⟨rfl, head⟩ := brace
    obtain ⟨t, rfl⟩ := List.head?_eq_some_iff.mp head
    have notBack : ¬(q == backQuote) = true := fun back => noHole (eq_of_beq back) rfl rfl
    rw [closeFrom, if_neg notBack]
  · rw [closeFrom_quoted plain fun dollar head => brace ⟨dollar, head⟩, if_neg (by simpa using goes)]

/-- A string may be empty. -/
theorem isInside_nil {q : Char} (quote : isQuote q = true) : IsInside (.quoted q) [] := by
  unfold IsInside
  rw [List.nil_append, Opened.closer, closeFrom_quoted (isQuote_ne_backslash quote)
    fun dollar => absurd dollar (isQuote_ne_dollar quote), if_pos (beq_self_eq_true q)]
  unfold closeFrom
  rfl

/-- A covered character may stand in a string. -/
theorem IsInside.covered {q : Char} {t : Text} (rest : IsInside (.quoted q) t) (c : Char) :
    IsInside (.quoted q) ('\\' :: c :: t) := by
  unfold IsInside at *
  rw [List.cons_append, List.cons_append, Markup.closeFrom, rest]
  rfl

/-- A plain character may stand in a string. -/
theorem IsInside.plain {q c : Char} {t : Text} (goes : c ≠ q) (plain : c ≠ '\\')
    (noHole : q = backQuote → c = '$' → t.head? ≠ some '{') (rest : IsInside (.quoted q) t) :
    IsInside (.quoted q) (c :: t) := by
  -- where the string ends, its quote follows, which is no brace
  have noHole' : q = backQuote → c = '$' → (t ++ [q]).head? ≠ some '{' := by
    intro back dollar
    cases t with
    | nil =>
      subst back
      decide
    | cons d t => exact noHole back dollar
  unfold IsInside at *
  rw [Opened.closer] at rest
  rw [List.cons_append, Opened.closer, closeFrom_plain goes plain noHole' [], rest]
  rfl

/-- A block may stand in a string in back quotes, behind a dollar sign. -/
theorem IsInside.hole {u t : Text} (items : IsInside .block u) (rest : IsInside (.quoted backQuote) t) :
    IsInside (.quoted backQuote) ('$' :: ('{' :: (u ++ ['}']) ++ t)) := by
  unfold IsInside at rest ⊢
  have hole := items.closeFrom proper_block [.quoted backQuote] (t ++ [Opened.closer (.quoted backQuote)])
  rw [rest, Option.map_some] at hole
  have shape : '$' :: ('{' :: (u ++ ['}']) ++ t) ++ [Opened.closer (.quoted backQuote)] =
      '$' :: '{' :: (u ++ Opened.closer .block :: (t ++ [Opened.closer (.quoted backQuote)])) := by
    simp [Opened.closer]
  rw [shape, Markup.closeFrom, if_pos (beq_self_eq_true _), hole, Option.map_some]
  congr 1
  simp only [List.length_cons, List.length_append, List.length_nil]
  omega

/-- What a derived text is to the scanner. -/
def Symbol.Closes : Symbol → Text → Prop
  | .block, t => ∃ u, t = '{' :: (u ++ ['}']) ∧ IsInside .block u
  | .items, u => IsInside .block u
  | .string q, t => isQuote q = true ∧ ∃ u, t = q :: (u ++ [q]) ∧ IsInside (.quoted q) u
  | .inside q, u => isQuote q = true → IsInside (.quoted q) u

/-- **What is derived closes**: the scanner takes it for what it is derived from. -/
theorem Derives.closes {symbol : Symbol} {t : Text} (derives : Derives symbol t) : symbol.Closes t := by
  induction derives with
  | block _ items => exact ⟨_, rfl, items⟩
  | noItems => exact (rfl : closeFrom [.block] ['}'] = some 1)
  | @blockItem b t _ _ block items =>
    obtain ⟨u, rfl, inside⟩ := block
    have whole := IsInside.opener (c := '{') (by decide) inside items
    rwa [List.cons_append, List.append_assoc]
  | @stringItem q s t _ _ string items =>
    obtain ⟨quote, u, rfl, inside⟩ := string
    have whole := IsInside.opener (isOpener_of_isQuote quote) (opensAs_quote quote ▸ inside) items
    rw [opensAs_quote quote] at whole
    rwa [List.cons_append, List.append_assoc]
  | charItem noQuote noBrace goes _ items =>
    exact IsInside.char (by simp [isOpener, noQuote, noBrace]) goes items
  | string quote _ inside => exact ⟨quote, _, rfl, inside quote⟩
  | nothing => exact isInside_nil
  | covered _ inside => exact fun quote => (inside quote).covered _
  | plain goes plain noHole _ inside => exact fun quote => (inside quote).plain goes plain noHole
  | hole _ _ block inside =>
    intro quote
    obtain ⟨u, rfl, items⟩ := block
    exact items.hole (inside quote)

/-! ### What closes is derived -/

/-- What may stand behind an open delimiter. -/
def Opened.Holds : Opened → Text → Prop
  | .tag, _ => False
  | .block, u => Derives .items u
  | .quoted q, u => Derives (.inside q) u

/-- The text closes open delimiters one after the other, the innermost first, each behind what may stand
in it. -/
def Unwinds : List Opened → Text → Prop
  | [], t => t = []
  | opened :: outer, t => ∃ u v, t = u ++ opened.closer :: v ∧ opened.Holds u ∧ Unwinds outer v

/-- What opens and closes again is a string or a block. -/
theorem derives_of_holds {c : Char} {u : Text} (opens : isOpener c = true) (holds : (opensAs c).Holds u) :
    Derives (symbolOf c) (c :: (u ++ [(opensAs c).closer])) := by
  by_cases quote : isQuote c = true
  · rw [opensAs_quote quote] at holds ⊢
    rw [symbolOf, if_pos quote]
    exact .string quote holds
  · obtain rfl : c = '{' := by simpa [isOpener, quote] using opens
    exact .block holds

/-- A string or a block is an item. -/
theorem Derives.item {c : Char} {s t : Text} (first : Derives (symbolOf c) s) (rest : Derives .items t) :
    Derives .items (s ++ t) := by
  unfold symbolOf at first
  split at first
  · exact .stringItem first rest
  · exact .blockItem first rest

theorem opensAs_ne_tag (c : Char) : opensAs c ≠ .tag := by
  unfold opensAs
  split <;> nofun

namespace Unwinds

variable {q c : Char} {opened : Opened} {outer : List Opened} {t : Text}

/-- A delimiter may close at once. -/
theorem closer (noTag : opened ≠ .tag) (rest : Unwinds outer t) :
    Unwinds (opened :: outer) (opened.closer :: t) := by
  refine ⟨[], t, rfl, ?_, rest⟩
  cases opened with
  | tag => exact noTag rfl
  | block => exact .noItems
  | quoted q => exact .nothing

/-- A covered character in front of what unwinds a string. -/
theorem covered (rest : Unwinds (.quoted q :: outer) t) (c : Char) :
    Unwinds (.quoted q :: outer) ('\\' :: c :: t) := by
  obtain ⟨u, v, rfl, inside, behind⟩ := rest
  exact ⟨'\\' :: c :: u, v, rfl, .covered inside, behind⟩

/-- A plain character in front of what unwinds a string. -/
theorem plain (goes : c ≠ q) (noCover : c ≠ '\\') (noHole : q = backQuote → c = '$' → t.head? ≠ some '{')
    (rest : Unwinds (.quoted q :: outer) t) : Unwinds (.quoted q :: outer) (c :: t) := by
  obtain ⟨u, v, rfl, inside, behind⟩ := rest
  refine ⟨c :: u, v, rfl, .plain goes noCover (fun back dollar brace => ?_) inside, behind⟩
  obtain ⟨w, rfl⟩ := List.head?_eq_some_iff.mp brace
  exact noHole back dollar rfl

/-- A block behind a dollar sign is closed before the string goes on. -/
theorem hole (rest : Unwinds (.block :: .quoted backQuote :: outer) t) :
    Unwinds (.quoted backQuote :: outer) ('$' :: '{' :: t) := by
  obtain ⟨u, -, rfl, items, w, x, rfl, inside, behind⟩ := rest
  refine ⟨'$' :: ('{' :: (u ++ ['}']) ++ w), x, ?_, .hole (.block items) inside, behind⟩
  simp [Opened.closer]

/-- A string or a block is closed before the block around it goes on. -/
theorem opener (opens : isOpener c = true) (rest : Unwinds (opensAs c :: .block :: outer) t) :
    Unwinds (.block :: outer) (c :: t) := by
  obtain ⟨u, -, rfl, holds, w, x, rfl, items, behind⟩ := rest
  refine ⟨c :: (u ++ [(opensAs c).closer]) ++ w, x, ?_, (derives_of_holds opens holds).item items, behind⟩
  simp

/-- Another character in front of what unwinds a block. -/
theorem char (plain : isOpener c = false) (goes : c ≠ '}') (rest : Unwinds (.block :: outer) t) :
    Unwinds (.block :: outer) (c :: t) := by
  obtain ⟨u, v, rfl, items, behind⟩ := rest
  obtain ⟨noQuote, noBrace⟩ := Bool.or_eq_false_iff.mp plain
  exact ⟨c :: u, v, rfl, .charItem noQuote (by simpa using noBrace) goes items, behind⟩

end Unwinds

/-- **What the scanner reads unwinds its stack.** The stack grows and shrinks with the text, so the induction
is on the scanner itself, under whatever stack. -/
theorem unwinds_of_closeFrom {stack : List Opened} {t : Text} {n : Nat} (proper : Proper stack)
    (noTag : .tag ∉ stack) (closed : closeFrom stack t = some n) : Unwinds stack (t.take n) := by
  fun_induction closeFrom stack t generalizing n with
  | case1 t =>
    cases closed
    rfl
  | case2 | case6 => cases closed
  | case3 q outer c rest ih =>
    obtain ⟨m, read, rfl⟩ := Option.map_eq_some_iff.mp closed
    exact (ih proper noTag read).covered c
  | case4 q outer rest back ih =>
    obtain ⟨m, read, rfl⟩ := Option.map_eq_some_iff.mp closed
    obtain rfl := eq_of_beq back
    exact (ih proper.cons_block (by simpa using noTag) read).hole
  | case5 q outer rest notBack ih =>
    obtain ⟨m, read, rfl⟩ := Option.map_eq_some_iff.mp closed
    refine (ih proper noTag read).plain ?_ (by decide) fun back => absurd (beq_iff_eq.mpr back) notBack
    exact (isQuote_ne_dollar (proper q (List.mem_cons_self ..))).symm
  | case7 q outer c rest noCover noBlock plain ends ih =>
    obtain ⟨m, read, rfl⟩ := Option.map_eq_some_iff.mp closed
    obtain rfl := eq_of_beq ends
    exact (ih proper.tail (by simpa using noTag) read).closer (by simp)
  | case8 q outer c rest noCover noBlock plain goes ih =>
    obtain ⟨m, read, rfl⟩ := Option.map_eq_some_iff.mp closed
    refine (ih proper noTag read).plain (by simpa using goes) (by simpa using plain) ?_
    -- no brace follows a dollar sign here
    rintro - rfl brace
    obtain ⟨more, start⟩ := List.head?_eq_some_iff.mp brace
    have whole := List.take_append_drop m rest
    rw [start] at whole
    exact noBlock _ rfl whole.symm
  | case9 opened outer c rest _ _ notQuoted ih =>
    obtain ⟨m, read, rfl⟩ := Option.map_eq_some_iff.mp closed
    cases opened with
    | tag => exact absurd (List.mem_cons_self ..) noTag
    | quoted q => exact absurd rfl (notQuoted q)
    | block =>
      have proper' := proper.step c
      by_cases opens : isOpener c = true
      · rw [step_opener opens] at ih read proper'
        have noTag' := List.not_mem_cons_of_ne_of_not_mem (opensAs_ne_tag c).symm noTag
        exact (ih proper' noTag' read).opener opens
      by_cases closes : c = '}'
      · subst closes
        exact (ih proper.tail (List.not_mem_of_not_mem_cons noTag) read).closer (by simp)
      · have plain := Bool.eq_false_iff.mpr opens
        have goes : c ≠ Opened.closer .block := closes
        rw [step_plain plain goes] at ih read
        exact (ih proper noTag read).char plain closes

/-- What may stand behind a delimiter is what the scanner passes over up to the one that closes it. -/
theorem holds_iff {c : Char} {u : Text} :
    (opensAs c).Holds u ↔ IsInside (opensAs c) u := by
  constructor
  · intro holds
    by_cases quote : isQuote c = true
    · rw [opensAs_quote quote] at holds ⊢
      exact Derives.closes holds quote
    · rw [opensAs, if_neg quote] at holds ⊢
      exact Derives.closes holds
  · intro inside
    have unwinds := unwinds_of_closeFrom (proper_opensAs c) (by simpa using (opensAs_ne_tag c).symm) inside
    rw [List.take_of_length_le (by simp)] at unwinds
    obtain ⟨v, w, eq, holds, rfl⟩ := unwinds
    obtain ⟨rfl, -⟩ := List.append_inj' eq rfl
    exact holds

/-- **Strings and blocks**: what the grammar derives is what the scanner closes. -/
theorem derives_iff {c : Char} {t : Text} (opens : isOpener c = true) :
    Derives (symbolOf c) t ↔ ∃ u, t = c :: (u ++ [(opensAs c).closer]) ∧ IsInside (opensAs c) u := by
  constructor
  · intro derives
    by_cases quote : isQuote c = true
    · rw [symbolOf, if_pos quote] at derives
      rw [opensAs_quote quote]
      exact derives.closes.2
    · obtain rfl : c = '{' := by simpa [isOpener, quote] using opens
      exact derives.closes
  · rintro ⟨u, rfl, inside⟩
    exact derives_of_holds opens (holds_iff.mpr inside)

/-! ### Where delimiters close -/

/-- The delimiter that closes what opens with a character. -/
theorem closing?_opener {source : Text} {i : Nat} {c : Char} (here : source[i]? = some c)
    (opens : isOpener c = true) :
    closing? source i = (closeFrom [opensAs c] (source.drop (i + 1))).map (i + ·) := by
  obtain ⟨within, rfl⟩ := List.getElem?_eq_some_iff.mp here
  rw [closing?, List.drop_eq_getElem_cons within]
  dsimp only
  unfold opensAs
  by_cases quote : isQuote source[i] = true
  · rw [if_pos quote, if_pos quote]
  · rw [if_neg quote, if_neg quote, if_pos (by simpa [isOpener, quote] using opens)]

/-- **Where a block or a string ends**: at the delimiter that the scanner finds, and nowhere else. -/
theorem closing?_eq_some_iff {source : Text} {i : Nat} {c : Char} (here : source[i]? = some c)
    (opens : isOpener c = true) (j : Nat) :
    closing? source i = some j ↔ Spans (symbolOf c) source i j := by
  obtain ⟨within, is⟩ := List.getElem?_eq_some_iff.mp here
  have start : source.drop i = c :: source.drop (i + 1) := by rw [List.drop_eq_getElem_cons within, is]
  rw [closing?_opener here opens, Spans, derives_iff opens, Option.map_eq_some_iff]
  constructor
  · rintro ⟨n, closed, rfl⟩
    obtain ⟨u, rest, eq, rfl, inside⟩ := exists_inside (proper_opensAs c) closed
    have length := congrArg List.length eq
    simp only [List.length_drop, List.length_append, List.length_cons] at length
    refine ⟨by omega, u, ?_, inside⟩
    rw [slice, List.drop_take, start, eq, show i + (u.length + 1) + 1 - i = u.length + 1 + 1 by omega,
      List.take_succ_cons, List.append_cons]
    exact congrArg _ (List.take_left' (by simp))
  · rintro ⟨before, u, eq, inside⟩
    rw [slice, List.drop_take, start] at eq
    obtain ⟨k, size⟩ : ∃ k, j + 1 - i = k + 1 := by
      cases size : j + 1 - i with
      | zero => simp [size] at eq
      | succ k => exact ⟨k, rfl⟩
    rw [size, List.take_succ_cons, List.cons.injEq] at eq
    have whole := List.take_append_drop k (source.drop (i + 1))
    rw [eq.2, ← List.append_cons] at whole
    have length := congrArg List.length eq.2
    simp only [List.length_take, List.length_drop, List.length_append, List.length_singleton] at length
    refine ⟨u.length + 1, ?_, by omega⟩
    rw [← whole]
    exact inside.closeFrom_singleton (proper_opensAs c) _

/-- **Blocks and strings end where the grammar says**: the delimiter that closes a block or a string is
where a text ends that is derived from the symbol of the one that opens it. There is at most one such text,
and without one nothing is found. -/
theorem closing?_derives {source : Text} {i : Nat} {c : Char} (here : source[i]? = some c)
    (opens : isOpener c = true) :
    (∀ j, closing? source i = some j ↔ Spans (symbolOf c) source i j) ∧
      (∀ j k, Spans (symbolOf c) source i j → Spans (symbolOf c) source i k → j = k) ∧
      (closing? source i = none ↔ ∀ j, ¬ Spans (symbolOf c) source i j) := by
  have found := closing?_eq_some_iff here opens
  refine ⟨found, fun j k first second => ?_, ?_⟩
  · have same := ((found j).mpr first).symm.trans ((found k).mpr second)
    exact Option.some.inj same
  · rw [Option.eq_none_iff_forall_ne_some]
    exact forall_congr' fun j => not_congr (found j)

/-- A string in back quotes that holds a block and a covered quote, and a quote behind it. -/
def template : Text := "\x60a$\x7bf('\x7d')\x7d\\\x60\x60+\x60".toList

/-- The string ends behind its block and the covered quote, and the last quote opens nothing that ends. -/
theorem template_derives :
    (template[0]? = some backQuote ∧ template[15]? = some backQuote ∧ isOpener backQuote = true) ∧
      Spans (.string backQuote) template 0 13 ∧ ∀ j, ¬ Spans (.string backQuote) template 15 j := by
  have first : template[0]? = some backQuote := by decide
  have last : template[15]? = some backQuote := by decide
  have opens : isOpener backQuote = true := by decide
  exact ⟨⟨first, last, opens⟩, ((closing?_derives first opens).1 13).mp (by decide),
    (closing?_derives last opens).2.2.mp (by decide)⟩

end Retouch.Markup
