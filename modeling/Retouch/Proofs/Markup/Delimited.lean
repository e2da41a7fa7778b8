import Mathlib.Data.List.Basic
import Retouch.Markup.Tag

/-!
# Texts between delimiters

The scanner looks at a text up to the delimiter that closes the outermost one, and no further
(`closeFrom_take`). So whatever stands behind a tag, the tag is read alike; in particular no text of a
tag is the beginning of another one (`IsTagText.eq_of_prefix`).

Open delimiters close one after the other, the innermost first (`closeFrom_append`). So a text that
stands between a delimiter and the one that closes it is passed over as a whole, whatever is open around
it and whatever follows (`IsInside.closeFrom`). In a tag or a block, such are the strings and the blocks
(`closeFrom_opener`); other characters pass one by one (`closeFrom_run`).
-/

namespace Retouch.Markup

open Retouch.Text

/-! ### The scanner -/

/-- Delimiters as they come up in source: the strings among them are in quotes. -/
def Proper (stack : List Opened) : Prop := ∀ q, .quoted q ∈ stack → isQuote q = true

theorem Proper.tail {opened : Opened} {outer : List Opened} (proper : Proper (opened :: outer)) :
    Proper outer := fun q hq => proper q (List.mem_cons_of_mem _ hq)

theorem Proper.cons_block {stack : List Opened} (proper : Proper stack) : Proper (.block :: stack) := by
  intro q hq
  obtain eq | old := List.mem_cons.mp hq
  · nomatch eq
  · exact proper q old

/-- One more character of a tag or a block opens strings in quotes only. -/
theorem Proper.step {opened : Opened} {outer : List Opened} (proper : Proper (opened :: outer))
    (c : Char) : Proper (step opened outer c) := by
  unfold Markup.step
  split
  · rename_i quote
    intro q hq
    obtain eq | old := List.mem_cons.mp hq
    · rw [Opened.quoted.inj eq]
      exact quote
    · exact proper q old
  · split
    · exact proper.cons_block
    · split
      · split
        · exact proper.tail
        · exact proper
      · split
        · exact proper.tail
        · exact proper
      · exact proper

theorem isQuote_ne_backslash {q : Char} (quote : isQuote q = true) : q ≠ '\\' := by
  rintro rfl
  exact absurd quote (by decide)

theorem isQuote_ne_dollar {q : Char} (quote : isQuote q = true) : q ≠ '$' := by
  rintro rfl
  exact absurd quote (by decide)

/-- Something open takes at least one character to close. -/
theorem closeFrom_pos {stack : List Opened} {t : Text} {n : Nat} (opened : stack ≠ [])
    (closed : closeFrom stack t = some n) : 0 < n := by
  fun_induction closeFrom stack t generalizing n with
  | case1 => exact absurd rfl opened
  | case2 => cases closed
  | case6 => cases closed
  | _ =>
    obtain ⟨m, -, rfl⟩ := Option.map_eq_some_iff.mp closed
    omega

/-- A character of a string that covers nothing and opens nothing. -/
theorem closeFrom_quoted {q c : Char} {outer : List Opened} {rest : Text} (plain : c ≠ '\\')
    (noBlock : c = '$' → rest.head? ≠ some '{') :
    closeFrom (.quoted q :: outer) (c :: rest) =
      if c == q then (closeFrom outer rest).map (· + 1)
      else (closeFrom (.quoted q :: outer) rest).map (· + 1) := by
  rw [closeFrom]
  · rw [if_neg (by simpa using plain)]
  · rintro _ _ rfl
    exact absurd rfl plain
  · rintro _ rfl rfl
    exact absurd rfl (noBlock rfl)

/-- A character of a tag or a block. -/
theorem closeFrom_step {opened : Opened} {outer : List Opened} (plain : ∀ q, opened ≠ .quoted q)
    (c : Char) (rest : Text) :
    closeFrom (opened :: outer) (c :: rest) = (closeFrom (step opened outer c) rest).map (· + 1) := by
  cases opened with
  | tag => rw [closeFrom] <;> nofun
  | block => rw [closeFrom] <;> nofun
  | quoted q => exact absurd rfl (plain q)

/-- The scanner looks no further than the delimiter that closes the outermost one. -/
theorem closeFrom_take {stack : List Opened} {t : Text} {n : Nat} (proper : Proper stack)
    (closed : closeFrom stack t = some n) (r : Text) :
    n ≤ t.length ∧ closeFrom stack (t.take n ++ r) = some n := by
  fun_induction closeFrom stack t generalizing n with
  | case1 t =>
    cases closed
    exact ⟨Nat.zero_le _, by unfold closeFrom; rfl⟩
  | case2 => cases closed
  | case3 q outer c rest ih =>
    obtain ⟨m, hm, rfl⟩ := Option.map_eq_some_iff.mp closed
    obtain ⟨le, again⟩ := ih proper hm
    refine ⟨by simp only [List.length_cons]; omega, ?_⟩
    simp only [List.take_succ_cons, List.cons_append, closeFrom, again, Option.map_some]
  | case4 q outer rest back ih =>
    obtain ⟨m, hm, rfl⟩ := Option.map_eq_some_iff.mp closed
    obtain ⟨le, again⟩ := ih proper.cons_block hm
    refine ⟨by simp only [List.length_cons]; omega, ?_⟩
    simp only [List.take_succ_cons, List.cons_append, closeFrom, back, if_true, again, Option.map_some]
  | case5 q outer rest notBack ih =>
    obtain ⟨m, hm, rfl⟩ := Option.map_eq_some_iff.mp closed
    obtain ⟨le, again⟩ := ih proper hm
    -- the brace is still there: the string takes at least one more character
    obtain ⟨k, rfl⟩ : ∃ k, m = k + 1 := ⟨m - 1, by have := closeFrom_pos (List.cons_ne_nil _ _) hm; omega⟩
    simp only [List.take_succ_cons, List.cons_append] at again
    refine ⟨by simp only [List.length_cons] at le ⊢; omega, ?_⟩
    simp only [List.take_succ_cons, List.cons_append]
    rw [closeFrom, if_neg notBack, again, Option.map_some]
  | case6 => cases closed
  | case7 q outer c rest noCover noBlock plain ends ih =>
    obtain ⟨m, hm, rfl⟩ := Option.map_eq_some_iff.mp closed
    obtain ⟨le, again⟩ := ih proper.tail hm
    refine ⟨by simp only [List.length_cons]; omega, ?_⟩
    have quote : isQuote c = true := by
      rw [eq_of_beq ends]
      exact proper q (List.mem_cons_self ..)
    rw [List.take_succ_cons, List.cons_append,
      closeFrom_quoted (isQuote_ne_backslash quote) (fun dollar => absurd dollar (isQuote_ne_dollar quote)),
      if_pos ends, again, Option.map_some]
  | case8 q outer c rest noCover noBlock plain goes ih =>
    obtain ⟨m, hm, rfl⟩ := Option.map_eq_some_iff.mp closed
    obtain ⟨le, again⟩ := ih proper hm
    obtain ⟨k, rfl⟩ : ∃ k, m = k + 1 := ⟨m - 1, by have := closeFrom_pos (List.cons_ne_nil _ _) hm; omega⟩
    refine ⟨by simp only [List.length_cons]; omega, ?_⟩
    rw [List.take_succ_cons, List.cons_append, closeFrom_quoted (by simpa using plain), if_neg goes,
      again, Option.map_some]
    -- the next character is the one that stood there before
    rintro rfl
    cases rest with
    | nil => simp at le
    | cons d rest =>
      intro brace
      rw [List.take_succ_cons, List.cons_append, List.head?_cons] at brace
      exact noBlock rest rfl (by rw [Option.some.inj brace])
  | case9 opened outer c rest _ _ plain ih =>
    obtain ⟨m, hm, rfl⟩ := Option.map_eq_some_iff.mp closed
    obtain ⟨le, again⟩ := ih (proper.step c) hm
    refine ⟨by simp only [List.length_cons]; omega, ?_⟩
    rw [List.take_succ_cons, List.cons_append, closeFrom_step plain, again, Option.map_some]

/-! ### The text of a tag -/

theorem proper_tag : Proper [.tag] := by
  intro q hq
  cases List.mem_singleton.mp hq

/-- A text that is read as a tag, brackets included. -/
def IsTagText (t : Text) : Prop :=
  ∃ inside, t = '<' :: inside ∧ closeFrom [.tag] inside = some inside.length

/-- **Tags end where they close**: no text of a tag is the beginning of another one. -/
theorem IsTagText.eq_of_prefix {s t : Text} (hs : IsTagText s) (ht : IsTagText t) (le : s <+: t) :
    s = t := by
  obtain ⟨a, rfl, ha⟩ := hs
  obtain ⟨b, rfl, hb⟩ := ht
  obtain ⟨r, rfl⟩ : a <+: b := (List.cons_prefix_cons.mp le).2
  have again := (closeFrom_take proper_tag ha r).2
  rw [List.take_length, hb] at again
  have length := Option.some.inj again
  rw [List.length_append] at length
  have : r = [] := List.eq_nil_of_length_eq_zero (by omega)
  rw [this, List.append_nil]

theorem IsTagText.ne_nil {t : Text} (ht : IsTagText t) : t ≠ [] := by
  obtain ⟨a, rfl, -⟩ := ht
  exact List.cons_ne_nil _ _

/-- A tag is read from where it starts. -/
theorem start_of_readTag? {source : Text} {i : Nat} {tag : Tag} (read : readTag? source i = some tag) :
    tag.start = i := by
  unfold readTag? at read
  split at read
  · split at read
    · obtain ⟨n, -, rfl⟩ := Option.map_eq_some_iff.mp read
      rfl
    · cases read
  · cases read

/-- What reading a tag finds: its brackets lie in the source, and between them stands its text. -/
theorem readTag?_span {source : Text} {i : Nat} {tag : Tag} (read : readTag? source i = some tag) :
    i ≤ tag.close ∧ tag.close < source.length ∧ tag.nameStop ≤ source.length ∧
      IsTagText (tag.text source) := by
  unfold readTag? at read
  split at read
  · rename_i c rest here
    split at read
    · obtain ⟨n, closed, rfl⟩ := Option.map_eq_some_iff.mp read
      have within : n ≤ (c :: rest).length := (closeFrom_take proper_tag closed []).1
      have length : source.length - i = rest.length + 2 := by
        rw [← List.length_drop, here]
        rfl
      have name : (rest.takeWhile isNameChar).length ≤ rest.length := (List.takeWhile_sublist _).length_le
      simp only [List.length_cons] at within
      refine ⟨Nat.le_add_right i n, ?_, ?_, (c :: rest).take n, ?_, ?_⟩
      · show i + n < source.length
        omega
      · simp only [Tag.nameStop, List.length_cons]
        omega
      · show (source.take (i + n + 1)).drop i = _
        rw [List.drop_take, here, show i + n + 1 - i = n + 1 by omega, List.take_succ_cons]
      · rw [List.length_take_of_le (by simpa using within)]
        simpa using (closeFrom_take proper_tag closed []).2
    · cases read
  · cases read

/-- The text of a tag stands where the tag starts. -/
theorem text_prefix {source : Text} (tag : Tag) : tag.text source <+: source.drop tag.start := by
  unfold Tag.text slice
  rw [List.drop_take]
  exact List.take_prefix _ _

/-- The text of a tag that was read is as long as the tag. -/
theorem length_text {source : Text} {i : Nat} {tag : Tag} (read : readTag? source i = some tag) :
    tag.start + (tag.text source).length = tag.close + 1 := by
  obtain ⟨le, lt, -, -⟩ := readTag?_span read
  have start := start_of_readTag? read
  unfold Tag.text slice
  rw [List.length_drop, List.length_take_of_le (by omega)]
  omega

/-! ## Texts between delimiters -/

/-! ### One delimiter after the other -/

/-- Delimiters close one after the other. -/
theorem closeFrom_append (inner outer : List Opened) (t : Text) :
    closeFrom (inner ++ outer) t =
      (closeFrom inner t).bind fun n => (closeFrom outer (t.drop n)).map (n + ·) := by
  -- what is read before the rest adds to both sides
  have shift : ∀ (read rest : Text) (o : Option Nat),
      (o.bind fun n => (closeFrom outer (rest.drop n)).map (n + ·)).map (· + read.length) =
        (o.map (· + read.length)).bind fun n =>
          (closeFrom outer ((read ++ rest).drop n)).map (n + ·) := by
    intro read rest o
    cases o with
    | none => rfl
    | some n =>
      simp only [Option.bind_some, Option.map_some, Option.map_map]
      rw [Nat.add_comm n read.length, ← List.drop_drop, List.drop_left]
      congr 1
      funext m
      simp only [Function.comp_apply]
      omega
  fun_induction closeFrom inner t with
  | case1 t => simp
  | case2 => simp [closeFrom]
  | case3 q stack c rest ih =>
    rw [List.cons_append, closeFrom, ← List.cons_append, ih]
    exact shift ['\\', c] rest _
  | case4 q stack rest back ih =>
    rw [List.cons_append, closeFrom, if_pos back]
    exact (congrArg _ ih).trans (shift ['$', '{'] rest _)
  | case5 q stack rest notBack ih =>
    rw [List.cons_append, closeFrom, if_neg notBack, ← List.cons_append, ih]
    exact shift ['$'] ('{' :: rest) _
  | case6 q stack c rest noCover noBlock covers =>
    rw [List.cons_append, closeFrom, if_pos covers]
    · rfl
    · exact noCover
    · exact noBlock
  | case7 q stack c rest noCover noBlock plain ends ih =>
    rw [List.cons_append, closeFrom, if_neg plain, if_pos ends, ih]
    · exact shift [c] rest _
    · exact noCover
    · exact noBlock
  | case8 q stack c rest noCover noBlock plain goes ih =>
    rw [List.cons_append, closeFrom, if_neg plain, if_neg goes, ← List.cons_append, ih]
    · exact shift [c] rest _
    · exact noCover
    · exact noBlock
  | case9 opened stack c rest _ _ plain ih =>
    have stepped : step opened (stack ++ outer) c = step opened stack c ++ outer := by
      unfold step
      repeat' split
      all_goals rfl
    rw [List.cons_append, closeFrom_step plain, stepped, ih]
    exact shift [c] rest _

/-- Characters counted one after the other. -/
theorem map_add_map (o : Option Nat) (m n : Nat) :
    (o.map (m + ·)).map (n + ·) = o.map (n + m + ·) := by
  rw [Option.map_map]
  congr 1
  funext k
  exact (Nat.add_assoc n m k).symm

/-- One more character counted first. -/
theorem map_add_map_succ (o : Option Nat) (m : Nat) :
    (o.map (m + ·)).map (· + 1) = o.map (m + 1 + ·) := by
  rw [Option.map_map]
  congr 1
  funext k
  exact Nat.add_right_comm m k 1

/-! ### Where a delimiter closes -/

/-- The character that closes a delimiter. -/
def Opened.closer : Opened → Char
  | .tag => '>'
  | .block => '}'
  | .quoted q => q

/-- A character of a tag or a block closes it, if anything. -/
theorem step_cases (opened : Opened) (outer : List Opened) (c : Char) :
    (step opened outer c = outer ∧ c = opened.closer) ∨
      ∃ more, step opened outer c = more ++ opened :: outer := by
  unfold step
  split
  · exact Or.inr ⟨[.quoted c], rfl⟩
  · split
    · exact Or.inr ⟨[.block], rfl⟩
    · split
      · split
        · exact Or.inl ⟨rfl, by simp_all [Opened.closer]⟩
        · exact Or.inr ⟨[], rfl⟩
      · split
        · exact Or.inl ⟨rfl, by simp_all [Opened.closer]⟩
        · exact Or.inr ⟨[], rfl⟩
      · exact Or.inr ⟨[], rfl⟩

/-- The last character that is read closes the outermost delimiter. -/
theorem getElem?_closeFrom {stack : List Opened} {opened : Opened} {t : Text} {n : Nat}
    (outermost : stack.getLast? = some opened) (closed : closeFrom stack t = some n) :
    t[n - 1]? = some opened.closer := by
  -- with something still open, the last character is one of the rest
  have later : ∀ {stack : List Opened} (read : Text) {rest : Text} {n : Nat},
      stack.getLast? = some opened →
      (∀ {m}, stack.getLast? = some opened → closeFrom stack rest = some m →
        rest[m - 1]? = some opened.closer) →
      (closeFrom stack rest).map (· + read.length) = some n →
      (read ++ rest)[n - 1]? = some opened.closer := by
    intro stack read rest n outermost ih closed
    obtain ⟨m, hm, rfl⟩ := Option.map_eq_some_iff.mp closed
    have pos := closeFrom_pos (by rintro rfl; cases outermost) hm
    rw [List.getElem?_append_right (by omega),
      show m + read.length - 1 - read.length = m - 1 by omega]
    exact ih outermost hm
  fun_induction closeFrom stack t generalizing n with
  | case1 => cases outermost
  | case2 => cases closed
  | case3 q stack c rest ih => exact later ['\\', c] outermost ih closed
  | case4 q stack rest back ih =>
    have same : (Opened.block :: .quoted q :: stack).getLast? = some opened := by
      rw [List.getLast?_cons_cons]
      exact outermost
    exact later ['$', '{'] same ih closed
  | case5 q stack rest notBack ih => exact later ['$'] outermost ih closed
  | case6 => cases closed
  | case7 q stack c rest noCover noBlock plain ends ih =>
    cases stack with
    | nil =>
      cases outermost
      unfold closeFrom at closed
      cases closed
      exact congrArg some (eq_of_beq ends)
    | cons x stack =>
      rw [List.getLast?_cons_cons] at outermost
      exact later [c] outermost ih closed
  | case8 q stack c rest noCover noBlock plain goes ih => exact later [c] outermost ih closed
  | case9 x stack c rest _ _ plain ih =>
    obtain ⟨stepped, closes⟩ | ⟨more, stepped⟩ := step_cases x stack c
    · rw [stepped] at ih closed
      cases stack with
      | nil =>
        cases outermost
        unfold closeFrom at closed
        cases closed
        exact congrArg some closes
      | cons y stack =>
        rw [List.getLast?_cons_cons] at outermost
        exact later [c] outermost ih closed
    · have same : (step x stack c).getLast? = some opened := by
        rw [stepped, List.getLast?_append_of_ne_nil _ (List.cons_ne_nil _ _)]
        exact outermost
      exact later [c] same ih closed

/-! ### What stands between delimiters -/

/-- A text that stands between a delimiter and the one that closes it. -/
def IsInside (opened : Opened) (u : Text) : Prop :=
  closeFrom [opened] (u ++ [opened.closer]) = some (u.length + 1)

instance (opened : Opened) (u : Text) : Decidable (IsInside opened u) :=
  inferInstanceAs (Decidable (_ = _))

/-- What is open closes behind a text that stands inside. -/
theorem exists_inside {opened : Opened} {t : Text} {n : Nat} (proper : Proper [opened])
    (closed : closeFrom [opened] t = some n) :
    ∃ u rest, t = u ++ opened.closer :: rest ∧ n = u.length + 1 ∧ IsInside opened u := by
  obtain ⟨within, again⟩ := closeFrom_take proper closed []
  have pos := closeFrom_pos (List.cons_ne_nil _ _) closed
  have last := getElem?_closeFrom rfl closed
  have split : t.take n = t.take (n - 1) ++ [opened.closer] := by
    obtain ⟨k, rfl⟩ : ∃ k, n = k + 1 := ⟨n - 1, by omega⟩
    rw [Nat.add_sub_cancel] at last
    rw [List.take_add_one, Nat.add_sub_cancel, last]
    rfl
  have length : (t.take (n - 1)).length = n - 1 := List.length_take_of_le (by omega)
  refine ⟨t.take (n - 1), t.drop n, ?_, by omega, ?_⟩
  · rw [← List.singleton_append, ← List.append_assoc, ← split, List.take_append_drop]
  · unfold IsInside
    rw [← split, ← List.append_nil (t.take n), again, length]
    congr 1
    omega

variable {opened : Opened} {u : Text}

/-- A text inside and the delimiter that closes it are passed over, whatever follows. -/
theorem IsInside.closeFrom_singleton (inside : IsInside opened u) (proper : Proper [opened])
    (rest : Text) : closeFrom [opened] (u ++ opened.closer :: rest) = some (u.length + 1) := by
  have closed := (closeFrom_take proper inside rest).2
  rwa [List.take_of_length_le (by simp), List.append_assoc] at closed

/-- A text inside and the delimiter that closes it are passed over, whatever is open around. -/
theorem IsInside.closeFrom (inside : IsInside opened u) (proper : Proper [opened])
    (outer : List Opened) (rest : Text) :
    Markup.closeFrom (opened :: outer) (u ++ opened.closer :: rest) =
      (Markup.closeFrom outer rest).map (u.length + 1 + ·) := by
  have split := closeFrom_append [opened] outer (u ++ opened.closer :: rest)
  rw [inside.closeFrom_singleton proper rest, Option.bind_some, List.singleton_append] at split
  rw [split, ← List.drop_drop, List.drop_left]
  rfl

theorem proper_quoted {q : Char} (quote : isQuote q = true) : Proper [.quoted q] := by
  intro q' mem
  cases List.mem_singleton.mp mem
  exact quote

theorem proper_block : Proper [.block] := by
  intro q mem
  cases List.mem_singleton.mp mem

/-! ### Strings and blocks in tags and blocks -/

/-- A character that opens a string or a block. -/
def isOpener (c : Char) : Bool := isQuote c || c == '{'

/-- A character of a class is none that is not of the class. -/
theorem ne_of_class {p : Char → Bool} {c d : Char} (is : p c = true) (no : p d = false) : c ≠ d := by
  rintro rfl
  cases is.symm.trans no

/-- A character opens nothing if it is of a class that no such character is of. -/
theorem isOpener_of_class {p : Char → Bool} {c : Char} (is : p c = true)
    (none : ['"', '\'', backQuote, '{'].any p = false) : isOpener c = false := by
  have other : ∀ d ∈ ['"', '\'', backQuote, '{'], c ≠ d := fun d mem =>
    ne_of_class is (by simpa using List.any_eq_false.mp none d mem)
  simpa [isOpener, isQuote, and_assoc] using other

/-- What such a character opens. -/
def opensAs (c : Char) : Opened := if isQuote c then .quoted c else .block

theorem opensAs_quote {q : Char} (quote : isQuote q = true) : opensAs q = .quoted q := if_pos quote

theorem proper_opensAs (c : Char) : Proper [opensAs c] := by
  unfold opensAs
  split
  · exact proper_quoted ‹_›
  · exact proper_block

theorem step_opener {c : Char} (opens : isOpener c = true) (opened : Opened) (outer : List Opened) :
    step opened outer c = opensAs c :: opened :: outer := by
  unfold isOpener at opens
  unfold step opensAs
  by_cases quote : isQuote c = true
  · rw [if_pos quote, if_pos quote]
  · rw [if_neg quote, if_neg quote, if_pos (by simpa [quote] using opens)]

/-- A character that opens nothing and does not close what is open passes. -/
theorem step_plain {opened : Opened} {c : Char} (plain : isOpener c = false) (goes : c ≠ opened.closer)
    (outer : List Opened) : step opened outer c = opened :: outer := by
  unfold isOpener at plain
  unfold step Opened.closer at *
  cases opened <;> simp_all

section TagOrBlock

variable {opened : Opened} (notQuoted : ∀ q, opened ≠ .quoted q)

include notQuoted

/-- Characters that open nothing and do not close what is open pass. -/
theorem closeFrom_run {u : Text} (plain : ∀ c ∈ u, isOpener c = false ∧ c ≠ opened.closer)
    (outer : List Opened) (t : Text) :
    closeFrom (opened :: outer) (u ++ t) = (closeFrom (opened :: outer) t).map (u.length + ·) := by
  induction u with
  | nil => simp
  | cons c u ih =>
    obtain ⟨opens, goes⟩ := plain c (List.mem_cons_self ..)
    rw [List.cons_append, closeFrom_step notQuoted, step_plain opens goes,
      ih fun d mem => plain d (List.mem_cons_of_mem _ mem), map_add_map_succ]
    rfl

/-- A string or a block passes as a whole. -/
theorem closeFrom_opener {c : Char} {u : Text} (opens : isOpener c = true)
    (inside : IsInside (opensAs c) u) (outer : List Opened) (t : Text) :
    closeFrom (opened :: outer) (c :: (u ++ (opensAs c).closer :: t)) =
      (closeFrom (opened :: outer) t).map (u.length + 2 + ·) := by
  rw [closeFrom_step notQuoted, step_opener opens, inside.closeFrom (proper_opensAs c),
    map_add_map_succ]

/-- A string or a block that opens is closed. -/
theorem exists_closed {c : Char} {t : Text} {n : Nat} (opens : isOpener c = true)
    (closed : closeFrom [opened] (c :: t) = some n) :
    ∃ u rest k, t = u ++ (opensAs c).closer :: rest ∧ IsInside (opensAs c) u ∧
      closeFrom [opened] rest = some k := by
  rw [closeFrom_step notQuoted, step_opener opens,
    show [opensAs c, opened] = [opensAs c] ++ [opened] from rfl, closeFrom_append] at closed
  obtain ⟨_, both, rfl⟩ := Option.map_eq_some_iff.mp closed
  obtain ⟨m, inner, both⟩ := Option.bind_eq_some_iff.mp both
  obtain ⟨k, outer, rfl⟩ := Option.map_eq_some_iff.mp both
  obtain ⟨u, rest, rfl, rfl, inside⟩ := exists_inside (proper_opensAs c) inner
  rw [← List.drop_drop, List.drop_left] at outer
  exact ⟨u, rest, k, rfl, inside, outer⟩

end TagOrBlock

end Retouch.Markup
