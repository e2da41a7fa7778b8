import Retouch.Proofs.Markup.Value
import Retouch.Style.ClassList

/-!
# Class lists stay in their quotes

A class list stands in quotes. When tokens of it are replaced by plain ones or dropped, the quotes close
where the list ends, as they did before (`replaceTokens_inside`). In simple and double quotes it is
enough that no quote comes in. In back quotes a dollar sign may open a block, so it matters as well that
tokens stay whole, and apart from each other: only then does a dollar sign never come to stand before a
brace that was not behind it.
-/

namespace Retouch.Style

open Retouch.Text Retouch.Markup

/-! ### Class lists taken apart -/

/-- A class list that is taken apart has the same characters. -/
theorem ClassList.text_readFrom (skip : Nat) (lead word t : Text) :
    (ClassList.readFrom skip lead word t).text = lead.reverse ++ word.reverse ++ t := by
  fun_induction ClassList.readFrom skip lead word t with
  | case1 _ lead word empty =>
    obtain rfl := List.isEmpty_iff.mp empty
    simp [text]
  | case2 _ lead word some => simp [text]
  | case3 skip lead word c rest ih => simp [ih]
  | case4 lead word c rest blank empty ih =>
    obtain rfl := List.isEmpty_iff.mp empty
    simp [ih]
  | case5 lead word c rest blank some ih =>
    simp only [text] at ih
    simp [text, cons, ih]
  | case6 lead word inside n closed blank ih => simp [ih]
  | case7 lead word inside unclosed blank => simp [text]
  | case8 lead word c rest blank noBlock ih => simp [ih]

theorem ClassList.text_read (t : Text) : (ClassList.read t).text = t := text_readFrom 0 [] [] t

/-- What holds of every character of the tokens, of the new one and of a blank holds of every character
when tokens are replaced. -/
theorem replaceFrom_all {P : Char → Prop} {hits : Text → Bool} {new : Text} (blank : P ' ')
    (fresh : ∀ c ∈ new, P c) {placed started : Bool} {carry : Option Text} {tokens : List ClassToken}
    (carried : ∀ l ∈ carry, ∀ c ∈ l, P c) (all : ∀ token ∈ tokens, ∀ c ∈ token.lead ++ token.text, P c) :
    ∀ token ∈ Style.replaceFrom hits new placed started carry tokens,
      ∀ c ∈ token.lead ++ token.text, P c := by
  -- the blanks before a token are those carried over, or others
  have leads : ∀ {carry : Option Text} {l : Text}, (∀ l ∈ carry, ∀ c ∈ l, P c) → (∀ c ∈ l, P c) →
      ∀ c ∈ carry.getD l, P c := by
    intro carry l carried own
    cases carry with
    | none => exact own
    | some l => exact carried l rfl
  fun_induction Style.replaceFrom hits new placed started carry tokens with
  | case1 => nofun
  | case2 placed started carry place =>
    intro token mem c hc
    obtain rfl := List.mem_singleton.mp mem
    obtain hc | hc := List.mem_append.mp hc
    · refine leads carried (l := if started then [' '] else []) (fun c hc => ?_) c hc
      split at hc
      · exact List.mem_singleton.mp hc ▸ blank
      · cases hc
    · exact fresh c hc
  | case3 placed started carry token rest hit drops ih =>
    refine ih (fun l mem => ?_) fun token mem => all token (List.mem_cons_of_mem _ mem)
    split at mem
    · exact carried l mem
    · cases mem
      exact fun c hc => all token (List.mem_cons_self ..) c (List.mem_append_left _ hc)
  | case4 placed started carry token rest hit fits ih =>
    rintro token' mem c hc
    obtain rfl | mem := List.mem_cons.mp mem
    · obtain hc | hc := List.mem_append.mp hc
      · exact all token (List.mem_cons_self ..) c (List.mem_append_left _ hc)
      · exact fresh c hc
    · exact ih carried (fun token mem => all token (List.mem_cons_of_mem _ mem)) token' mem c hc
  | case5 placed started carry token rest keeps ih =>
    rintro token' mem c hc
    have own := all token (List.mem_cons_self ..)
    obtain rfl | mem := List.mem_cons.mp mem
    · obtain hc | hc := List.mem_append.mp hc
      · exact leads carried (fun c hc => own c (List.mem_append_left _ hc)) c hc
      · exact own c (List.mem_append_right _ hc)
    · exact ih nofun (fun token mem => all token (List.mem_cons_of_mem _ mem)) token' mem c hc

/-- A class list whose tokens are replaced has its characters, those of the new token, and blanks. -/
theorem replaceTokens_all {P : Char → Prop} {t new : Text} (blank : P ' ') (fresh : ∀ c ∈ new, P c)
    (all : ∀ c ∈ t, P c) (hits : Text → Bool) : ∀ c ∈ replaceTokens t hits new, P c := by
  have whole : ∀ c ∈ (ClassList.read t).text, P c := by
    rw [ClassList.text_read]
    exact all
  intro c mem
  obtain mem | mem := List.mem_append.mp mem
  · obtain ⟨u, hu, hc⟩ := List.mem_flatten.mp mem
    obtain ⟨token, ht, rfl⟩ := List.mem_map.mp hu
    refine replaceFrom_all blank fresh (by nofun) (fun token ht c hc => whole c ?_) token ht c hc
    exact List.mem_append_left _ (List.mem_flatten.mpr ⟨_, List.mem_map.mpr ⟨token, ht, rfl⟩, hc⟩)
  · exact whole c (List.mem_append_right _ mem)

/-! ### In quotes -/

/-- A character that opens nothing, closes no string and covers nothing. -/
def isPlain (c : Char) : Bool := !(isOpener c || c == '\\')

variable {q : Char} {u v : Text}

/-- Characters that pass in a string one by one. -/
theorem closeFrom_each {outer : List Opened}
    (passes : ∀ c ∈ u, ∀ rest, closeFrom (.quoted q :: outer) (c :: rest) =
      (closeFrom (.quoted q :: outer) rest).map (· + 1)) (rest : Text) :
    closeFrom (.quoted q :: outer) (u ++ rest) =
      (closeFrom (.quoted q :: outer) rest).map (u.length + ·) := by
  induction u with
  | nil => simp
  | cons c u ih =>
    rw [List.cons_append, passes c (List.mem_cons_self ..),
      ih fun d mem => passes d (List.mem_cons_of_mem _ mem), map_add_map_succ]
    rfl

/-- In simple and double quotes, every character passes but the quote and the backslash. -/
theorem closeFrom_simple (simple : q ≠ backQuote) {c : Char} (noQuote : c ≠ q) (noCover : c ≠ '\\')
    (outer : List Opened) (rest : Text) :
    closeFrom (.quoted q :: outer) (c :: rest) =
      (closeFrom (.quoted q :: outer) rest).map (· + 1) := by
  by_cases opens : c = '$' ∧ rest.head? = some '{'
  · obtain ⟨rfl, brace⟩ := opens
    obtain ⟨rest, rfl⟩ := List.head?_eq_some_iff.mp brace
    rw [closeFrom, if_neg (by simpa using simple)]
  · rw [closeFrom_quoted noCover fun dollar brace => opens ⟨dollar, brace⟩, if_neg (by simpa using noQuote)]

/-- Blanks pass in a string, whatever follows. -/
theorem closeFrom_blanks (quote : isQuote q = true) (blank : ∀ c ∈ u, isBlank c = true)
    (outer : List Opened) (rest : Text) :
    closeFrom (.quoted q :: outer) (u ++ rest) =
      (closeFrom (.quoted q :: outer) rest).map (u.length + ·) := by
  refine closeFrom_each (fun c mem rest => ?_) rest
  have noQuote : (c == q) = false := by
    refine beq_false_of_ne ?_
    rintro rfl
    cases (isOpener_of_isQuote quote).symm.trans (isOpener_of_isBlank (blank c mem))
  rw [closeFrom_quoted (ne_of_class (blank c mem) (by decide))
    fun dollar => absurd dollar (ne_of_class (blank c mem) (by decide)), noQuote, if_neg (by decide)]

/-- A text passes in a string if what follows does not start with a brace. -/
def Passes (q : Char) (u : Text) : Prop :=
  ∀ outer rest, rest.head? ≠ some '{' →
    closeFrom (.quoted q :: outer) (u ++ rest) = (closeFrom (.quoted q :: outer) rest).map (u.length + ·)

/-- One text passes behind another one if it does not start with a brace. -/
theorem Passes.append (first : Passes q u) (second : Passes q v) (noBrace : v.head? ≠ some '{') :
    Passes q (u ++ v) := by
  intro outer rest follows
  have next : (v ++ rest).head? ≠ some '{' := by
    cases v with
    | nil => exact follows
    | cons c v => exact noBrace
  rw [List.append_assoc, first outer _ next, second outer _ follows, map_add_map, List.length_append]

/-- Plain texts pass. -/
theorem passes_of_isPlain (quote : isQuote q = true) (plain : ∀ c ∈ u, isPlain c = true) :
    Passes q u := by
  intro outer rest follows
  induction u with
  | nil => simp
  | cons c u ih =>
    have here := plain c (List.mem_cons_self ..)
    have later : ∀ d ∈ u, isPlain d = true := fun d mem => plain d (List.mem_cons_of_mem _ mem)
    have noQuote : (c == q) = false := by
      refine beq_false_of_ne ?_
      rintro rfl
      simp [isPlain, isOpener, quote] at here
    have noBlock : c = '$' → (u ++ rest).head? ≠ some '{' := by
      intro _ brace
      cases u with
      | nil => exact follows brace
      | cons d u =>
        obtain rfl : d = '{' := Option.some.inj brace
        exact absurd (later '{' (List.mem_cons_self ..)) (by decide)
    rw [List.cons_append, closeFrom_quoted (by rintro rfl; exact absurd here (by decide)) noBlock, noQuote,
      if_neg (by decide), ih later, map_add_map_succ]
    rfl

/-- A text that passes stands inside of its quotes. -/
theorem Passes.isInside (quote : isQuote q = true) (passes : Passes q u) : IsInside (.quoted q) u := by
  have closes : closeFrom [.quoted q] [q] = some 1 := by
    rw [closeFrom_quoted (isQuote_ne_backslash quote)
      fun dollar => absurd dollar (isQuote_ne_dollar quote), if_pos (beq_self_eq_true q)]
    rfl
  unfold IsInside
  rw [Opened.closer, passes [] [q] (by rintro ⟨⟩; exact absurd quote (by decide)), closes]
  rfl

/-! ### In back quotes -/

/-- Tokens that each pass, with blanks before them; before the first one there need be none, unless a
token stands before it. -/
def Spaced (q : Char) : Bool → List ClassToken → Prop
  | _, [] => True
  | started, token :: rest =>
    (∀ c ∈ token.lead, isBlank c = true) ∧ (started = true → token.lead ≠ []) ∧ Passes q token.text ∧
      Spaced q true rest

/-- Spaced tokens pass one after the other. -/
theorem Spaced.passes (quote : isQuote q = true) {started : Bool} {tokens : List ClassToken}
    {trailing : Text} (spaced : Spaced q started tokens) (blank : ∀ c ∈ trailing, isBlank c = true) :
    Passes q (ClassList.text ⟨tokens, trailing⟩) ∧
      (started = true → (ClassList.text ⟨tokens, trailing⟩).head? ≠ some '{') := by
  have noBrace : ∀ {u : Text}, (∀ c ∈ u, isBlank c = true) → u.head? ≠ some '{' := by
    intro u blank brace
    exact absurd (blank _ (List.mem_of_head? brace)) (by decide)
  induction tokens generalizing started with
  | nil => exact ⟨fun outer rest _ => closeFrom_blanks quote blank outer rest, fun _ => noBrace blank⟩
  | cons token tokens ih =>
    obtain ⟨leads, apart, passes, spaced⟩ := spaced
    obtain ⟨rest, follows⟩ := ih spaced
    have shape : ClassList.text ⟨token :: tokens, trailing⟩ =
        token.lead ++ (token.text ++ ClassList.text ⟨tokens, trailing⟩) := by
      simp [ClassList.text]
    rw [shape]
    constructor
    · intro outer more noBrace
      rw [List.append_assoc, closeFrom_blanks quote leads,
        passes.append rest (follows rfl) outer more noBrace, map_add_map, ← List.length_append]
    · intro before
      have some := apart before
      cases start : token.lead with
      | nil => exact absurd start some
      | cons c lead =>
        rw [start] at leads
        exact noBrace (u := c :: lead) leads

/-- The blanks before a token are those carried over, or its own if a token stands before it. -/
theorem lead_spaced {started : Bool} {carry : Option Text} {l : Text}
    (blank : ∀ l ∈ carry, ∀ c ∈ l, isBlank c = true) (own : ∀ c ∈ l, isBlank c = true)
    (first : carry.isSome = true → started = false) (apart : started = true → l ≠ []) :
    (∀ c ∈ carry.getD l, isBlank c = true) ∧ (started = true → carry.getD l ≠ []) := by
  cases carry with
  | none => exact ⟨own, apart⟩
  | some l => exact ⟨blank l rfl, fun before => by cases before.symm.trans (first rfl)⟩

/-- Tokens that are replaced stay spaced. Blanks are carried over only from the first token, and only
if it is dropped. -/
theorem Spaced.replaceFrom (quote : isQuote q = true) {hits : Text → Bool} {new : Text}
    (plain : ∀ c ∈ new, isPlain c = true) {placed started before : Bool} {carry : Option Text}
    {tokens : List ClassToken} (spaced : Spaced q before tokens) (behind : started = true → before = true)
    (blank : ∀ l ∈ carry, ∀ c ∈ l, isBlank c = true)
    (first : carry.isSome = true → (new.isEmpty || placed) = true ∧ started = false) :
    Spaced q started (Style.replaceFrom hits new placed started carry tokens) := by
  fun_induction Style.replaceFrom hits new placed started carry tokens generalizing before with
  | case1 => trivial
  | case2 placed started carry place =>
    have single : ∀ c ∈ if started then [' '] else [], isBlank c = true := by
      intro c mem
      split at mem
      · exact List.mem_singleton.mp mem ▸ rfl
      · cases mem
    obtain ⟨leads, apart⟩ := lead_spaced blank single (fun some => (first some).2)
      (by rintro rfl; simp)
    exact ⟨leads, apart, passes_of_isPlain quote plain, trivial⟩
  | case3 placed started carry token rest hit drops ih =>
    obtain ⟨leads, -, -, spaced⟩ := spaced
    refine ih spaced (fun _ => rfl) (fun l mem => ?_) (fun some => ⟨drops, ?_⟩)
    · split at mem
      · exact blank l mem
      · cases mem
        exact leads
    · cases started with
      | false => rfl
      | true => exact (first (by simpa using some)).2
  | case4 placed started carry token rest hit fits ih =>
    obtain ⟨leads, apart, -, spaced⟩ := spaced
    -- the new token has its place before anything is dropped
    have none : carry = none := by
      cases carry with
      | none => rfl
      | some l => exact absurd (first rfl).1 fits
    subst none
    exact ⟨leads, fun before => apart (behind before), passes_of_isPlain quote plain,
      ih spaced (fun _ => rfl) nofun nofun⟩
  | case5 placed started carry token rest other ih =>
    obtain ⟨leads, apart, passes, spaced⟩ := spaced
    obtain ⟨leads, apart⟩ := lead_spaced blank leads (fun some => (first some).2)
      fun before => apart (behind before)
    exact ⟨leads, apart, passes, ih spaced (fun _ => rfl) nofun nofun⟩

/-- What is read so far of a token passes, with the `skip` characters of a segment that are still to be
taken over; `t` is what follows, and the string goes on behind the segment. -/
structure Pending (skip : Nat) (word t : Text) : Prop where
  /-- The characters so far pass, if no brace follows but the one that does. -/
  passes : ∀ outer rest, (rest.head? = some '{' → (t.drop skip).head? = some '{') →
    closeFrom (.quoted backQuote :: outer) (word.reverse ++ t.take skip ++ rest) =
      (closeFrom (.quoted backQuote :: outer) rest).map ((word.reverse ++ t.take skip).length + ·)
  /-- The string goes on. -/
  inside : IsInside (.quoted backQuote) (t.drop skip)

/-- In a string, a character that covers nothing and opens nothing is not the quote. -/
theorem inside_tail {c : Char} {t : Text} (quote : isQuote q = true)
    (inside : IsInside (.quoted q) (c :: t)) (noCover : c ≠ '\\') (noBlock : c = '$' → t.head? ≠ some '{') :
    c ≠ q ∧ IsInside (.quoted q) t := by
  have next : c = '$' → (t ++ [q]).head? ≠ some '{' := by
    intro dollar brace
    cases t with
    | nil =>
      cases brace
      exact absurd quote (by decide)
    | cons d t => exact noBlock dollar brace
  unfold IsInside at *
  rw [Opened.closer, List.cons_append, closeFrom_quoted noCover next] at inside
  by_cases ends : c = q
  · rw [if_pos (by simp [ends])] at inside
    unfold closeFrom at inside
    cases inside
  · rw [if_neg (by simpa using ends)] at inside
    obtain ⟨n, closed, length⟩ := Option.map_eq_some_iff.mp inside
    refine ⟨ends, closed.trans (congrArg some ?_)⟩
    rw [List.length_cons] at length
    omega

/-- In back quotes, a segment closes and the string goes on behind it. -/
theorem inside_segment {t : Text} (inside : IsInside (.quoted backQuote) ('$' :: '{' :: t)) :
    ∃ n, closeFrom [.block] t = some n ∧ IsInside (.quoted backQuote) (t.drop n) ∧ n ≤ t.length := by
  unfold IsInside at inside
  rw [List.cons_append, List.cons_append, closeFrom, if_pos (by decide),
    show [Opened.block, .quoted backQuote] = [.block] ++ [.quoted backQuote] from rfl,
    closeFrom_append] at inside
  obtain ⟨_, both, length⟩ := Option.map_eq_some_iff.mp inside
  obtain ⟨n, block, both⟩ := Option.bind_eq_some_iff.mp both
  obtain ⟨m, string, rfl⟩ := Option.map_eq_some_iff.mp both
  have pos := closeFrom_pos (List.cons_ne_nil _ _) string
  rw [List.length_cons, List.length_cons] at length
  have le : n ≤ t.length := by omega
  have again := (closeFrom_take proper_block block (t.drop n)).2
  rw [List.take_append_of_le_length le, List.take_append_drop] at again
  rw [List.drop_append_of_le_length le] at string
  refine ⟨n, again, string.trans (congrArg some ?_), le⟩
  rw [List.length_drop]
  omega

theorem backQuote_isQuote : isQuote backQuote = true := rfl

/-- With nothing read of a token yet, the string goes on. -/
theorem Pending.start {t : Text} (inside : IsInside (.quoted backQuote) t) : Pending 0 [] t :=
  ⟨fun outer rest _ => by simp, inside⟩

/-- A token that ends passes. -/
theorem Pending.word {skip : Nat} {word t : Text} (pending : Pending skip word t)
    (ends : t.take skip = []) : Passes backQuote word.reverse := by
  intro outer rest follows
  have passes := pending.passes outer rest fun brace => absurd brace follows
  rwa [ends, List.append_nil] at passes

/-- One more character of a token. -/
theorem Pending.next {word rest : Text} {c : Char} (pending : Pending 0 word (c :: rest))
    (noCover : c ≠ '\\') (noBlock : c = '$' → rest.head? ≠ some '{') : Pending 0 (c :: word) rest := by
  obtain ⟨noQuote, inside⟩ := inside_tail backQuote_isQuote pending.inside noCover noBlock
  refine ⟨fun outer more follows => ?_, inside⟩
  have passes := pending.passes outer (c :: more) fun brace => brace
  have here : c = '$' → more.head? ≠ some '{' := fun dollar brace => noBlock dollar (follows brace)
  rw [closeFrom_quoted noCover here, if_neg (by simpa using noQuote)] at passes
  simp only [List.take_zero, List.append_nil, List.reverse_cons, List.append_assoc,
    List.singleton_append, List.length_append, List.length_singleton] at passes ⊢
  rw [passes, Option.map_map]
  congr 1
  funext n
  simp only [Function.comp_apply]
  omega

/-- A segment of a token. -/
theorem Pending.segment {word inside : Text} {n : Nat} (pending : Pending 0 word ('$' :: '{' :: inside))
    (closed : closeFrom [.block] inside = some n) : Pending (n + 1) ('$' :: word) ('{' :: inside) := by
  obtain ⟨m, again, rest, -⟩ := inside_segment pending.inside
  obtain rfl : m = n := Option.some.inj (again.symm.trans closed)
  refine ⟨fun outer more _ => ?_, rest⟩
  have passes := pending.passes outer ('$' :: '{' :: (inside.take m ++ more)) fun brace => by cases brace
  have block := closeFrom_append [.block] (.quoted backQuote :: outer) (inside.take m ++ more)
  obtain ⟨le, closes⟩ := closeFrom_take proper_block closed more
  have length : (inside.take m).length = m := List.length_take_of_le le
  rw [closes, Option.bind_some, List.drop_left' length, List.singleton_append] at block
  rw [closeFrom, if_pos (by decide), block, Option.map_map, Option.map_map] at passes
  have shape : ('$' :: word).reverse ++ ('{' :: inside).take (m + 1) ++ more =
      word.reverse ++ ('$' :: '{' :: inside).take 0 ++ '$' :: '{' :: (inside.take m ++ more) := by simp
  rw [shape, passes]
  congr 1
  funext k
  simp only [Function.comp_apply, List.length_append, List.length_reverse, List.length_cons,
    List.take_zero, List.length_nil, List.take_succ_cons, length]
  omega

/-- The tokens of a class list in back quotes are spaced. -/
theorem spaced_readFrom {skip : Nat} {lead word t : Text} {started : Bool} (noCover : '\\' ∉ t)
    (pending : Pending skip word t) (leads : ∀ c ∈ lead, isBlank c = true)
    (apart : started = true → lead ≠ []) :
    Spaced backQuote started (ClassList.readFrom skip lead word t).tokens ∧
      ∀ c ∈ (ClassList.readFrom skip lead word t).trailing, isBlank c = true := by
  have reversed : ∀ {l : Text}, (∀ c ∈ l, isBlank c = true) → ∀ c ∈ l.reverse, isBlank c = true :=
    fun blank c mem => blank c (List.mem_reverse.mp mem)
  fun_induction ClassList.readFrom skip lead word t generalizing started with
  | case1 skip lead word empty => exact ⟨trivial, reversed leads⟩
  | case2 skip lead word some =>
    exact ⟨⟨reversed leads, fun before => by simpa using apart before,
      pending.word List.take_nil, trivial⟩, nofun⟩
  | case3 skip lead word c rest ih =>
    refine ih (fun mem => noCover (List.mem_cons_of_mem _ mem)) ⟨?_, pending.inside⟩ leads apart
    have passes := pending.passes
    simpa using passes
  | case4 lead word c rest blank empty ih =>
    obtain rfl := List.isEmpty_iff.mp empty
    have here : c ≠ '\\' := fun eq => noCover (eq ▸ List.mem_cons_self ..)
    obtain ⟨-, inside⟩ := inside_tail backQuote_isQuote pending.inside here
      fun dollar => absurd dollar (ne_of_class blank (by decide))
    refine ih (fun mem => noCover (List.mem_cons_of_mem _ mem)) (.start inside) ?_ fun _ => List.cons_ne_nil _ _
    rintro d mem
    obtain rfl | mem := List.mem_cons.mp mem
    · exact blank
    · exact leads d mem
  | case5 lead word c rest blank some ih =>
    have here : c ≠ '\\' := fun eq => noCover (eq ▸ List.mem_cons_self ..)
    obtain ⟨-, inside⟩ := inside_tail backQuote_isQuote pending.inside here
      fun dollar => absurd dollar (ne_of_class blank (by decide))
    have behind : Spaced backQuote true (ClassList.readFrom 0 [c] [] rest).tokens ∧ _ :=
      ih (fun mem => noCover (List.mem_cons_of_mem _ mem)) (.start inside)
        (fun d mem => List.mem_singleton.mp mem ▸ blank) fun _ => List.cons_ne_nil _ _
    exact ⟨⟨reversed leads, fun before => by simpa using apart before, pending.word rfl, behind.1⟩,
      behind.2⟩
  | case6 lead word inside n closed blank ih =>
    exact ih (fun mem => noCover (List.mem_cons_of_mem _ mem)) (pending.segment closed) leads apart
  | case7 lead word inside unclosed blank =>
    obtain ⟨n, closed, -⟩ := inside_segment pending.inside
    cases unclosed.symm.trans closed
  | case8 lead word c rest blank noBlock ih =>
    have here : c ≠ '\\' := fun eq => noCover (eq ▸ List.mem_cons_self ..)
    refine ih (fun mem => noCover (List.mem_cons_of_mem _ mem)) (pending.next here ?_) leads apart
    intro dollar brace
    obtain ⟨rest, rfl⟩ := List.head?_eq_some_iff.mp brace
    exact noBlock rest dollar rfl

/-! ### Tokens replaced -/

/-- In simple and double quotes, a string without backslashes holds no such quote. -/
theorem ne_of_inside (quote : isQuote q = true) (simple : q ≠ backQuote) {t : Text}
    (inside : IsInside (.quoted q) t) (noCover : '\\' ∉ t) : ∀ c ∈ t, c ≠ q := by
  obtain ⟨u, rest, rfl, run, stops⟩ := exists_run (· != q) t
  obtain _ | ⟨c, rest⟩ := rest
  · intro c mem
    rw [List.append_nil] at mem
    simpa using run c mem
  · -- the string would end at its first quote
    obtain rfl : c = q := by simpa using stops c rfl
    have passes : ∀ d ∈ u, ∀ t, closeFrom [.quoted c] (d :: t) = (closeFrom [.quoted c] t).map (· + 1) :=
      fun d mem t => closeFrom_simple simple (by simpa using run d mem)
        (by rintro rfl; exact noCover (List.mem_append_left _ mem)) [] t
    unfold IsInside at inside
    rw [List.append_assoc, closeFrom_each passes, List.cons_append,
      closeFrom_quoted (isQuote_ne_backslash quote) fun dollar => absurd dollar (isQuote_ne_dollar quote),
      if_pos (beq_self_eq_true c)] at inside
    unfold closeFrom at inside
    have length := Option.some.inj inside
    simp only [List.length_append, List.length_cons] at length
    omega

/-- **Class lists stay in their quotes**: a class list without backslashes stands inside of its quotes
also when tokens of it are replaced by a plain one, or dropped. -/
theorem replaceTokens_inside (quote : isQuote q = true) {t new : Text} (inside : IsInside (.quoted q) t)
    (noCover : '\\' ∉ t) (plain : ∀ c ∈ new, isPlain c = true) (hits : Text → Bool) :
    IsInside (.quoted q) (replaceTokens t hits new) ∧ '\\' ∉ replaceTokens t hits new := by
  have each : ∀ c ∈ replaceTokens t hits new, c ≠ '\\' := by
    refine replaceTokens_all (by decide) ?_ ?_ hits
    · rintro c mem rfl
      exact absurd (plain _ mem) (by decide)
    · rintro c mem rfl
      exact noCover mem
  refine ⟨?_, fun mem => each _ mem rfl⟩
  by_cases simple : q = backQuote
  · subst simple
    have read : Spaced backQuote false (ClassList.read t).tokens ∧
        ∀ c ∈ (ClassList.read t).trailing, isBlank c = true :=
      spaced_readFrom noCover (.start inside) nofun nofun
    have replaced : Spaced backQuote false
        (Style.replaceFrom hits new false false none (ClassList.read t).tokens) :=
      read.1.replaceFrom quote plain nofun nofun nofun
    exact (replaced.passes quote read.2).1.isInside quote
  · have noQuote : ∀ c ∈ replaceTokens t hits new, c ≠ q := by
      refine replaceTokens_all ?_ ?_ (ne_of_inside quote simple inside noCover) hits
      · rintro rfl
        exact absurd quote (by decide)
      · rintro c mem rfl
        have := plain _ mem
        simp [isPlain, isOpener, quote] at this
    have passes : Passes q (replaceTokens t hits new) := fun outer rest _ =>
      closeFrom_each (fun c mem rest => closeFrom_simple simple (noQuote c mem) (each c mem) outer rest) rest
    exact passes.isInside quote

end Retouch.Style
