import Mathlib.Data.List.TakeWhile
import Retouch.Proofs.Markup.Delimited
import Retouch.Proofs.Style.Quoting
import Retouch.Proofs.Text

/-!
# Class lists changed and read back

A class list that is taken apart, changed and put together again is read as it was put together
(`ClassList.read_text`), if it is tidy: blanks between the tokens, and every token one that is read as a
whole, in whichever place it stands. What is read is tidy (`ClassList.tidy_read`), and stays so when
tokens are replaced or dropped (`ClassList.Tidy.replaceFrom`). Only a segment that never closes stands
in the way: it takes everything behind it, so nothing can be put there.

A replacement comes to one of three things. Without a new token those that are hit are dropped, and the
first one that is left takes over the blanks before the first of all (`replaceFrom_drop`). With one, it
has the place and the blanks of the first token that is hit, and the others that are hit are dropped
(`replaceFrom_first`), or it comes last where none is hit (`replaceFrom_last`). For the texts of the tokens
this is `tokenTexts_replaceTokens` and `tokenTexts_dropTokens`. Where just one is hit, nothing but its text
changes (`replaceTokens_single`), so a replacement done twice is the replacement done once
(`replaceTokens_again`).
-/

namespace Retouch.Style

open Retouch.Text Retouch.Markup

/-- The texts of the tokens of a class text in order. -/
def tokenTexts (classes : Text) : List Text := (ClassList.read classes).tokens.map (·.text)

/-- Every segment of a text closes; `skip` counts characters of a segment still to be passed over. -/
def segmentsCloseFrom : Nat → Text → Bool
  | _, [] => true
  | skip + 1, _ :: rest => segmentsCloseFrom skip rest
  | 0, c :: rest =>
    match c, rest with
    | '$', '{' :: inside =>
      match closeFrom [.block] inside with
      | some n => segmentsCloseFrom (n + 1) rest
      | none => false
    | _, _ => segmentsCloseFrom 0 rest

/-- A character that opens no segment is passed over. -/
theorem segmentsCloseFrom_char {c : Char} {rest : Text} (noBlock : c = '$' → rest.head? ≠ some '{') :
    segmentsCloseFrom 0 (c :: rest) = segmentsCloseFrom 0 rest := by
  rw [segmentsCloseFrom]
  rintro inside dollar rfl
  exact noBlock dollar rfl

/-- Every segment of a class text closes. -/
def segmentsClose (classes : Text) : Bool := segmentsCloseFrom 0 classes

namespace ClassList

/-! ### Pieces of a class list -/

/-- Blanks before a token are read as such. -/
theorem readFrom_blanks {l : Text} (blank : ∀ c ∈ l, isBlank c = true) (lead rest : Text) :
    readFrom 0 lead [] (l ++ rest) = readFrom 0 (l.reverse ++ lead) [] rest := by
  induction l generalizing lead with
  | nil => rfl
  | cons c l ih =>
    obtain ⟨here, later⟩ := List.forall_mem_cons.mp blank
    have starts : readFrom 0 lead [] (c :: (l ++ rest)) = readFrom 0 (c :: lead) [] (l ++ rest) := by
      simp [readFrom, here]
    rw [List.cons_append, starts, ih later, List.reverse_cons, List.append_assoc,
      List.singleton_append]

/-- A blank ends a token. -/
theorem readFrom_blank {c : Char} (blank : isBlank c = true) {word : Text} (some : word ≠ [])
    (lead rest : Text) :
    readFrom 0 lead word (c :: rest) = cons ⟨lead.reverse, word.reverse⟩ (readFrom 0 [c] [] rest) := by
  rw [readFrom, if_pos blank, if_neg (by simpa using some)]
  rintro inside rfl
  exact absurd blank (by decide)

/-- The characters of a segment go over to its token. -/
theorem readFrom_skip (u : Text) (lead word rest : Text) :
    readFrom u.length lead word (u ++ rest) = readFrom 0 lead (u.reverse ++ word) rest := by
  induction u generalizing word with
  | nil => rfl
  | cons c u ih =>
    rw [List.length_cons, List.cons_append, readFrom, ih, List.reverse_cons, List.append_assoc,
      List.singleton_append]

/-- A character that is no blank and opens no segment goes over to its token. -/
theorem readFrom_char {c : Char} (noBlank : isBlank c = false) {rest : Text}
    (noBlock : c = '$' → rest.head? ≠ some '{') (lead word : Text) :
    readFrom 0 lead word (c :: rest) = readFrom 0 lead (c :: word) rest := by
  rw [readFrom, if_neg (by simp [noBlank])]
  rintro inside dollar rfl
  exact noBlock dollar rfl

/-- A segment that closes goes over to its token. -/
theorem readFrom_segment {inside : Text} {n : Nat} (closed : closeFrom [.block] inside = some n)
    (lead word rest : Text) :
    readFrom 0 lead word ('$' :: '{' :: (inside.take n ++ rest)) =
      readFrom 0 lead (('$' :: '{' :: inside.take n).reverse ++ word) rest := by
  obtain ⟨le, again⟩ := closeFrom_take proper_block closed rest
  have length : n + 1 = ('{' :: inside.take n).length := by simp [le]
  rw [readFrom, if_neg (by decide)]
  simp only [again]
  rw [length, ← List.cons_append, readFrom_skip]
  simp

/-! ### Tokens read as a whole -/

/-- The characters are read into one token in every place, if no brace comes behind them. -/
def Whole (u : Text) : Prop :=
  u ≠ [] ∧ ∀ lead word rest, rest.head? ≠ some '{' →
    readFrom 0 lead word (u ++ rest) = readFrom 0 lead (u.reverse ++ word) rest

/-- The characters are read into one token at the end of a class list. -/
def Reaches (u : Text) : Prop :=
  u ≠ [] ∧ ∀ lead, readFrom 0 lead [] u = ⟨[⟨lead.reverse, u⟩], []⟩

/-- A text without segments opens none where it starts. -/
theorem isOpaque_cons {c : Char} {u : Text} (clear : isOpaque (c :: u) = false) :
    (c = '$' → u.head? ≠ some '{') ∧ isOpaque u = false := by
  obtain ⟨here, later⟩ := Bool.or_eq_false_iff.mp ((has_cons c u ['$', '{']).symm.trans clear)
  refine ⟨?_, later⟩
  rintro rfl brace
  obtain ⟨u, rfl⟩ := List.head?_eq_some_iff.mp brace
  cases here

theorem isOpaque_append {t u : Text} (clear : isOpaque (t ++ u) = false) : isOpaque u = false := by
  induction t with
  | nil => exact clear
  | cons c t ih => exact ih (isOpaque_cons clear).2

/-- Characters that are no blanks and open no segment are read as a whole. -/
theorem whole_of_clear {u : Text} (some : u ≠ []) (noBlank : ∀ c ∈ u, isBlank c = false)
    (clear : isOpaque u = false) : Whole u := by
  refine ⟨some, fun lead word rest follows => ?_⟩
  clear some
  induction u generalizing word with
  | nil => rfl
  | cons c u ih =>
    obtain ⟨here, later⟩ := List.forall_mem_cons.mp noBlank
    obtain ⟨noBlock, clear⟩ := isOpaque_cons clear
    have next : c = '$' → (u ++ rest).head? ≠ .some '{' := by
      intro dollar
      cases u with
      | nil => exact follows
      | cons d u => exact noBlock dollar
    rw [List.cons_append, readFrom_char here next, ih later clear, List.reverse_cons,
      List.append_assoc, List.singleton_append]

/-- What is read so far of a token is read as a whole, with the `skip` characters of a segment that are
still to be taken over; `t` is what follows. -/
def Taken (skip : Nat) (word t : Text) : Prop :=
  ∀ lead before rest, (rest.head? = some '{' → (t.drop skip).head? = some '{') →
    readFrom 0 lead before (word.reverse ++ t.take skip ++ rest) =
      readFrom 0 lead ((word.reverse ++ t.take skip).reverse ++ before) rest

theorem Taken.start (t : Text) : Taken 0 [] t := fun _ _ _ _ => by simp

/-- A token that ends is read as a whole. -/
theorem Taken.whole {skip : Nat} {word t : Text} (taken : Taken skip word t) (some : word ≠ [])
    (ends : t.take skip = []) : Whole word.reverse := by
  refine ⟨by simpa using some, fun lead before rest follows => ?_⟩
  have reads := taken lead before rest fun brace => absurd brace follows
  rwa [ends, List.append_nil] at reads

/-- One more character of a token. -/
theorem Taken.next {word rest : Text} {c : Char} (taken : Taken 0 word (c :: rest))
    (noBlank : isBlank c = false) (noBlock : c = '$' → rest.head? ≠ some '{') :
    Taken 0 (c :: word) rest := by
  intro lead before more follows
  have reads := taken lead before (c :: more) fun brace => brace
  rw [readFrom_char noBlank fun dollar brace => noBlock dollar (follows brace)] at reads
  simpa using reads

/-- A segment of a token. -/
theorem Taken.segment {word inside : Text} {n : Nat} (taken : Taken 0 word ('$' :: '{' :: inside))
    (closed : closeFrom [.block] inside = some n) : Taken (n + 1) ('$' :: word) ('{' :: inside) := by
  intro lead before more _
  have reads := taken lead before ('$' :: '{' :: (inside.take n ++ more)) fun brace => by cases brace
  rw [readFrom_segment closed] at reads
  simpa using reads

/-- One more character of a segment. -/
theorem Taken.skip {skip : Nat} {word rest : Text} {c : Char} (taken : Taken (skip + 1) word (c :: rest)) :
    Taken skip (c :: word) rest := by
  intro lead before more follows
  simpa using taken lead before more follows

/-- A segment that does not close reaches to the end with all its token. -/
theorem Taken.reaches {word inside : Text} (taken : Taken 0 word ('$' :: '{' :: inside))
    (unclosed : closeFrom [.block] inside = none) :
    Reaches (word.reverse ++ '$' :: '{' :: inside) := by
  refine ⟨by simp, fun lead => ?_⟩
  have reads := taken lead [] ('$' :: '{' :: inside) fun brace => by cases brace
  rw [List.take_zero, List.append_nil] at reads
  rw [reads, readFrom, if_neg (by decide)]
  simp only [unclosed, List.reverse_reverse, List.append_nil]

/-! ### Tidy class lists -/

/-- The class list is as if read: the tokens have blanks before them, the first one perhaps none, and
each is read as a whole or reaches to the end. `started` says that a token stands before. -/
def Tidy (trailing : Text) : Bool → List ClassToken → Prop
  | _, [] => ∀ c ∈ trailing, isBlank c = true
  | started, token :: rest =>
    (∀ c ∈ token.lead, isBlank c = true) ∧ (started = true → token.lead ≠ []) ∧
      (Whole token.text ∨ Reaches token.text ∧ rest = [] ∧ trailing = []) ∧ Tidy trailing true rest

/-- A token and what is behind it are read back if what is behind it is. -/
theorem readFrom_token {token : ClassToken} {rest : List ClassToken} {trailing : Text}
    (blank : ∀ c ∈ token.lead, isBlank c = true)
    (whole : Whole token.text ∨ Reaches token.text ∧ rest = [] ∧ trailing = [])
    (behind : ∀ lead word, word ≠ [] →
      readFrom 0 lead word (text ⟨rest, trailing⟩) = cons ⟨lead.reverse, word.reverse⟩ ⟨rest, trailing⟩)
    (noBrace : (text ⟨rest, trailing⟩).head? ≠ some '{') (lead : Text) :
    readFrom 0 lead [] (text ⟨token :: rest, trailing⟩) =
      ⟨⟨lead.reverse ++ token.lead, token.text⟩ :: rest, trailing⟩ := by
  have shape : text ⟨token :: rest, trailing⟩ = token.lead ++ (token.text ++ text ⟨rest, trailing⟩) := by
    simp [text]
  rw [shape, readFrom_blanks blank]
  obtain ⟨some, reads⟩ | ⟨⟨-, reads⟩, rfl, rfl⟩ := whole
  · rw [reads _ _ _ noBrace, behind _ _ (by simpa using some)]
    simp [cons]
  · simp [text, reads]

/-- What starts with a blank starts with no brace. -/
theorem head?_ne_brace {u : Text} (blank : ∀ c ∈ u.head?, isBlank c = true) : u.head? ≠ some '{' :=
  fun brace => absurd (blank _ brace) (by decide)

/-- Behind a token, a tidy class list starts with a blank. -/
theorem Tidy.head? {trailing : Text} {tokens : List ClassToken} (tidy : Tidy trailing true tokens) :
    ∀ c ∈ (text ⟨tokens, trailing⟩).head?, isBlank c = true := by
  cases tokens with
  | nil => exact fun c mem => tidy c (List.mem_of_mem_head? (by simpa [text] using mem))
  | cons token rest =>
    obtain ⟨blank, apart, -, -⟩ := tidy
    have some := apart rfl
    intro c mem
    cases start : token.lead with
    | nil => exact absurd start some
    | cons d lead =>
      simp only [text, List.map_cons, List.flatten_cons, start, List.cons_append, List.head?_cons,
        Option.mem_some] at mem
      exact blank c (by simp [start, mem])

/-- Behind a token, a tidy class list is read back. -/
theorem Tidy.readFrom {trailing : Text} {tokens : List ClassToken} (tidy : Tidy trailing true tokens)
    (lead : Text) {word : Text} (some : word ≠ []) :
    readFrom 0 lead word (text ⟨tokens, trailing⟩) =
      cons ⟨lead.reverse, word.reverse⟩ ⟨tokens, trailing⟩ := by
  induction tokens generalizing lead word with
  | nil =>
    cases trailing with
    | nil => simp [text, ClassList.readFrom, some, cons]
    | cons c trailing =>
      obtain ⟨here, later⟩ := List.forall_mem_cons.mp tidy
      have all := readFrom_blanks later [c] []
      rw [List.append_nil] at all
      simp only [text, List.map_nil, List.flatten_nil, List.nil_append]
      rw [readFrom_blank here some, all]
      simp [ClassList.readFrom]
  | cons token rest ih =>
    obtain ⟨blank, apart, whole, behind⟩ := tidy
    have some' := apart rfl
    cases start : token.lead with
    | nil => exact absurd start some'
    | cons c blanks =>
      rw [start] at blank
      obtain ⟨here, later⟩ := List.forall_mem_cons.mp blank
      have shape : text ⟨token :: rest, trailing⟩ = c :: text ⟨⟨blanks, token.text⟩ :: rest, trailing⟩ := by
        simp [text, start]
      rw [shape, readFrom_blank here some, @readFrom_token ⟨blanks, token.text⟩ _ _ later whole
        (fun lead word some => ih behind lead some) (head?_ne_brace behind.head?)]
      simp [cons, ← start]

/-- **Tidy class lists are read back** as they were put together. -/
theorem read_text {list : ClassList} (tidy : Tidy list.trailing false list.tokens) :
    read list.text = list := by
  obtain ⟨tokens, trailing⟩ := list
  cases tokens with
  | nil =>
    have all := readFrom_blanks tidy [] []
    simp only [read, text, List.map_nil, List.flatten_nil, List.nil_append]
    rw [List.append_nil] at all
    rw [all]
    simp [ClassList.readFrom]
  | cons token rest =>
    obtain ⟨blank, -, whole, behind⟩ := tidy
    exact readFrom_token blank whole (fun lead word some => behind.readFrom lead some)
      (head?_ne_brace behind.head?) []

/-- A class list is tidy when it is read, and without an unclosed segment its tokens are whole. -/
theorem tidy_readFrom {skip : Nat} {lead word t : Text} {started : Bool} (taken : Taken skip word t)
    (leads : ∀ c ∈ lead, isBlank c = true) (apart : started = true → lead ≠ []) :
    Tidy (readFrom skip lead word t).trailing started (readFrom skip lead word t).tokens ∧
      (segmentsCloseFrom skip t = true →
        ∀ token ∈ (readFrom skip lead word t).tokens, Whole token.text) := by
  have reversed : ∀ {l : Text}, (∀ c ∈ l, isBlank c = true) → ∀ c ∈ l.reverse, isBlank c = true :=
    fun blank c mem => blank c (List.mem_reverse.mp mem)
  fun_induction readFrom skip lead word t generalizing started with
  | case1 skip lead word empty => exact ⟨reversed leads, fun _ => List.forall_mem_nil _⟩
  | case2 skip lead word some =>
    have whole := taken.whole (by simpa using some) List.take_nil
    exact ⟨⟨reversed leads, fun before => by simpa using apart before, .inl whole, List.forall_mem_nil _⟩,
      fun _ token mem => List.mem_singleton.mp mem ▸ whole⟩
  | case3 skip lead word c rest ih =>
    unfold segmentsCloseFrom
    exact ih taken.skip leads apart
  | case4 lead word c rest blank empty ih =>
    obtain rfl := List.isEmpty_iff.mp empty
    rw [segmentsCloseFrom_char fun dollar => absurd dollar (ne_of_class blank (by decide))]
    exact ih (.start _) (List.forall_mem_cons.mpr ⟨blank, leads⟩) fun _ => List.cons_ne_nil _ _
  | case5 lead word c rest blank some ih =>
    have whole := taken.whole (by simpa using some) rfl
    obtain ⟨tidy, wholes⟩ := @ih true (.start _)
      (fun d mem => List.mem_singleton.mp mem ▸ blank) fun _ => List.cons_ne_nil _ _
    rw [segmentsCloseFrom_char fun dollar => absurd dollar (ne_of_class blank (by decide))]
    exact ⟨⟨reversed leads, fun before => by simpa using apart before, .inl whole, tidy⟩,
      fun closed => List.forall_mem_cons.mpr ⟨whole, wholes closed⟩⟩
  | case6 lead word inside n closed noBlank ih =>
    rw [segmentsCloseFrom]
    simp only [closed]
    exact ih (taken.segment closed) leads apart
  | case7 lead word inside unclosed noBlank =>
    rw [segmentsCloseFrom]
    simp only [unclosed]
    exact ⟨⟨reversed leads, fun before => by simpa using apart before,
      .inr ⟨taken.reaches unclosed, rfl, rfl⟩, List.forall_mem_nil _⟩, fun closed => by cases closed⟩
  | case8 lead word c rest noBlank noBlock ih =>
    have open' : c = '$' → rest.head? ≠ some '{' := by
      intro dollar brace
      obtain ⟨rest, rfl⟩ := List.head?_eq_some_iff.mp brace
      exact noBlock rest dollar rfl
    rw [segmentsCloseFrom_char open']
    exact ih (taken.next (by simpa using noBlank) open') leads apart

/-- What is read is tidy, and where every segment closes, its tokens are whole. -/
theorem tidy_read (t : Text) : Tidy (read t).trailing false (read t).tokens ∧
    (segmentsClose t = true → ∀ token ∈ (read t).tokens, Whole token.text) :=
  tidy_readFrom (.start t) (fun _ mem => by cases mem) (fun before => by cases before)

end ClassList

/-! ## Tokens replaced and dropped -/

variable {hits : Text → Bool} {new : Text}

/-- The token is editable and one of those that `hits` accepts. -/
def isHit (hits : Text → Bool) (u : Text) : Bool := isEditable u && hits u

/-- The tokens of a class list with the first one that is hit replaced by `new` and the others dropped;
without one `new` comes last. -/
def withToken (hits : Text → Bool) (new : Text) (tokens : List Text) : List Text :=
  tokens.takeWhile (!isHit hits ·) ++ new :: (tokens.dropWhile (!isHit hits ·)).filter (!isHit hits ·)

/-! ### Tokens one by one -/

/-- The first token has other blanks before it. -/
def withLead : Option Text → List ClassToken → List ClassToken
  | some lead, token :: rest => ⟨lead, token.text⟩ :: rest
  | _, tokens => tokens

theorem texts_withLead (lead? : Option Text) (tokens : List ClassToken) :
    (withLead lead? tokens).map (·.text) = tokens.map (·.text) := by
  fun_cases withLead lead? tokens <;> rfl

/-- The tokens that are not hit. -/
def withoutHits (hits : Text → Bool) (tokens : List ClassToken) : List ClassToken :=
  tokens.filter (!isHit hits ·.text)

/-- Once the new token has its place, or if there is none, tokens that are hit are dropped. The first one that
is left takes over the blanks before the first of all, if no token stands before them. -/
theorem replaceFrom_drop {placed : Bool} (drops : (new.isEmpty || placed) = true) (started : Bool)
    (carry : Option Text) (tokens : List ClassToken) :
    replaceFrom hits new placed started carry tokens =
      withLead (if started || carry.isSome then carry else tokens.head?.map (·.lead)) (withoutHits hits tokens) := by
  fun_induction replaceFrom hits new placed started carry tokens with
  | case1 placed started carry => cases carry <;> cases started <;> rfl
  | case2 _ _ _ place => exact absurd drops place
  | case3 placed started carry token rest hit _ ih =>
    rw [ih drops, withoutHits, withoutHits, List.filter_cons_of_neg (by simp [isHit, hit])]
    cases carry <;> cases started <;> rfl
  | case4 _ _ _ _ _ _ place => exact absurd drops place
  | case5 placed started carry token rest other ih =>
    have keeps : isHit hits token.text = false := Bool.eq_false_iff.mpr other
    rw [ih drops, withoutHits, withoutHits, List.filter_cons_of_pos (by simp [keeps])]
    cases carry <;> cases started <;> rfl

/-- A new token without a place comes last, behind one blank if there is any token before. -/
theorem replaceFrom_last (some : new ≠ []) {tokens : List ClassToken}
    (others : ∀ token ∈ tokens, isHit hits token.text = false) (started : Bool) :
    replaceFrom hits new false started none tokens =
      tokens ++ [⟨if started || !tokens.isEmpty then [' '] else [], new⟩] := by
  induction tokens generalizing started with
  | nil => simp [replaceFrom, some]
  | cons token rest ih =>
    obtain ⟨here, later⟩ := List.forall_mem_cons.mp others
    have other : ¬(isEditable token.text && hits token.text) = true := Bool.eq_false_iff.mp here
    rw [replaceFrom, if_neg other, ih later, List.isEmpty_cons, Bool.not_false, Bool.or_true, Bool.true_or]
    rfl

/-- A new token takes the place of the first one that is hit, and the blanks before it. Those that are hit behind
it are dropped. -/
theorem replaceFrom_first (some : new ≠ []) {front back : List ClassToken} {first : ClassToken}
    (others : ∀ token ∈ front, isHit hits token.text = false) (hit : isHit hits first.text = true)
    (started : Bool) :
    replaceFrom hits new false started none (front ++ first :: back) =
      front ++ ⟨first.lead, new⟩ :: withoutHits hits back := by
  induction front generalizing started with
  | nil =>
    have hit' : (isEditable first.text && hits first.text) = true := hit
    rw [List.nil_append, replaceFrom, if_pos hit', if_neg (by simp [some]), replaceFrom_drop (Bool.or_true _)]
    rfl
  | cons token front ih =>
    obtain ⟨here, later⟩ := List.forall_mem_cons.mp others
    have other : ¬(isEditable token.text && hits token.text) = true := Bool.eq_false_iff.mp here
    rw [List.cons_append, replaceFrom, if_neg other, ih later]
    rfl

/-- There is a first token that is hit, or none at all. -/
theorem exists_first_hit (hits : Text → Bool) (tokens : List ClassToken) :
    (∀ token ∈ tokens, isHit hits token.text = false) ∨
      ∃ front first back, tokens = front ++ first :: back ∧ (∀ token ∈ front, isHit hits token.text = false) ∧
        isHit hits first.text = true := by
  induction tokens with
  | nil => exact .inl (List.forall_mem_nil _)
  | cons token rest ih =>
    cases here : isHit hits token.text with
    | true => exact .inr ⟨[], token, rest, rfl, List.forall_mem_nil _, here⟩
    | false =>
      obtain others | ⟨front, first, back, rfl, others, hit⟩ := ih
      · exact .inl (List.forall_mem_cons.mpr ⟨here, others⟩)
      · exact .inr ⟨token :: front, first, back, rfl, List.forall_mem_cons.mpr ⟨here, others⟩, hit⟩

/-- Token by token, those that are hit are left out. -/
theorem texts_withoutHits (tokens : List ClassToken) :
    (withoutHits hits tokens).map (·.text) = (tokens.map (·.text)).filter (!isHit hits ·) := by
  rw [withoutHits, List.filter_map]
  rfl

/-- Once the new token has its place, or if there is none, tokens that are hit are dropped. -/
theorem texts_replaceFrom_drop {placed : Bool} (drops : (new.isEmpty || placed) = true) (started : Bool)
    (carry : Option Text) (tokens : List ClassToken) :
    (replaceFrom hits new placed started carry tokens).map (·.text) =
      (tokens.map (·.text)).filter (!isHit hits ·) := by
  rw [replaceFrom_drop drops, texts_withLead, texts_withoutHits]

/-- A new token takes the place of the first one that is hit, or comes last. -/
theorem texts_replaceFrom_place (some : new ≠ []) (started : Bool) (tokens : List ClassToken) :
    (replaceFrom hits new false started none tokens).map (·.text) =
      withToken hits new (tokens.map (·.text)) := by
  obtain others | ⟨front, first, back, rfl, others, hit⟩ := exists_first_hit hits tokens
  · have runs : ∀ u ∈ tokens.map (·.text), (!isHit hits u) = true :=
      List.forall_mem_map.mpr fun token mem => by rw [others token mem]; rfl
    rw [replaceFrom_last some others, withToken, List.takeWhile_eq_self_iff.mpr runs,
      List.dropWhile_eq_nil_iff.mpr runs, List.map_append]
    rfl
  · have runs : ∀ u ∈ front.map (·.text), (!isHit hits u) = true :=
      List.forall_mem_map.mpr fun token mem => by rw [others token mem]; rfl
    rw [replaceFrom_first some others hit, List.map_append, List.map_append, List.map_cons, List.map_cons,
      texts_withoutHits, withToken, List.takeWhile_append_of_pos runs, List.dropWhile_append_of_pos runs]
    simp [hit]

/-- Where one token is hit, the new one takes its place, and the blanks before it. -/
theorem replaceFrom_single {placed started : Bool} {tokens : List ClassToken} (some : new ≠ [])
    (single : (tokens.map (·.text)).countP (isHit hits) = if placed then 0 else 1) :
    replaceFrom hits new placed started none tokens =
      tokens.map fun token => ⟨token.lead, if isHit hits token.text then new else token.text⟩ := by
  generalize none_eq : (none : Option Text) = carry
  fun_induction replaceFrom hits new placed started carry tokens with
  | case1 => rfl
  | case2 placed started carry place =>
    cases placed with
    | false => cases single
    | true => exact absurd (Bool.or_true _) place
  | case3 placed started carry token rest hit drops ih =>
    have hit : isHit hits token.text = true := hit
    have placed : placed = true := by simpa [some] using drops
    rw [List.map_cons, List.countP_cons_of_pos hit, if_pos placed] at single
    cases single
  | case4 placed started carry token rest hit place ih =>
    have hit : isHit hits token.text = true := hit
    have placed : placed = false := by simpa [some] using place
    rw [List.map_cons, List.countP_cons_of_pos hit, if_neg (by simp [placed])] at single
    rw [ih (Nat.succ.inj single) none_eq, List.map_cons, if_pos hit]
  | case5 placed started carry token rest other ih =>
    have keeps : ¬isHit hits token.text = true := other
    rw [List.map_cons, List.countP_cons_of_neg keeps] at single
    subst none_eq
    rw [ih single rfl, List.map_cons, if_neg keeps, Option.getD_none]

namespace ClassList

/-- Blanks before the first token do no harm. -/
theorem Tidy.weaken {trailing : Text} {tokens : List ClassToken} (tidy : Tidy trailing true tokens)
    (started : Bool) : Tidy trailing started tokens := by
  cases tokens with
  | nil => exact tidy
  | cons token rest => exact ⟨tidy.1, fun _ => tidy.2.1 rfl, tidy.2.2⟩

/-- Tokens stay tidy without the blanks behind them. -/
theorem Tidy.bare {trailing : Text} {started : Bool} {tokens : List ClassToken}
    (tidy : Tidy trailing started tokens) : Tidy [] started tokens := by
  induction tokens generalizing started with
  | nil => exact List.forall_mem_nil _
  | cons token rest ih =>
    obtain ⟨leads, apart, whole, behind⟩ := tidy
    exact ⟨leads, apart, whole.imp_right fun last => ⟨last.1, last.2.1, rfl⟩, ih behind⟩

/-- Tokens that are left stay tidy. -/
theorem Tidy.filter {trailing : Text} {started : Bool} {tokens : List ClassToken}
    (tidy : Tidy trailing started tokens) (keeps : ClassToken → Bool) :
    Tidy trailing started (tokens.filter keeps) := by
  induction tokens generalizing started with
  | nil => exact tidy
  | cons token rest ih =>
    obtain ⟨leads, apart, whole, behind⟩ := tidy
    rw [List.filter_cons]
    split
    · refine ⟨leads, apart, whole.imp_right fun last => ⟨last.1, ?_, last.2.2⟩, ih behind⟩
      rw [last.2.1, List.filter_nil]
    · exact (ih behind).weaken started

/-- Tokens stay tidy with other blanks before the first one. -/
theorem Tidy.withLead {trailing : Text} {tokens : List ClassToken} (tidy : Tidy trailing false tokens)
    {lead? : Option Text} (blank : ∀ lead ∈ lead?, ∀ c ∈ lead, isBlank c = true) :
    Tidy trailing false (Style.withLead lead? tokens) := by
  fun_cases Style.withLead lead? tokens with
  | case1 lead token rest => exact ⟨blank lead rfl, nofun, tidy.2.2⟩
  | case2 => exact tidy

/-- Tokens stay tidy with a new one in the place of another. -/
theorem Tidy.splice {trailing : Text} {started : Bool} {front back : List ClassToken} {first : ClassToken}
    (tidy : Tidy trailing started (front ++ first :: back)) (whole : Whole new) (keeps : ClassToken → Bool) :
    Tidy trailing started (front ++ ⟨first.lead, new⟩ :: back.filter keeps) := by
  induction front generalizing started with
  | nil => exact ⟨tidy.1, tidy.2.1, .inl whole, tidy.2.2.2.filter keeps⟩
  | cons token front ih =>
    obtain ⟨leads, apart, whole', behind⟩ := tidy
    -- a token that reaches to the end has nothing behind it, so it does not stand here
    exact ⟨leads, apart, whole'.imp_right fun last => absurd last.2.1 (by simp), ih behind⟩

/-- Whole tokens stay tidy with a new one behind them. -/
theorem Tidy.concat {trailing : Text} {started : Bool} {tokens : List ClassToken}
    (tidy : Tidy trailing started tokens) (wholes : ∀ token ∈ tokens, Whole token.text) (whole : Whole new) :
    Tidy trailing started (tokens ++ [⟨if started || !tokens.isEmpty then [' '] else [], new⟩]) := by
  induction tokens generalizing started with
  | nil =>
    cases started with
    | false => exact ⟨List.forall_mem_nil _, nofun, .inl whole, tidy⟩
    | true => exact ⟨by simp; rfl, fun _ => List.cons_ne_nil _ _, .inl whole, tidy⟩
  | cons token rest ih =>
    obtain ⟨leads, apart, -, behind⟩ := tidy
    obtain ⟨here, later⟩ := List.forall_mem_cons.mp wholes
    have spaced := ih behind later
    rw [Bool.true_or] at spaced
    rw [List.isEmpty_cons, Bool.not_false, Bool.or_true]
    exact ⟨leads, apart, .inl here, spaced⟩

/-- Tokens that are replaced stay tidy, if none of them reaches to the end or one gives its place. -/
theorem Tidy.replaceFrom {trailing : Text} {tokens : List ClassToken} (tidy : Tidy trailing false tokens)
    (room : new = [] ∨ Whole new ∧
      ((∀ token ∈ tokens, Whole token.text) ∨ ∃ token ∈ tokens, isHit hits token.text = true)) :
    Tidy trailing false (Style.replaceFrom hits new false false none tokens) := by
  obtain rfl | ⟨whole, room⟩ := room
  · rw [replaceFrom_drop rfl]
    refine (tidy.filter _).withLead fun lead mem => ?_
    obtain ⟨token, head, rfl⟩ := Option.map_eq_some_iff.mp mem
    obtain ⟨rest, rfl⟩ := List.head?_eq_some_iff.mp head
    exact tidy.1
  obtain others | ⟨front, first, back, rfl, others, hit⟩ := exists_first_hit hits tokens
  · rw [replaceFrom_last whole.1 others]
    refine tidy.concat (room.resolve_right ?_) whole
    rintro ⟨token, mem, hit⟩
    exact absurd hit (by rw [others token mem]; decide)
  · rw [replaceFrom_first whole.1 others hit]
    exact tidy.splice whole _

end ClassList

/-! ### Class texts -/

/-- Where every segment closes, tokens are read as a whole. -/
theorem whole_of_segmentsClose {classes : Text} (closed : segmentsClose classes = true) :
    ∀ u ∈ tokenTexts classes, ClassList.Whole u :=
  List.forall_mem_map.mpr ((ClassList.tidy_read classes).2 closed)

/-- What becomes of a class text is read back as it was put together. -/
theorem read_replaceTokens {classes : Text}
    (room : new = [] ∨ ClassList.Whole new ∧
      ((∀ u ∈ tokenTexts classes, ClassList.Whole u) ∨ ∃ u ∈ tokenTexts classes, isHit hits u = true)) :
    ClassList.read (replaceTokens classes hits new) =
      ⟨replaceFrom hits new false false none (ClassList.read classes).tokens,
        (ClassList.read classes).trailing⟩ := by
  have tidy := (ClassList.tidy_read classes).1
  refine ClassList.read_text (tidy.replaceFrom (room.imp_right (.imp_right (.imp List.forall_mem_map.mp ?_))))
  rintro ⟨u, mem, hit⟩
  obtain ⟨token, listed, rfl⟩ := List.mem_map.mp mem
  exact ⟨token, listed, hit⟩

/-- **Tokens dropped**: those that are hit are gone, the others stay in order. -/
theorem tokenTexts_dropTokens (classes : Text) (hits : Text → Bool) :
    tokenTexts (replaceTokens classes hits []) = (tokenTexts classes).filter (!isHit hits ·) := by
  rw [tokenTexts, read_replaceTokens (.inl rfl)]
  exact texts_replaceFrom_drop rfl false none _

/-- **Tokens replaced**: the new one stands where the first one that is hit stood, or last; the others
that are hit are gone, and those that are not stay in order. -/
theorem tokenTexts_replaceTokens {classes : Text} (whole : ClassList.Whole new)
    (room : (∀ u ∈ tokenTexts classes, ClassList.Whole u) ∨ ∃ u ∈ tokenTexts classes, isHit hits u = true) :
    tokenTexts (replaceTokens classes hits new) = withToken hits new (tokenTexts classes) := by
  rw [tokenTexts, read_replaceTokens (.inr ⟨whole, room⟩)]
  exact texts_replaceFrom_place whole.1 false _

/-- Tokens that are not hit stay in order when a new one is put in. -/
theorem filter_sublist_withToken (hits : Text → Bool) (new : Text) (texts : List Text) :
    (texts.filter (!isHit hits ·)).Sublist (withToken hits new texts) := by
  have runs : (texts.takeWhile (!isHit hits ·)).filter (!isHit hits ·) = texts.takeWhile (!isHit hits ·) :=
    List.filter_eq_self.mpr fun u mem => List.mem_takeWhile_imp (p := (!isHit hits ·)) mem
  conv_lhs => rw [← List.takeWhile_append_dropWhile (p := (!isHit hits ·)) (l := texts)]
  rw [List.filter_append, runs, withToken]
  exact (List.Sublist.refl _).append (List.sublist_cons_self ..)

/-- **What becomes of a class text, token by token**: taken apart and put together again, it is as it was. After
a replacement it is read back so: without a new token, those that are hit are gone, and the first one that is
left has the blanks that stood before the first of all; a new one stands behind all tokens if none is hit, or
else in the place of the first one that is hit, with the blanks before it, and those that are hit behind it are
gone. The blanks at the end stay, and so do all tokens that may not be edited. -/
theorem read_replaceTokens_cases (classes : Text) :
    (ClassList.read classes).text = classes ∧
      ∀ (hits : Text → Bool) (new : Text), segmentsClose classes = true → (∀ c ∈ new, isBlank c = false) →
        isOpaque new = false →
        let before := ClassList.read classes
        let after := ClassList.read (replaceTokens classes hits new)
        after.trailing = before.trailing ∧
        (new = [] →
          after.tokens = withLead (before.tokens.head?.map (·.lead)) (withoutHits hits before.tokens)) ∧
        (new ≠ [] → (∀ token ∈ before.tokens, isHit hits token.text = false) →
          after.tokens = before.tokens ++ [⟨if before.tokens.isEmpty then [] else [' '], new⟩]) ∧
        (new ≠ [] → ∀ front first back, before.tokens = front ++ first :: back →
          (∀ token ∈ front, isHit hits token.text = false) → isHit hits first.text = true →
          after.tokens = front ++ ⟨first.lead, new⟩ :: withoutHits hits back) ∧
        ((tokenTexts classes).filter (!isEditable ·)).Sublist (after.tokens.map (·.text)) := by
  refine ⟨ClassList.text_read classes, fun hits new closed noBlank clear => ?_⟩
  intro before after
  have reads : after = ⟨replaceFrom hits new false false none before.tokens, before.trailing⟩ :=
    read_replaceTokens (or_iff_not_imp_left.mpr fun some =>
      ⟨ClassList.whole_of_clear some noBlank clear, .inl (whole_of_segmentsClose closed)⟩)
  have stay : ((tokenTexts classes).filter (!isEditable ·)).Sublist
      ((tokenTexts classes).filter (!isHit hits ·)) :=
    List.monotone_filter_right _ fun u other => by simp [isHit, by simpa using other]
  rw [reads]
  refine ⟨rfl, ?dropped, fun some others => ?last, fun some front first back split others hit => ?first, ?stay⟩
  case dropped =>
    rintro rfl
    exact replaceFrom_drop rfl false none _
  case last =>
    dsimp only
    rw [replaceFrom_last some others, Bool.false_or]
    cases before.tokens <;> rfl
  case first =>
    dsimp only
    rw [split]
    exact replaceFrom_first some others hit false
  case stay =>
    obtain rfl | some := eq_or_ne new []
    · rw [texts_replaceFrom_drop rfl]
      exact stay
    · rw [texts_replaceFrom_place some]
      exact stay.trans (filter_sublist_withToken ..)

/-- Two sizes next to a segment and a variant: a new one is put in the place of the first, or both are dropped. -/
theorem read_replaceTokens_sizes :
    let classes := " text-sm  p-4 ${a b} text-lg hover:text-xl ".toList
    let hits : Text → Bool := (startsWith · "text-".toList)
    (ClassList.read (replaceTokens classes hits "text-base".toList)).tokens =
        [⟨[' '], "text-base".toList⟩, ⟨[' ', ' '], "p-4".toList⟩, ⟨[' '], "${a b}".toList⟩,
          ⟨[' '], "hover:text-xl".toList⟩] ∧
      (ClassList.read (replaceTokens classes hits [])).tokens =
        [⟨[' '], "p-4".toList⟩, ⟨[' '], "${a b}".toList⟩, ⟨[' '], "hover:text-xl".toList⟩] := by
  intro classes hits
  have split : (ClassList.read classes).tokens = [] ++ ⟨[' '], "text-sm".toList⟩ ::
      [⟨[' ', ' '], "p-4".toList⟩, ⟨[' '], "${a b}".toList⟩, ⟨[' '], "text-lg".toList⟩,
        ⟨[' '], "hover:text-xl".toList⟩] := by decide
  have parts := (read_replaceTokens_cases classes).2 hits
  obtain ⟨-, -, -, placed, -⟩ := parts "text-base".toList (by decide) (by decide) (by decide)
  obtain ⟨-, dropped, -, -, -⟩ := parts [] (by decide) (by decide) (by decide)
  refine ⟨(placed (by decide) _ _ _ split (by decide) (by decide)).trans (by decide), ?_⟩
  rw [dropped rfl, split]
  decide

/-- After a token that is hit was put in, it is the only one of a wider kind exactly if all of that kind were
hit before. -/
theorem filter_withToken_iff {wide : Text → Bool} (wider : ∀ u, isHit hits u = true → wide u = true)
    (hit : isHit hits new = true) (texts : List Text) :
    (withToken hits new texts).filter wide = [new] ↔ ∀ u ∈ texts, wide u = true → isHit hits u = true := by
  constructor
  · intro only u mem is
    by_contra other
    have kept := (filter_sublist_withToken hits new texts).subset
      (List.mem_filter.mpr ⟨mem, by simpa using other⟩)
    have same : u ∈ [new] := only ▸ List.mem_filter.mpr ⟨kept, is⟩
    exact other (List.mem_singleton.mp same ▸ hit)
  · intro all
    have before : (texts.takeWhile (!isHit hits ·)).filter wide = [] := by
      refine List.filter_eq_nil_iff.mpr fun u mem is => ?_
      have other := List.mem_takeWhile_imp mem
      rw [all u (List.takeWhile_subset _ mem) is] at other
      cases other
    have behind : ((texts.dropWhile (!isHit hits ·)).filter (!isHit hits ·)).filter wide = [] := by
      refine List.filter_eq_nil_iff.mpr fun u mem is => ?_
      obtain ⟨mem, other⟩ := List.mem_filter.mp mem
      rw [all u (List.dropWhile_subset _ mem) is] at other
      cases other
    rw [withToken, List.filter_append, before, List.filter_cons_of_pos (wider _ hit), behind, List.nil_append]

/-- A token that is hit is the only one after it was put in. -/
theorem filter_withToken (hit : isHit hits new = true) (tokens : List Text) :
    (withToken hits new tokens).filter (isHit hits) = [new] :=
  (filter_withToken_iff (fun _ => id) hit tokens).mpr fun _ _ => id

/-! ### One token in its place -/

/-- The class list with other texts in its tokens; the blanks stay. -/
def ClassList.withTexts (f : Text → Text) (list : ClassList) : ClassList :=
  ⟨list.tokens.map fun token => ⟨token.lead, f token.text⟩, list.trailing⟩

theorem ClassList.withTexts_withTexts (f g : Text → Text) (list : ClassList) :
    (list.withTexts f).withTexts g = list.withTexts (g ∘ f) := by
  simp only [withTexts, List.map_map]
  rfl

theorem ClassList.withTexts_eq_self {f : Text → Text} {list : ClassList}
    (same : ∀ token ∈ list.tokens, f token.text = token.text) : list.withTexts f = list := by
  have tokens : list.tokens.map (fun token => ⟨token.lead, f token.text⟩) = list.tokens.map id :=
    List.map_congr_left fun token mem => by rw [same token mem, id]
  rw [withTexts, tokens, List.map_id]

section

variable {classes : Text}

theorem tokenTexts_withTexts {after : Text} {f : Text → Text}
    (read : ClassList.read after = (ClassList.read classes).withTexts f) :
    tokenTexts after = (tokenTexts classes).map f := by
  rw [tokenTexts, read, tokenTexts, List.map_map, ClassList.withTexts, List.map_map]
  rfl

/-- Where one token is hit, the new one is in its place. -/
theorem replaceTokens_single (some : new ≠ []) (single : (tokenTexts classes).countP (isHit hits) = 1) :
    replaceTokens classes hits new =
      ((ClassList.read classes).withTexts fun u => if isHit hits u then new else u).text := by
  have places := @replaceFrom_single hits new false false (ClassList.read classes).tokens some single
  rw [replaceTokens, places]
  rfl

/-- So it is when the class text is read again. -/
theorem read_replaceTokens_single (wholes : ∀ u ∈ tokenTexts classes, ClassList.Whole u)
    (whole : ClassList.Whole new) (single : (tokenTexts classes).countP (isHit hits) = 1) :
    ClassList.read (replaceTokens classes hits new) =
      (ClassList.read classes).withTexts fun u => if isHit hits u then new else u := by
  have places := @replaceFrom_single hits new false false (ClassList.read classes).tokens whole.1 single
  rw [read_replaceTokens (.inr ⟨whole, .inl wholes⟩), places]
  rfl

/-- Where the new token is the only one that is hit, nothing is left to replace. -/
theorem replaceTokens_same (some : new ≠ []) (only : (tokenTexts classes).filter (isHit hits) = [new]) :
    replaceTokens classes hits new = classes := by
  have single : (tokenTexts classes).countP (isHit hits) = 1 := by
    rw [List.countP_eq_length_filter, only, List.length_singleton]
  have same : ∀ token ∈ (ClassList.read classes).tokens,
      (if isHit hits token.text then new else token.text) = token.text := by
    intro token mem
    split
    · rename_i hit
      have listed := List.mem_filter.mpr ⟨List.mem_map_of_mem (f := (·.text)) mem, hit⟩
      exact (List.mem_singleton.mp (only ▸ listed)).symm
    · rfl
  rw [replaceTokens_single some single, ClassList.withTexts_eq_self same, ClassList.text_read]

end

/-- A token that was put in is put in for good. -/
theorem replaceTokens_again {classes : Text} (closed : segmentsClose classes = true)
    (whole : ClassList.Whole new) (hit : isHit hits new = true) :
    replaceTokens (replaceTokens classes hits new) hits new = replaceTokens classes hits new := by
  refine replaceTokens_same whole.1 ?_
  rw [tokenTexts_replaceTokens whole (.inl (whole_of_segmentsClose closed))]
  exact filter_withToken hit _

end Retouch.Style
