import Retouch.Patch.Replacement
import Retouch.Proofs.Locate.Found
import Retouch.Proofs.Markup.Written
import Retouch.Proofs.Patch.Occurrences

/-!
# What surrounds a place

A place that goes on as code on either side is left alone (`ComesFrom`, `GoesOn`). Any other one is prose if a
bracket stands in front of it or a closing tag behind it, blanks aside, and a string if it stands in quotes and
no attribute or import says that the string is code (`contextOf?_eq_markup_iff`, `contextOf?_eq_string_iff`). The
value of an attribute that holds prose is always a string (`contextOf?_proseAttribute`).

A place behind a bracket is taken for prose whatever the bracket is, unless it goes on as code
(`contextOf?_behind_iff`). A bracket also ends arrows and comparisons, so the text of a source is safe in such a
place only if every bracket in it ends a tag, those at its end aside (`markup_endsTag_iff`).
-/

namespace Retouch.Patch

open Retouch.Text Retouch.Markup

/-- What stands in front of a place makes it look like code. -/
inductive ComesFrom (source : Text) (start : Nat) : Prop
  /-- An identifier that the place goes on with. -/
  | identifier {c d} (before : charBefore? source start = some c) (first : source[start]? = some d)
    (part : isIdentifierChar c = true) (goes : isIdentifierChar d = true)
  /-- A dot: the place is a member. -/
  | dot (before : charBefore? source start = some '.')

/-- What stands behind a place makes it look like code. -/
inductive GoesOn (source : Text) (stop : Nat) : Prop
  /-- The identifier that it ends in. -/
  | identifier {c d} (last : charBefore? source stop = some c) (next : source[stop]? = some d)
    (part : isIdentifierChar c = true) (goes : isIdentifierChar d = true)
  /-- A colon: the place is a key. -/
  | key (next : source[stop]? = some ':')
  /-- A quote and a colon: it is a key in quotes. -/
  | quotedKey {q} (next : source[stop]? = some q) (quote : isQuote q = true) (colon : source[stop + 1]? = some ':')

/-- A bracket stands in front of a place, and only blanks are in between. -/
def BehindBracket (source : Text) (start : Nat) : Prop :=
  (((source.take start).reverse.dropWhile isBlank).head? == some '>') = true

/-- A closing tag stands behind a place, and only blanks are in between. -/
def BeforeClosing (source : Text) (stop : Nat) : Prop :=
  startsWith (stripStart (source.drop stop)) ['<', '/'] = true

/-- The same quote stands on both sides of a place. -/
def InQuotes (source : Text) (start stop : Nat) (q : Char) : Prop :=
  isQuote q = true ∧ charBefore? source start = some q ∧ source[stop]? = some q

/-- What stands in front of the quote of a string, as far as it is looked at. -/
def headOf (source : Text) (start : Nat) : Text := slice source (start - attributeReach) (start - 1)

/-- The string is the value of an attribute that holds no prose. -/
def InCodeAttribute (source : Text) (start : Nat) : Prop :=
  ∃ name, attributeBefore? (headOf source start) = some name ∧ String.ofList name ∉ proseAttributes ∧
    (tagContaining? source start tagReach).isSome = true

instance (source : Text) (start : Nat) : Decidable (BehindBracket source start) :=
  inferInstanceAs (Decidable (_ = _))

instance (source : Text) (stop : Nat) : Decidable (BeforeClosing source stop) :=
  inferInstanceAs (Decidable (_ = _))

variable {source : Text} {start stop k : Nat}

/-! ### Places that look like code -/

/-- A place that goes on as code on either side is neither prose nor a string. -/
theorem contextOf?_of_code (code : ComesFrom source start ∨ GoesOn source stop) :
    contextOf? source start stop = none := by
  unfold contextOf?
  rcases code with
    (⟨before, first, part, goes⟩ | before) | (⟨last, next, part, goes⟩ | next | ⟨next, quote, colon⟩)
  · simp [before, first, part, goes]
  · simp [before]
  · simp [last, next, part, goes]
  · simp [next]
  · obtain ⟨lt, rfl⟩ := List.getElem?_eq_some_iff.mp next
    obtain ⟨lt', colon⟩ := List.getElem?_eq_some_iff.mp colon
    have follow := List.drop_eq_getElem_cons lt
    rw [List.drop_eq_getElem_cons lt', colon] at follow
    simp [follow, quote]

/-- What counts at any other place. -/
theorem contextOf?_of_not_code (front : ¬ ComesFrom source start) (behind : ¬ GoesOn source stop) :
    contextOf? source start stop =
      if BehindBracket source start then some .markup
      else if BeforeClosing source stop then some .markup
      else if (charBefore? source start).any isQuote && source[stop]? == charBefore? source start then
        if ((attributeBefore? (headOf source start)).any fun name =>
            !proseAttributes.contains (String.ofList name) && (tagContaining? source start tagReach).isSome) ||
          beforeModuleName (headOf source start) then none else some .string
      else none := by
  unfold contextOf?
  dsimp only
  rw [if_neg, if_neg, if_neg, if_neg, if_neg]
  · rfl
  · intro key
    split at key
    · cases key
    · cases key
    · rename_i a b rest follow
      obtain ⟨quote, colon⟩ := Bool.and_eq_true_iff.mp key
      have next : ∀ i, source[stop + i]? = (a :: b :: rest)[i]? := fun i => by
        rw [← follow, List.getElem?_drop]
      refine behind (.quotedKey (next 0) quote ?_)
      rw [next 1, ← eq_of_beq colon]
      rfl
  · exact fun key => behind (.key (eq_of_beq key))
  · exact fun dot => front (.dot (eq_of_beq dot))
  · intro identifier
    simp only [Bool.and_eq_true, Option.any_eq_true] at identifier
    obtain ⟨⟨d, next, goes⟩, c, last, part⟩ := identifier
    exact behind (.identifier last next part goes)
  · intro identifier
    simp only [Bool.and_eq_true, Option.any_eq_true] at identifier
    obtain ⟨⟨c, before, part⟩, d, first, goes⟩ := identifier
    exact front (.identifier before first part goes)

/-! ### Brackets in front -/

/-- The bracket at offset `k` stands in front of offset `i`, and only blanks are in between. -/
structure IsBehind (source : Text) (k i : Nat) : Prop where
  /-- It is a bracket. -/
  bracket : source[k]? = some '>'
  /-- It stands in front. -/
  before : k < i
  /-- There are only blanks in between. -/
  blank : ∀ c ∈ slice source (k + 1) i, isBlank c = true

theorem behindBracket_iff {i : Nat} : BehindBracket source i ↔ ∃ k, IsBehind source k i := by
  have stops : ∀ {t : Text} c, ('>' :: t).head? = some c → isBlank c = false := by
    rintro t c ⟨⟩
    decide
  have char : ∀ k < i, (source.take i)[k]? = source[k]? := fun k lt => List.getElem?_take_of_lt lt
  unfold BehindBracket
  rw [beq_iff_eq]
  constructor
  · intro head
    obtain ⟨blanks, rest, shape, blank, ends⟩ := exists_run isBlank (source.take i).reverse
    rw [shape, dropWhile_run blank ends] at head
    obtain ⟨front, rfl⟩ := List.head?_eq_some_iff.mp head
    have front_eq : source.take i = front.reverse ++ '>' :: blanks.reverse := by
      rw [← List.reverse_reverse (source.take i), shape]
      simp
    have before : front.reverse.length < i := by
      have length := congrArg List.length front_eq
      have le := List.length_take_le i source
      simp only [List.length_append, List.length_cons] at length
      omega
    refine ⟨front.reverse.length, ?_, before, fun c mem => blank c ?_⟩
    · rw [← char _ before, front_eq]
      simp
    · have inner : slice source (front.reverse.length + 1) i = blanks.reverse := by
        rw [slice, front_eq, ← List.drop_drop, List.drop_left]
        rfl
      rw [inner] at mem
      exact List.mem_reverse.mp mem
  · rintro ⟨k, bracket, before, blank⟩
    rw [← char k before] at bracket
    obtain ⟨lt, here⟩ := List.getElem?_eq_some_iff.mp bracket
    have run : ∀ c ∈ ((source.take i).drop (k + 1)).reverse, isBlank c = true :=
      fun c mem => blank c (List.mem_reverse.mp mem)
    have front_eq := List.take_append_drop k (source.take i)
    rw [List.drop_eq_getElem_cons lt, here] at front_eq
    rw [← front_eq, List.reverse_append, List.reverse_cons, List.append_assoc, List.singleton_append,
      dropWhile_run run stops]
    rfl

/-! ### Prose and strings -/

/-- **When a place is prose.** -/
theorem contextOf?_eq_markup_iff :
    contextOf? source start stop = some .markup ↔
      ¬ ComesFrom source start ∧ ¬ GoesOn source stop ∧
        (BehindBracket source start ∨ BeforeClosing source stop) := by
  by_cases code : ComesFrom source start ∨ GoesOn source stop
  · rw [contextOf?_of_code code]
    refine iff_of_false nofun fun is => ?_
    exact code.elim is.1 is.2.1
  · obtain ⟨front, behind⟩ := not_or.mp code
    rw [contextOf?_of_not_code front behind]
    split_ifs <;> simp [*]

/-- **When a place is a string.** -/
theorem contextOf?_eq_string_iff :
    contextOf? source start stop = some .string ↔
      ¬ ComesFrom source start ∧ ¬ GoesOn source stop ∧ ¬ BehindBracket source start ∧
        ¬ BeforeClosing source stop ∧ (∃ q, InQuotes source start stop q) ∧ ¬ InCodeAttribute source start ∧
        beforeModuleName (headOf source start) = false := by
  by_cases code : ComesFrom source start ∨ GoesOn source stop
  · rw [contextOf?_of_code code]
    refine iff_of_false nofun fun is => ?_
    exact code.elim is.1 is.2.1
  · obtain ⟨front, behind⟩ := not_or.mp code
    have quotes : ((charBefore? source start).any isQuote && source[stop]? == charBefore? source start) = true ↔
        ∃ q, InQuotes source start stop q := by
      simp only [InQuotes, Bool.and_eq_true, Option.any_eq_true, beq_iff_eq]
      grind
    have named : ((attributeBefore? (headOf source start)).any fun name =>
        !proseAttributes.contains (String.ofList name) && (tagContaining? source start tagReach).isSome) = true ↔
          InCodeAttribute source start := by
      simp only [InCodeAttribute, Option.any_eq_true, Bool.and_eq_true, Bool.not_eq_true', List.contains_eq_mem,
        decide_eq_false_iff_not]
    rw [contextOf?_of_not_code front behind, ← quotes, ← named]
    split_ifs <;> grind

/-! ### Behind a bracket -/

/-- A blank is no character of an identifier. -/
theorem isIdentifierChar_of_isBlank {c : Char} (blank : isBlank c = true) : isIdentifierChar c = false := by
  have noWord : isWord c = false := by
    have := isNameChar_of_isBlank blank
    simp only [isNameChar, Bool.or_eq_false_iff] at this
    exact this.1.1.1
  have noDollar : c ≠ '$' := ne_of_class blank (by decide)
  simp only [isWord, Bool.or_eq_false_iff] at noWord
  simp [isIdentifierChar, noWord, noDollar]

/-- Right in front of a place behind a bracket stands the bracket or a blank. -/
theorem IsBehind.charBefore?_cases {c : Char} (behind : IsBehind source k start)
    (before : charBefore? source start = some c) : c = '>' ∨ isBlank c = true := by
  obtain ⟨bracket, lt, blank⟩ := behind
  rw [charBefore?, if_neg (by simp; omega)] at before
  by_cases next : start - 1 = k
  · rw [next, bracket] at before
    exact .inl (Option.some.inj before).symm
  · have char : (slice source (k + 1) start)[start - 1 - (k + 1)]? = some c := by
      rw [slice, List.getElem?_drop, List.getElem?_take_of_lt (by omega), ← before]
      congr 1
      omega
    exact .inr (blank c (List.mem_of_getElem? char))

/-- Such a place does not come from code. -/
theorem IsBehind.not_comesFrom (behind : IsBehind source k start) : ¬ ComesFrom source start := by
  rintro (⟨before, -, part, -⟩ | before)
  · rcases behind.charBefore?_cases before with rfl | blank
    · exact absurd part (by decide)
    · cases part.symm.trans (isIdentifierChar_of_isBlank blank)
  · exact absurd (behind.charBefore?_cases before) (by decide)

/-- **What is taken for prose behind a bracket**: everything that does not go on as code. -/
theorem contextOf?_behind_iff (behind : IsBehind source k start) :
    contextOf? source start stop = some .markup ↔ ¬ GoesOn source stop := by
  rw [contextOf?_eq_markup_iff]
  exact ⟨fun is => is.2.1, fun goes => ⟨behind.not_comesFrom, goes, .inl (behindBracket_iff.mpr ⟨k, behind⟩)⟩⟩

/-- Where nothing follows, or a blank or a bracket that opens, nothing goes on. -/
theorem not_goesOn (ends : ∀ c, source[stop]? = some c → isBlank c = true ∨ c = '<') : ¬ GoesOn source stop := by
  have noQuote : ∀ c, isBlank c = true ∨ c = '<' → isQuote c = false := by
    rintro c (blank | rfl)
    · exact Bool.eq_false_iff.mpr fun quote =>
        absurd ((isOpener_of_isQuote quote).symm.trans (isOpener_of_isBlank blank)) (by decide)
    · decide
  have noPart : ∀ c, isBlank c = true ∨ c = '<' → isIdentifierChar c = false := by
    rintro c (blank | rfl)
    · exact isIdentifierChar_of_isBlank blank
    · decide
  rintro (⟨-, next, -, goes⟩ | next | ⟨next, quote, -⟩)
  · cases goes.symm.trans (noPart _ (ends _ next))
  · exact absurd (ends _ next) (by decide)
  · cases quote.symm.trans (noQuote _ (ends _ next))

/-! ### Texts in quotes -/

/-- The names of the attributes that hold prose. -/
theorem proseAttributes_named : ∀ name ∈ proseAttributes,
    name.toList ≠ [] ∧ name.toList.length ≤ 16 ∧ ∀ c ∈ name.toList, isAttributeNameChar c = true := by
  decide

/-- A blank is no character of an attribute's name. -/
theorem isAttributeNameChar_of_isBlank {c : Char} (blank : isBlank c = true) : isAttributeNameChar c = false := by
  have := isNameChar_of_isBlank blank
  simp only [isNameChar, Bool.or_eq_false_iff] at this
  simp [isAttributeNameChar, this]

/-- The name in front of an equals sign is that of the attribute. -/
theorem attributeBefore?_eq {before name : Text} {c : Char} (blank : isBlank c = true) (filled : name ≠ [])
    (named : ∀ d ∈ name, isAttributeNameChar d = true) :
    attributeBefore? (before ++ c :: (name ++ ['='])) = some name := by
  have back : (before ++ c :: (name ++ ['='])).reverse.dropWhile isBlank =
      '=' :: (name.reverse ++ c :: before.reverse) := by
    have noBlank : isBlank '=' = false := by decide
    simp [noBlank]
  have first : (name.reverse ++ c :: before.reverse).dropWhile isBlank = name.reverse ++ c :: before.reverse := by
    obtain ⟨d, t, shape⟩ := List.exists_cons_of_ne_nil (List.reverse_ne_nil_iff.mpr filled)
    have noBlank : isBlank d = false := Bool.eq_false_iff.mpr fun blank => by
      have part := named d (List.mem_reverse.mp (shape ▸ List.mem_cons_self ..))
      cases part.symm.trans (isAttributeNameChar_of_isBlank blank)
    rw [shape, List.cons_append, List.dropWhile_cons_of_neg (by simp [noBlank])]
  have run : (name.reverse ++ c :: before.reverse).takeWhile isAttributeNameChar = name.reverse := by
    refine takeWhile_run (fun d mem => named d (List.mem_reverse.mp mem)) ?_
    rintro d ⟨⟩
    exact isAttributeNameChar_of_isBlank blank
  rw [attributeBefore?, back]
  change (let called := ((name.reverse ++ c :: before.reverse).dropWhile isBlank).takeWhile isAttributeNameChar
    if called.isEmpty then none else some called.reverse) = some name
  simp [first, run, filled]

/-- No module is named behind an equals sign. -/
theorem beforeModuleName_sign (t : Text) : beforeModuleName (t ++ ['=']) = false := by
  have noBlank : isBlank '=' = false := by decide
  simp [beforeModuleName, noBlank, endsInWord, dropHead?]

/-- A quote is no character of an identifier. -/
theorem isIdentifierChar_of_isQuote {q : Char} (quote : isQuote q = true) : isIdentifierChar q = false := by
  rcases isQuote_cases quote with rfl | rfl | rfl <;> decide

section

variable {sign t u after : Text} {q : Char}

/-- What is looked at in front of a string ends in front of its quote. -/
theorem headOf_append : headOf (sign ++ q :: t) (sign.length + 1) = sign.drop (sign.length + 1 - attributeReach) := by
  rw [headOf, slice, Nat.add_sub_cancel, List.take_left]

/-- **A text in quotes is a string**, unless it is a key, what stands in front of it names an attribute that holds no
prose, or it is the name of a module. -/
theorem contextOf?_quoted_iff (quote : isQuote q = true) (noKey : after.head? ≠ some ':') :
    contextOf? (sign ++ q :: (u ++ q :: after)) (sign.length + 1) (sign.length + 1 + u.length) = some .string ↔
      ¬ InCodeAttribute (sign ++ q :: (u ++ q :: after)) (sign.length + 1) ∧
        beforeModuleName (sign.drop (sign.length + 1 - attributeReach)) = false := by
  have noBlank : isBlank q = false := isBlank_of_isOpener (isOpener_of_isQuote quote)
  have noPart := isIdentifierChar_of_isQuote quote
  have shape : sign ++ q :: (u ++ q :: after) = (sign ++ [q]) ++ (u ++ q :: after) := by simp
  have length : (sign ++ [q]).length = sign.length + 1 := by simp
  rw [contextOf?_eq_string_iff, headOf_append]
  generalize source_eq : sign ++ q :: (u ++ q :: after) = source at shape ⊢
  have front : charBefore? source (sign.length + 1) = some q := by
    rw [shape, ← length, WrittenTag.charBefore?_append, List.getLast?_concat]
  have behind : source.drop (sign.length + 1 + u.length) = q :: after := by
    rw [shape, ← length, ← List.drop_drop, List.drop_left, List.drop_left]
  have next : source[sign.length + 1 + u.length]? = some q := by
    rw [← Nat.add_zero (_ + u.length), ← List.getElem?_drop, behind]
    rfl
  have later : source[sign.length + 1 + u.length + 1]? = after.head? := by
    rw [← List.getElem?_drop, behind, List.head?_eq_getElem?]
    rfl
  have noFront : ¬ ComesFrom source (sign.length + 1) := by
    rintro (⟨before, -, part, -⟩ | before)
    · cases front.symm.trans before
      cases part.symm.trans noPart
    · cases front.symm.trans before
      exact absurd quote (by decide)
  have noBehind : ¬ GoesOn source (sign.length + 1 + u.length) := by
    rintro (⟨-, here, -, goes⟩ | here | ⟨-, -, colon⟩)
    · cases next.symm.trans here
      cases goes.symm.trans noPart
    · cases next.symm.trans here
      exact absurd quote (by decide)
    · exact noKey (later.symm.trans colon)
  have noBracket : ¬ BehindBracket source (sign.length + 1) := by
    have other : q ≠ '>' := ne_of_class quote (by decide)
    rw [BehindBracket, shape, ← length, List.take_left, List.reverse_concat,
      List.dropWhile_cons_of_neg (by simp [noBlank])]
    simpa using other
  have noClosing : ¬ BeforeClosing source (sign.length + 1 + u.length) := by
    have other : q ≠ '<' := ne_of_class quote (by decide)
    rw [BeforeClosing, behind, stripStart, List.dropWhile_cons_of_neg (by simp [noBlank])]
    simp [startsWith, other.symm]
  simp only [noFront, noBehind, noBracket, noClosing, not_false_eq_true, true_and]
  exact and_iff_right ⟨q, quote, front, next⟩

end

/-- **The value of an attribute that holds prose is a string.** -/
theorem contextOf?_proseAttribute {before name u after : Text} {c q : Char}
    (prose : String.ofList name ∈ proseAttributes) (blank : isBlank c = true) (quote : isQuote q = true)
    (noKey : after.head? ≠ some ':') :
    let sign := before ++ c :: (name ++ ['='])
    contextOf? (sign ++ q :: (u ++ q :: after)) (sign.length + 1) (sign.length + 1 + u.length) = some .string := by
  intro sign
  obtain ⟨filled, short, named⟩ := proseAttributes_named _ prose
  rw [String.toList_ofList] at filled short named
  have head : sign.drop (sign.length + 1 - attributeReach) =
      before.drop (sign.length + 1 - attributeReach) ++ c :: (name ++ ['=']) := by
    refine List.drop_append_of_le_length ?_
    simp only [sign, attributeReach, List.length_append, List.length_cons, List.length_nil]
    omega
  refine (contextOf?_quoted_iff quote noKey).mpr ⟨?_, ?_⟩
  · rintro ⟨name', found, code, -⟩
    rw [headOf_append, head, attributeBefore?_eq blank filled named] at found
    cases found
    exact code prose
  · rw [head, ← List.cons_append, ← List.append_assoc]
    exact beforeModuleName_sign _

/-! ### Brackets that end no tag -/

section Brackets

open Retouch.Locate

/-- The bracket at offset `k` ends a tag. -/
inductive EndsTag (source : Text) (k : Nat) : Prop
  /-- An opening tag. -/
  | opening {tag} (read : IsRead source tag) (close : tag.close = k)
  /-- A closing tag: blanks may stand around its name, and there is none in that of a fragment. -/
  | closing {i inner} (stands : '<' :: '/' :: (inner ++ ['>']) <+: source.drop i)
    (named : ∀ c ∈ strip inner, isNameChar c = true) (close : k = i + inner.length + 2)
  /-- The opening bracket of a fragment. -/
  | fragment {i} (stands : ['<', '>'] <+: source.drop i) (close : k = i + 1)

variable {source : Text} {k : Nat}

/-- A tag starts with a bracket. -/
theorem EndsTag.mem (ends : EndsTag source k) : '<' ∈ source := by
  cases ends with
  | opening read => exact List.mem_of_getElem? (getElem?_of_readTag? read)
  | closing stands => exact List.mem_of_mem_drop (stands.subset (List.mem_cons_self ..))
  | fragment stands => exact List.mem_of_mem_drop (stands.subset (List.mem_cons_self ..))

/-- What stands behind a bracket, up to the blanks at the end, is taken for prose. -/
theorem exists_markup (bracket : source[k]? = some '>') (filled : isBlankText (source.drop (k + 1)) = false) :
    ∃ old span, words old ≠ [] ∧ IsOccurrence source old span ∧ IsBehind source k span.1 ∧
      contextOf? source span.1 span.2 = some .markup := by
  obtain ⟨before, behind, shape, front, back⟩ := exists_strip (source.drop (k + 1))
  have some : strip (source.drop (k + 1)) ≠ [] := by
    intro empty
    rw [empty, List.nil_append] at shape
    rw [shape, isBlankText, List.all_append, List.all_eq_true.mpr front, List.all_eq_true.mpr back] at filled
    cases filled
  have rest : source.drop (k + 1 + before.length) = strip (source.drop (k + 1)) ++ behind := by
    rw [← List.drop_drop, shape, List.drop_left, ← shape]
  have isBehind : IsBehind source k (k + 1 + before.length) := by
    refine ⟨bracket, by omega, ?_⟩
    rwa [slice, List.drop_take, shape, Nat.add_sub_cancel_left, List.take_left]
  refine ⟨source.drop (k + 1), (k + 1 + before.length, k + 1 + before.length + (strip (source.drop (k + 1))).length),
    words_ne_nil some, isOccurrence_iff.mpr ⟨_, spells_of_filled some, ⟨behind, rest.symm⟩, rfl⟩, isBehind, ?_⟩
  refine (contextOf?_behind_iff isBehind).mpr (not_goesOn fun c next => .inl (back c ?_))
  dsimp only at next
  rw [← List.getElem?_drop, rest, List.getElem?_append_right (Nat.le_refl _)] at next
  exact List.mem_of_getElem? next

/-- **When prose behind a bracket is prose behind a tag**: in a source where every bracket that something other than
blanks follows ends a tag, and in no other. What follows a bracket is taken for prose whatever the bracket is, but
not where it goes on as code. -/
theorem markup_endsTag_iff (source : Text) :
    ((∀ old span k, IsOccurrence source old span → contextOf? source span.1 span.2 = some .markup →
        IsBehind source k span.1 → EndsTag source k) ↔
      ∀ k, source[k]? = some '>' → isBlankText (source.drop (k + 1)) = false → EndsTag source k) ∧
    ((∀ old new anchor? html patch k, replaceText source old new anchor? html = .ok patch →
        patch.context = .markup → IsBehind source k patch.start → EndsTag source k) ↔
      ∀ k, source[k]? = some '>' → isBlankText (source.drop (k + 1)) = false → EndsTag source k) ∧
    ∀ start stop k, IsBehind source k start →
      (contextOf? source start stop = some .markup ↔ ¬ GoesOn source stop) := by
  have followed : ∀ old span k, IsOccurrence source old span → IsBehind source k span.1 →
      isBlankText (source.drop (k + 1)) = false := by
    intro old span k occurs behind
    obtain ⟨c, first, filled⟩ := occurs.first
    have before := behind.before
    have char : (source.drop (k + 1))[span.1 - (k + 1)]? = some c := by
      rw [List.getElem?_drop, ← first]
      congr 1
      omega
    exact List.all_eq_false.mpr ⟨c, List.mem_of_getElem? char, by simp [filled]⟩
  refine ⟨⟨fun safe k bracket filled => ?_, fun ends old span k occurs _ behind => ?_⟩,
    ⟨fun safe k bracket filled => ?_, fun ends old new anchor? html patch k replaced _ behind => ?_⟩,
    fun start stop k behind => contextOf?_behind_iff behind⟩
  · obtain ⟨old, span, -, occurs, behind, accepted⟩ := exists_markup bracket filled
    exact safe old span k occurs accepted behind
  · exact ends k behind.bracket (followed old span k occurs behind)
  · obtain ⟨old, span, worded, occurs, behind, accepted⟩ := exists_markup bracket filled
    obtain ⟨patch, replaced, context, start⟩ := replaceText_of_occurs worded occurs accepted [] false
    exact safe old [] _ false patch k replaced context (start ▸ behind)
  · obtain ⟨span, chosen, replaces⟩ :=
      (replaceText_eq_ok_iff (words_ne_nil_of_replaceText replaced)).mp replaced
    rw [replaces.start] at behind
    exact ends k behind.bracket (followed old span k chosen.occurs behind)

/-- A function of a script. -/
def arrow : Text := "const f = () => completed;".toList

/-- What its arrow leads to is replaced as prose, though no tag ends there. -/
theorem arrow_replaced :
    replaceText arrow "completed".toList "done".toList none false =
        .ok ⟨"const f = () => done;".toList, 16, 20, .markup⟩ ∧
      contextOf? arrow 16 25 = some .markup ∧ IsBehind arrow 14 16 ∧ ¬ EndsTag arrow 14 := by
  refine ⟨by decide +kernel, by decide +kernel, ⟨by decide, by decide, by decide⟩, fun ends => ?_⟩
  exact absurd ends.mem (by decide)

end Brackets

end Retouch.Patch
