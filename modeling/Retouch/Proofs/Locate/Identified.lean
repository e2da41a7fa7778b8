import Retouch.Proofs.Locate.Found
import Retouch.Proofs.Markup.Written
import Retouch.Proofs.Text

/-!
# Tags found by an id

The search for an id goes over the characters of the source: it knows no strings and no blocks. What it
finds stands in the text of the tag that it gives (`exists_place`), but it may stand within the value of
another attribute, and the quotes around the id need not belong together. The tag carries the id just if
one of the places is where a literal attribute of it starts whose value is as long as the id, or if it
gives the id without quotes (`byId_carriesId_iff`). In one direction, every attribute in quotes that gives
the id is a place: no attribute starts within a word (`attributes_breaks`).
-/

namespace Retouch

open Retouch.Text Retouch.Markup

/-! ### Words and attributes -/

namespace Locate

/-- A word character or a hyphen may stand in a name. -/
theorem isNameChar_of_isWordOrHyphen {c : Char} (word : isWordOrHyphen c = true) :
    isNameChar c = true := by
  unfold isWordOrHyphen at word
  unfold isNameChar
  obtain word | hyphen := Bool.or_eq_true_iff.mp word
  · simp [word]
  · simp [hyphen]

/-- A word character or a hyphen may stand in the name of an attribute. -/
theorem isAttributeChar_of_isWordOrHyphen {c : Char} (word : isWordOrHyphen c = true) :
    isAttributeChar c = true := by
  have noBlank : isBlank c = false := Bool.eq_false_iff.mpr fun blank => by
    cases (isNameChar_of_isWordOrHyphen word).symm.trans (isNameChar_of_isBlank blank)
  have other : ∀ d ∈ ['=', '/', '>', '{', '}', '"', '\'', backQuote], c ≠ d := by
    have no : ∀ d ∈ ['=', '/', '>', '{', '}', '"', '\'', backQuote], isWordOrHyphen d = false := by
      decide
    exact fun d mem => ne_of_class word (no d mem)
  simp only [List.forall_mem_cons] at other
  simp [isAttributeChar, isQuote, noBlank, other]

/-- What does not stand in the name of an attribute is neither a word character nor a hyphen. -/
theorem isWordOrHyphen_of_isAttributeChar {c : Char} (other : isAttributeChar c = false) :
    isWordOrHyphen c = false :=
  Bool.eq_false_iff.mpr fun word => by cases other.symm.trans (isAttributeChar_of_isWordOrHyphen word)

/-- No word goes on at an offset: there are not word characters or hyphens on both sides of it. -/
def Breaks (source : Text) (i : Nat) : Prop :=
  ∀ b c, charBefore? source i = some b → source[i]? = some c →
    isWordOrHyphen b = true → isWordOrHyphen c = false

theorem Breaks.of_before {source : Text} {i : Nat}
    (before : ∀ b, charBefore? source i = some b → isWordOrHyphen b = false) : Breaks source i := by
  intro b c front _ word
  cases word.symm.trans (before b front)

theorem Breaks.of_here {source : Text} {i : Nat}
    (here : ∀ c, source[i]? = some c → isWordOrHyphen c = false) : Breaks source i :=
  fun _ c _ stands _ => here c stands

end Locate

/-! ### How attributes are read -/

namespace Markup

/-- A string or a block at the start of a value that is read closes. -/
theorem closes_of_readValue? {k : Nat} {t : Text} {r : AttributeForm × Nat × Nat × Nat}
    (read : readValue? k t = some r) (c : Char) (rest : Text) (shape : t = c :: rest)
    (opens : isOpener c = true) : ∃ n, closeFrom [opensAs c] rest = some n := by
  subst shape
  unfold readValue? at read
  dsimp only at read
  by_cases quote : isQuote c = true
  · rw [if_pos quote] at read
    obtain ⟨n, closed, -⟩ := Option.map_eq_some_iff.mp read
    rw [opensAs_quote quote]
    exact ⟨n, closed⟩
  · obtain rfl : c = '{' := by simpa [isOpener, quote] using opens
    rw [if_neg quote, if_pos (beq_self_eq_true _)] at read
    obtain ⟨_, braced, -⟩ := Option.map_eq_some_iff.mp read
    unfold readBraced? at braced
    rw [Option.bind_eq_bind] at braced
    obtain ⟨n, closed, -⟩ := Option.bind_eq_some_iff.mp braced
    exact ⟨n, closed⟩

/-- An attribute is read as a piece is written. -/
theorem exists_attribute {j : Nat} {t : Text} {a : Attribute} (read : readAttribute? j t = some a)
    (named : ∃ c, t.head? = some c ∧ isAttributeChar c = true) :
    ∃ p after, t = Piece.text p ++ after ∧ p.Reads after ∧ p.attribute? j = some a := by
  obtain ⟨name, t, rfl, run, nameStops⟩ := exists_run isAttributeChar t
  have nonempty : name ≠ [] := by
    rintro rfl
    obtain ⟨c, head, attr⟩ := named
    cases attr.symm.trans (nameStops c head)
  obtain ⟨gap, t, rfl, gaps, gapStops⟩ := exists_run isBlank t
  by_cases sign : t.head? = some '='
  · obtain ⟨t, rfl⟩ := List.head?_eq_some_iff.mp sign
    obtain ⟨lead, t, rfl, leads, leadStops⟩ := exists_run isBlank t
    obtain ⟨r, value⟩ : ∃ r, readValue? (j + name.length + gap.length + 1 + lead.length) t = some r := by
      unfold readAttribute? at read
      dsimp only at read
      rw [takeWhile_run run nameStops, List.drop_left, takeWhile_run gaps gapStops, List.drop_left]
        at read
      split at read
      · rename_i sign
        cases sign
        rw [takeWhile_run leads leadStops, List.drop_left] at read
        obtain ⟨r, value, -⟩ := Option.map_eq_some_iff.mp read
        exact ⟨r, value⟩
      · rename_i noSign
        exact absurd rfl (noSign _)
    obtain ⟨v, after, rfl, reads⟩ := exists_valueText leadStops (closes_of_readValue? value)
    have shape : name ++ (gap ++ '=' :: (lead ++ (v.text ++ after))) =
        Piece.assignment name gap lead ++ v.text ++ after := by
      simp [Piece.assignment]
    have whole : (Piece.valued name gap lead v).Reads after := ⟨nonempty, run, gaps, leads, reads⟩
    rw [shape, Piece.readAttribute?_valued whole] at read
    exact ⟨.valued name gap lead v, after, shape, whole, read⟩
  · have reads : (Piece.bare name).Reads (gap ++ t) :=
      ⟨nonempty, run, nameStops, by rwa [dropWhile_run gaps gapStops]⟩
    rw [Piece.readAttribute?_bare reads] at read
    exact ⟨.bare name, gap ++ t, rfl, reads, read⟩

/-- Where an attribute is read, its name starts, and it is read from there. -/
theorem attributesFrom_read {source t : Text} {limit skip j : Nat} {a : Attribute}
    (here : source.drop j = t) (mem : a ∈ attributesFrom limit skip j t) :
    readAttribute? a.start (source.drop a.start) = some a ∧
      ∃ c, (source.drop a.start).head? = some c ∧ isAttributeChar c = true := by
  fun_induction attributesFrom limit skip j t
  case case1 | case3 | case6 | case8 => cases mem
  case case2 ih | case4 ih | case5 ih | case9 ih => exact ih (drop_behind here) mem
  case case7 c rest _ _ _ named b read ih =>
    obtain rfl | later := List.mem_cons.mp mem
    · obtain ⟨p, after, -, -, is⟩ := exists_attribute read ⟨c, rfl, named⟩
      rw [(Piece.attribute?_span is).1, here]
      exact ⟨read, c, rfl, named⟩
    · exact ih (drop_behind here) later

end Markup

namespace Locate

variable {source : Text}

/-- No word goes on behind a text that ends with no word. -/
theorem Breaks.behind {u after : Text} {j : Nat} (here : source.drop j = u ++ after)
    (last : ∃ c, u.getLast? = some c ∧ isWordOrHyphen c = false) : Breaks source (j + u.length) := by
  obtain ⟨c, last, other⟩ := last
  refine Breaks.of_before fun b before => ?_
  obtain ⟨front, rfl⟩ := List.getLast?_eq_some_iff.mp last
  have stands : source[j + front.length]? = some c := by
    rw [← List.getElem?_drop, here]
    simp
  unfold charBefore? at before
  rw [List.length_append, List.length_singleton, if_neg (by simp), ← Nat.add_assoc, Nat.add_sub_cancel,
    stands] at before
  cases before
  exact other

/-- No word goes on in front of a text that starts with no word. -/
theorem Breaks.ahead {u after : Text} {j : Nat} (here : source.drop j = u ++ after)
    (next : ∀ c, after.head? = some c → isWordOrHyphen c = false) : Breaks source (j + u.length) := by
  refine Breaks.of_here fun c stands => next c ?_
  rw [← List.getElem?_drop, here, List.getElem?_append_right (Nat.le_refl _), Nat.sub_self] at stands
  rwa [List.head?_eq_getElem?]

/-- No word goes on behind an attribute: there stands what ends its name or its value. -/
theorem Breaks.attribute {p : Piece} {after : Text} {j : Nat} {a : Attribute}
    (here : source.drop j = p.text ++ after) (reads : p.Reads after) (is : p.attribute? j = some a) :
    Breaks source (j + p.text.length) := by
  cases p with
  | mark | spread => cases is
  | bare name => exact .ahead here fun c next => isWordOrHyphen_of_isAttributeChar (reads.2.2.1 c next)
  | valued name gap lead v =>
    obtain ⟨-, -, -, -, value⟩ := reads
    have quoted : ∀ {q}, isQuote q = true → isWordOrHyphen q = false := fun quote =>
      isWordOrHyphen_of_isAttributeChar (by simp [isAttributeChar, quote])
    have brace : isWordOrHyphen '}' = false := by decide
    cases v with
    | unquoted t =>
      refine .ahead here fun c next => isWordOrHyphen_of_isAttributeChar ?_
      have stops := value.2.2.2 c next
      grind [ValueText.isUnquotedChar, isAttributeChar]
    | quoted q inside =>
      exact .behind here ⟨q, by simp [Piece.text, ValueText.text, ValueText.ending], quoted value.1⟩
    | braced lead q inside trail =>
      refine .behind here ⟨'}', ?_, brace⟩
      simp only [Piece.text, ValueText.text, ValueText.ending, ← List.append_assoc, List.getLast?_concat]
    | expression inside =>
      exact .behind here ⟨'}', by simp [Piece.text, ValueText.text, ValueText.ending], brace⟩

/-- Attributes that are read from where no word goes on start where no word goes on. -/
theorem attributesFrom_breaks {t : Text} {limit skip j : Nat} {a : Attribute}
    (here : source.drop j = t) (breaks : Breaks source (j + skip))
    (mem : a ∈ attributesFrom limit skip j t) : Breaks source a.start := by
  have passed : ∀ {c : Char} {rest : Text} {j : Nat}, source.drop j = c :: rest →
      isAttributeChar c = false → Breaks source (j + 1 + 0) := fun here other =>
    .behind (u := [_]) here ⟨_, rfl, isWordOrHyphen_of_isAttributeChar other⟩
  fun_induction attributesFrom limit skip j t
  case case1 | case3 | case6 | case8 => cases mem
  case case2 skip _ _ rest ih =>
    exact ih (drop_behind here) (by rwa [Nat.add_assoc, Nat.add_comm 1]) mem
  case case4 separates ih =>
    exact ih (drop_behind here) (passed here (by grind [isAttributeChar])) mem
  case case5 j c rest _ _ brace n closed ih =>
    obtain ⟨u, after, rfl, rfl, -⟩ := exists_inside proper_block closed
    have whole : source.drop j = (c :: (u ++ ['}'])) ++ after := by simp [here, Opened.closer]
    have block := Breaks.behind whole
      ⟨'}', by rw [← List.cons_append, List.getLast?_concat], by decide⟩
    refine ih (drop_behind here) ?_ mem
    rwa [List.length_cons, List.length_append, List.length_singleton, Nat.add_comm _ 1, ← Nat.add_assoc]
      at block
  case case7 j c rest _ _ _ named b read ih =>
    obtain ⟨p, after, shape, reads, is⟩ := exists_attribute read ⟨c, rfl, named⟩
    obtain ⟨start, stop⟩ := Piece.attribute?_span is
    have pos := Piece.text_pos reads
    obtain rfl | later := List.mem_cons.mp mem
    · rwa [start]
    · refine ih (drop_behind here) ?_ later
      rw [stop, show j + 1 + (j + p.text.length - j - 1) = j + p.text.length by omega]
      exact .attribute (here.trans shape) reads is
  case case9 other ih =>
    exact ih (drop_behind here) (passed here (by simpa using other)) mem

/-- **No attribute starts within a word.** -/
theorem attributes_breaks {tag : Tag} {a : Attribute} (read : IsRead source tag)
    (mem : a ∈ attributes source tag) : Breaks source a.start := by
  refine attributesFrom_breaks rfl (.of_here fun c stands => ?_) mem
  obtain ⟨first, name, t, n, here, -, -, -, stops, -, eq⟩ := readTag?_iff.mp read
  have behind : source.drop tag.nameStop = t := by
    rw [eq]
    exact drop_nameStop here
  have next : t.head? = some c := by
    rw [← behind, List.head?_drop]
    exact stands
  exact Bool.eq_false_iff.mpr fun word => by
    cases (isNameChar_of_isWordOrHyphen word).symm.trans (stops c next)

/-! ### The places of an id -/

/-- The places at which no word goes on and what follows is as looked for. -/
theorem mem_wordStarts {p : Text → Bool} {i j : Nat} {before : Option Char} {t : Text}
    (here : source.drop j = t) (front : before = charBefore? source j) :
    i ∈ wordStarts p before j t ↔
      j ≤ i ∧ i < source.length ∧ (charBefore? source i).any isWordOrHyphen = false ∧
        p (source.drop i) = true := by
  induction t generalizing j before with
  | nil =>
    have past : source.length ≤ j := List.drop_eq_nil_iff.mp here
    simp only [wordStarts, List.not_mem_nil, false_iff]
    omega
  | cons c rest ih =>
    have within : j < source.length := by
      refine Nat.lt_of_not_le fun past => ?_
      rw [List.drop_eq_nil_of_le past] at here
      cases here
    have later := @ih (j + 1) (some c) (drop_behind here) (by
      rw [charBefore?, if_neg (by simp), Nat.add_sub_cancel, ← Nat.add_zero j, ← List.getElem?_drop, here]
      rfl)
    -- a place is this one or one behind it
    have split : j ≤ i ↔ i = j ∨ j + 1 ≤ i := by omega
    rw [wordStarts, front, split, ← here]
    by_cases starts : (!(charBefore? source j).any isWordOrHyphen && p (source.drop j)) = true
    · rw [if_pos starts, List.mem_cons, later]
      grind
    · rw [if_neg starts, later]
      grind

theorem mem_idAttributes {id : Text} {i : Nat} :
    i ∈ idAttributes source id ↔
      i < source.length ∧ (charBefore? source i).any isWordOrHyphen = false ∧
        isIdAttribute id (source.drop i) = true := by
  have places := mem_wordStarts (p := isIdAttribute id) (i := i) (List.drop_zero (l := source)) rfl
  exact places.trans ⟨fun h => h.2, fun h => ⟨Nat.zero_le i, h⟩⟩

/-- The text behind a name, an equals sign and the blanks around it. -/
theorem afterName?_assignment {name gap lead body : Text} (gaps : ∀ c ∈ gap, isBlank c = true)
    (leads : ∀ c ∈ lead, isBlank c = true) (starts : ∀ c, body.head? = some c → isBlank c = false) :
    afterName? name (Piece.assignment name gap lead ++ body) = some body := by
  have signStops : ∀ c, ('=' :: (lead ++ body)).head? = some c → isBlank c = false := by
    rintro c ⟨⟩
    decide
  have shape : Piece.assignment name gap lead ++ body = name ++ (gap ++ '=' :: (lead ++ body)) := by
    simp [Piece.assignment]
  unfold afterName?
  rw [shape, dropHead?_append, Option.bind_some, stripStart, dropWhile_run gaps signStops]
  show some (stripStart (lead ++ body)) = _
  rw [stripStart, dropWhile_run leads starts]

/-- A name with an equals sign behind it is the longest one that starts there. -/
theorem takeWhile_of_afterName? {name t body : Text} (found : afterName? name t = some body)
    (named : ∀ c ∈ name, isAttributeChar c = true) : t.takeWhile isAttributeChar = name := by
  unfold afterName? at found
  obtain ⟨rest, dropped, sign⟩ := Option.bind_eq_some_iff.mp found
  rw [dropHead?_eq_some dropped]
  refine takeWhile_run named fun c head => ?_
  by_cases blank : isBlank c = true
  · exact isAttributeChar_of_isBlank blank
  · obtain ⟨rest, rfl⟩ := List.head?_eq_some_iff.mp head
    rw [stripStart, List.dropWhile_cons_of_neg blank] at sign
    split at sign
    · rename_i same
      cases same
      decide
    · cases sign

/-- A quote, the id and a quote start the text, whichever quotes they are. -/
def opensString (id : Text) : Text → Bool
  | q :: rest => isQuote q && (dropHead? id rest).any fun after => after.head?.any isQuote
  | [] => false

/-- So they do, perhaps behind a brace and blanks. -/
def identifies (id body : Text) : Bool :=
  opensString id (match body with
    | '{' :: inside => stripStart inside
    | _ => body)

theorem isIdAttribute_eq (id t : Text) :
    isIdAttribute id t = (afterName? "id".toList t).any (identifies id) := by
  unfold isIdAttribute
  split
  · rename_i none
    rw [none]
    rfl
  · rename_i some
    rw [some]
    rfl

/-- Behind the quote stand the id and another quote. -/
theorem opensString_quote {id rest : Text} {q : Char} (quote : isQuote q = true) :
    opensString id (q :: rest) = true ↔ ∃ q' after, isQuote q' = true ∧ rest = id ++ q' :: after := by
  rw [opensString, quote, Bool.true_and, Option.any_eq_true]
  constructor
  · rintro ⟨after, dropped, closes⟩
    obtain ⟨q', head, quote'⟩ := (Option.any_eq_true _ _).mp closes
    obtain ⟨after, rfl⟩ := List.head?_eq_some_iff.mp head
    exact ⟨q', after, quote', dropHead?_eq_some dropped⟩
  · rintro ⟨q', after, quote', rfl⟩
    exact ⟨q' :: after, dropHead?_append .., (Option.any_eq_true _ _).mpr ⟨q', rfl, quote'⟩⟩

/-- A brace and blanks may stand in front of the string. -/
theorem identifies_brace {id lead rest : Text} {q : Char} (quote : isQuote q = true)
    (leads : ∀ c ∈ lead, isBlank c = true) :
    identifies id ('{' :: (lead ++ q :: rest)) = opensString id (q :: rest) := by
  have starts : ∀ c, (q :: rest).head? = some c → isBlank c = false := by
    rintro c ⟨⟩
    exact isBlank_of_isOpener (isOpener_of_isQuote quote)
  show opensString id (stripStart (lead ++ q :: rest)) = _
  rw [stripStart, dropWhile_run leads starts]

/-- Nothing else may. -/
theorem identifies_eq {id body : Text} (plain : body.head? ≠ some '{') :
    identifies id body = opensString id body := by
  unfold identifies
  split
  · exact absurd rfl plain
  · rfl

/-- **When the place of an attribute is one of an id**: the attribute is named so, and if its value is
literal, it stands in quotes and starts with the id and a quote. -/
theorem isIdAttribute_valued {id name gap lead after : Text} {v : ValueText}
    (reads : (Piece.valued name gap lead v).Reads after) :
    isIdAttribute id ((Piece.valued name gap lead v).text ++ after) = true ↔
      name = "id".toList ∧ identifies id (v.text ++ after) = true := by
  obtain ⟨-, named, gaps, leads, value⟩ := reads
  have found : afterName? name ((Piece.valued name gap lead v).text ++ after) = some (v.text ++ after) := by
    rw [Piece.text, List.append_assoc]
    exact afterName?_assignment gaps leads fun c head => ValueText.head_text value head
  rw [isIdAttribute_eq, Option.any_eq_true]
  constructor
  · rintro ⟨body, other, identified⟩
    have same : name = "id".toList :=
      (takeWhile_of_afterName? found named).symm.trans (takeWhile_of_afterName? other (by decide))
    subst same
    rw [other] at found
    exact ⟨rfl, Option.some.inj found ▸ identified⟩
  · rintro ⟨rfl, identified⟩
    exact ⟨_, found, identified⟩

/-- A literal value in quotes is identified if it starts with the id and a quote. -/
theorem identifies_literal {id after : Text} {v : ValueText} {q : Char} {braced : Bool}
    (reads : v.Reads after) (literal : v.form = .literal q braced) :
    identifies id (v.text ++ after) = true ↔
      ∃ q' rest, isQuote q' = true ∧ v.inner ++ (v.ending ++ after) = id ++ q' :: rest := by
  cases v with
  | unquoted | expression => cases literal
  | quoted q inside =>
    have plain : (q :: (inside ++ (q :: after))).head? ≠ some '{' := fun brace =>
      ne_of_class reads.1 (by decide) (Option.some.inj brace)
    have shape : (ValueText.quoted q inside).text ++ after = q :: (inside ++ (q :: after)) := by
      simp [ValueText.text, ValueText.opening, ValueText.inner, ValueText.ending]
    rw [shape, identifies_eq plain]
    exact opensString_quote reads.1
  | braced lead q inside trail =>
    obtain ⟨leads, quote, -, -⟩ := reads
    have shape : (ValueText.braced lead q inside trail).text ++ after =
        '{' :: (lead ++ q :: (inside ++ ((ValueText.braced lead q inside trail).ending ++ after))) := by
      simp [ValueText.text, ValueText.opening, ValueText.inner, ValueText.ending]
    rw [shape, identifies_brace quote leads]
    exact opensString_quote quote

/-- A value without delimiters is not identified. -/
theorem identifies_unquoted {id t after : Text} (reads : (ValueText.unquoted t).Reads after) :
    identifies id ((ValueText.unquoted t).text ++ after) = false := by
  obtain ⟨-, plain, -⟩ := reads
  rw [show (ValueText.unquoted t).text = t from List.append_nil t]
  rw [identifies_eq fun brace => by cases plain '{' brace]
  cases whole : t ++ after with
  | nil => rfl
  | cons c rest =>
    have noQuote : isQuote c = false := Bool.eq_false_iff.mpr fun quote => by
      cases (plain c (by rw [whole]; rfl)).symm.trans (isOpener_of_isQuote quote)
    rw [opensString, noQuote, Bool.false_and]

/-! ### Tags and places -/

/-- A tag carries an id: one of its attributes is named so and gives it literally. -/
def CarriesId (tag : Tag) (source id : Text) : Prop :=
  ∃ a ∈ attributes source tag, a.name = "id".toList ∧ a.isLiteral = true ∧ a.value source = id

variable {tag : Tag} {a : Attribute} {id : Text}

/-- An attribute with a literal value, as it is written. -/
theorem exists_literal (mem : a ∈ attributes source tag) (literal : a.isLiteral = true) :
    ∃ gap lead v after, source.drop a.start = (Piece.valued a.name gap lead v).text ++ after ∧
      (Piece.valued a.name gap lead v).Reads after ∧ v.form = a.form ∧ v.inner = a.value source ∧
      source.drop a.valueStart = v.inner ++ (v.ending ++ after) := by
  obtain ⟨read, named⟩ := attributesFrom_read rfl mem
  obtain ⟨p, after, here, reads, is⟩ := exists_attribute read named
  have view := Piece.map_view_attribute? here
  rw [is] at view
  cases p with
  | mark | spread => cases is
  | bare name =>
    have form : a.form = .bare := (congrArg Attribute.form (Option.some.inj is)).symm
    unfold Attribute.isLiteral at literal
    rw [form] at literal
    cases literal
  | valued name gap lead v =>
    simp only [Option.map_some, Attribute.view, Piece.view?, Option.some.injEq, Prod.mk.injEq] at view
    obtain ⟨rfl, form, value⟩ := view
    refine ⟨gap, lead, v, after, here, reads, form.symm, value.symm, ?_⟩
    have start : a.valueStart = a.start + (Piece.assignment a.name gap lead ++ v.opening).length := by
      have := congrArg Attribute.valueStart (Option.some.inj is)
      rw [List.length_append, ← Nat.add_assoc]
      exact this.symm
    have shape : (Piece.valued a.name gap lead v).text ++ after =
        (Piece.assignment a.name gap lead ++ v.opening) ++ (v.inner ++ (v.ending ++ after)) := by
      simp [Piece.text, ValueText.text]
    rw [start, ← List.drop_drop, here, shape, List.drop_left]

/-- **When a literal attribute starts at a place of an id**: it is named so, its value is in quotes, and
the value starts with the id and a quote. -/
theorem start_mem_idAttributes (read : IsRead source tag) (mem : a ∈ attributes source tag)
    (literal : a.isLiteral = true) :
    a.start ∈ idAttributes source id ↔
      a.name = "id".toList ∧ (∃ q braced, a.form = .literal q braced) ∧
        ∃ q rest, isQuote q = true ∧ source.drop a.valueStart = id ++ q :: rest := by
  obtain ⟨gap, lead, v, after, here, reads, form, -, behind⟩ := exists_literal mem literal
  have value := reads.2.2.2.2
  rw [mem_idAttributes, here, isIdAttribute_valued reads, behind]
  constructor
  · rintro ⟨-, -, named, identified⟩
    cases shape : a.form with
    | bare | expression =>
      unfold Attribute.isLiteral at literal
      rw [shape] at literal
      cases literal
    | unquoted =>
      rw [shape] at form
      cases v with
      | unquoted t => cases identified.symm.trans (identifies_unquoted value)
      | quoted | braced | expression => cases form
    | literal q braced =>
      exact ⟨named, ⟨q, braced, rfl⟩, (identifies_literal value (form.trans shape)).mp identified⟩
  · rintro ⟨named, ⟨q, braced, shape⟩, starts⟩
    refine ⟨?_, ?_, named, (identifies_literal value (form.trans shape)).mpr starts⟩
    · refine Nat.lt_of_not_le fun past => ?_
      have pos := Piece.text_pos reads
      rw [List.drop_eq_nil_of_le past] at here
      have := congrArg List.length here
      rw [List.length_append, List.length_nil] at this
      omega
    · -- the name goes on with no word, and it starts with a letter
      have first : source[a.start]? = some 'i' := by
        rw [← Nat.add_zero a.start, ← List.getElem?_drop, here, named]
        rfl
      cases before : charBefore? source a.start with
      | none => rfl
      | some b =>
        refine Bool.eq_false_iff.mpr fun word => ?_
        have := attributes_breaks read mem b 'i' before first word
        exact absurd this (by decide)

/-- Behind the value of an attribute in quotes stands a quote. -/
theorem exists_quote (mem : a ∈ attributes source tag) {q : Char} {braced : Bool}
    (form : a.form = .literal q braced) :
    ∃ rest, isQuote q = true ∧ source.drop a.valueStart = a.value source ++ q :: rest := by
  have literal : a.isLiteral = true := by
    unfold Attribute.isLiteral
    rw [form]
  obtain ⟨gap, lead, v, after, -, reads, same, value, behind⟩ := exists_literal mem literal
  have reads := reads.2.2.2.2
  rw [behind, value]
  rw [form] at same
  cases v with
  | unquoted | expression => cases same
  | quoted q inside =>
    cases same
    exact ⟨_, reads.1, rfl⟩
  | braced lead q inside trail =>
    cases same
    exact ⟨_, reads.2.1, rfl⟩

/-- Offsets that are listed lie in the text. -/
theorem mem_offsetsFrom {p : Char → Bool} {i k : Nat} {t : Text} (mem : k ∈ offsetsFrom p i t) :
    k < i + t.length := by
  induction t generalizing i with
  | nil => cases mem
  | cons c t ih =>
    rw [List.length_cons]
    have later : k ∈ offsetsFrom p (i + 1) t → k < i + (t.length + 1) := fun mem => by
      have := ih mem
      omega
    unfold offsetsFrom at mem
    split at mem
    · obtain rfl | mem := List.mem_cons.mp mem
      · omega
      · exact later mem
    · exact later mem

/-- A tag whose text covers an offset starts there or before it. -/
theorem start_le_of_tagContaining? {i : Nat} {lookback : Int}
    (found : tagContaining? source i lookback = some tag) : tag.start ≤ i ∧ i ≤ tag.close := by
  unfold tagContaining? bracketsBefore at found
  obtain ⟨k, listed, read⟩ := List.exists_of_findSome?_eq_some found
  obtain ⟨read, covers⟩ := Option.filter_eq_some_iff.mp read
  have within := mem_offsetsFrom (List.mem_reverse.mp listed)
  have length : (slice source (reachFrom i lookback) (i + 1)).length ≤ i + 1 - reachFrom i lookback := by
    unfold slice
    rw [List.length_drop, List.length_take]
    omega
  rw [start_of_readTag? read]
  have some : k ∉ offsetsFrom (· == '<') (reachFrom i lookback) [] := nofun
  refine ⟨?_, by simpa using covers⟩
  by_cases before : reachFrom i lookback ≤ i + 1
  · omega
  · rw [List.eq_nil_of_length_eq_zero (by omega : (slice source (reachFrom i lookback) (i + 1)).length = 0)]
      at listed
    exact absurd (List.mem_reverse.mp listed) some

/-- A place of an id is where its name starts. -/
theorem getElem?_of_mem_idAttributes {i : Nat} (place : i ∈ idAttributes source id) :
    source[i]? = some 'i' := by
  obtain ⟨-, -, is⟩ := mem_idAttributes.mp place
  rw [isIdAttribute_eq, Option.any_eq_true] at is
  obtain ⟨body, found, -⟩ := is
  unfold afterName? at found
  obtain ⟨rest, dropped, -⟩ := Option.bind_eq_some_iff.mp found
  rw [← Nat.add_zero i, ← List.getElem?_drop, dropHead?_eq_some dropped]
  rfl

variable {hints : Hints} {limits : SearchLimits}

/-- The tag that is found by an id has a place of the id in its text. -/
theorem exists_place (named : selectorId? hints.selector.toList = some id)
    (found : byId source hints limits = some tag) :
    ∃ i ∈ idAttributes source id, tag.start < i ∧ i ≤ tag.close := by
  unfold byId at found
  rw [named] at found
  obtain ⟨i, place, contains⟩ := List.exists_of_findSome?_eq_some found
  obtain ⟨le, within⟩ := start_le_of_tagContaining? contains
  refine ⟨i, place, Nat.lt_of_le_of_ne le fun same => ?_, within⟩
  have bracket := getElem?_of_readTag? (tagContaining?_read contains)
  rw [same, getElem?_of_mem_idAttributes place] at bracket
  exact absurd (Option.some.inj bracket) (by decide)

/-- **When the tag that is found by an id carries it.** The tag that the search for the id of a selector
gives has a place of the id in its text. It carries the id just if a literal attribute of it starts at such
a place and has a value as long as the id, or if an attribute of it gives the id without quotes: a place
may as well stand within the value of another attribute, or in a longer value with a quote of another
kind behind the id. -/
theorem byId_carriesId_iff (named : selectorId? hints.selector.toList = some id)
    (found : byId source hints limits = some tag) :
    (∃ i ∈ idAttributes source id, tag.start < i ∧ i ≤ tag.close) ∧
      (CarriesId tag source id ↔
        (∃ a ∈ attributes source tag,
          a.start ∈ idAttributes source id ∧ a.isLiteral = true ∧
            (a.value source).length = id.length) ∨
        ∃ a ∈ attributes source tag,
          a.form = .unquoted ∧ a.name = "id".toList ∧ a.value source = id) := by
  have read := byId_read found
  refine ⟨exists_place named found, ?_, ?_⟩
  · rintro ⟨a, mem, name, literal, value⟩
    cases form : a.form with
    | bare | expression =>
      unfold Attribute.isLiteral at literal
      rw [form] at literal
      cases literal
    | unquoted => exact .inr ⟨a, mem, form, name, value⟩
    | literal q braced =>
      obtain ⟨rest, quote, behind⟩ := exists_quote mem form
      rw [value] at behind
      exact .inl ⟨a, mem, (start_mem_idAttributes read mem literal).mpr
        ⟨name, ⟨q, braced, form⟩, q, rest, quote, behind⟩, literal, congrArg List.length value⟩
  · rintro (⟨a, mem, place, literal, length⟩ | ⟨a, mem, form, name, value⟩)
    · obtain ⟨name, ⟨q, braced, form⟩, q', rest', -, starts⟩ :=
        (start_mem_idAttributes read mem literal).mp place
      obtain ⟨rest, -, behind⟩ := exists_quote mem form
      exact ⟨a, mem, name, literal, (List.append_inj (behind.symm.trans starts) length).1⟩
    · exact ⟨a, mem, name, by unfold Attribute.isLiteral; rw [form], value⟩

/-- An id in quotes, and no other attribute around it. -/
theorem byId_carriesId_heading :
    let source := "<h1 class='a' id=\"hero\">x</h1>".toList
    let hints : Hints := { selector := "#hero" }
    selectorId? hints.selector.toList = some "hero".toList ∧
      byId source hints {} = some ⟨0, 23, "h1".toList⟩ ∧
      CarriesId ⟨0, 23, "h1".toList⟩ source "hero".toList := by
  intro source hints
  have named : selectorId? hints.selector.toList = some "hero".toList := by decide +kernel
  have found : byId source hints {} = some ⟨0, 23, "h1".toList⟩ := by decide +kernel
  refine ⟨named, found, (byId_carriesId_iff named found).2.mpr (.inl ?_)⟩
  exact ⟨⟨"id".toList, 14, 23, 18, 22, .literal '"' false⟩, by decide +kernel, by decide +kernel, rfl, rfl⟩

/-- What reads like an id in the title of a paragraph: the paragraph is found, and carries no id. -/
theorem byId_within_title :
    let source := "<p title='id=\"hero\"'>Hi</p>".toList
    selectorId? "#hero".toList = some "hero".toList ∧
      byId source { selector := "#hero" } {} = some ⟨0, 20, "p".toList⟩ ∧
      ¬ CarriesId ⟨0, 20, "p".toList⟩ source "hero".toList := by
  intro source
  refine ⟨by decide +kernel, by decide +kernel, ?_⟩
  rintro ⟨a, mem, name, -⟩
  have all : ∀ a ∈ attributes source ⟨0, 20, "p".toList⟩, a.name = "title".toList := by decide +kernel
  exact absurd ((all a mem).symm.trans name) (by decide)

end Locate

end Retouch
