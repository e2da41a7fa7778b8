import Retouch.Proofs.Style.Edited
import Retouch.Proofs.Style.Member

/-!
# Style objects changed

Changes are folded into the members of a style object one by one (`Folded`). A member that a change writes is
one of the grammar if its name is one (`isSpelled_member`), and the others are kept as they were read. So what is
written is read back as exactly the members expected (`applyToStyleObject_folded`). It stands in the braces of an
attribute up to the brace that closes it, as long as no template in it has a backslash, which covers a character
for the scanner and none for the grammar.
-/

namespace Retouch.Style

open Retouch.Text Retouch.Markup

namespace ObjectLiteral

variable {e : StyleEntry} {entries entries' : List StyleEntry} {change : StyleChange} {changes : List StyleChange}
  {m : Member} {t u value raw name : Text}

/-! ### What a change writes -/

/-- The literal is a string that stands for the value: in single quotes as it is, or in double quotes as a JSON
string. -/
def StandsFor (raw value : Text) : Prop :=
  raw = '\'' :: value ++ ['\''] ∧ (∀ c ∈ value, c ≠ '\'' ∧ c ≠ '\\' ∧ c ≠ '\n') ∨
    Json.read? raw = some (.str (String.ofList value))

theorem StringBody.flatMap {q : Char} {f : Char → Text} (each : ∀ c, StringBody q (f c)) (t : Text) :
    StringBody q (t.flatMap f) := by
  induction t with
  | nil => exact .nil
  | cons c t ih =>
    rw [List.flatMap_cons]
    exact (each c).append ih

theorem hexText_plain (width n : Nat) : ∀ c ∈ hexText width n, c ≠ '"' ∧ c ≠ '\\' := by
  have digits : ∀ d < 16, hexDigit d ≠ '"' ∧ hexDigit d ≠ '\\' := by decide
  induction width generalizing n with
  | zero => exact List.forall_mem_nil _
  | succ width ih =>
    exact List.forall_mem_append.mpr
      ⟨ih _, List.forall_mem_singleton.mpr (digits _ (Nat.mod_lt n (by decide)))⟩

/-- A character by its code. -/
theorem stringBody_code (n : Nat) : StringBody '"' ('\\' :: 'u' :: hexText 4 n) :=
  .covered (by decide) (.of_forall (hexText_plain 4 n))

/-- What is escaped may stand in a string. -/
theorem stringBody_escapeChar (c : Char) : StringBody '"' (Json.escapeChar c) := by
  rcases Json.escapeChar_cases c with ⟨letter, shape, -, value⟩ | ⟨shape, -⟩ | ⟨shape, goes, noCover, -⟩
  · rw [shape]
    refine .covered ?_ .nil
    rintro rfl
    cases value
  · rw [shape]
    exact stringBody_code _
  · rw [shape]
    exact .plain goes noCover .nil

/-- A value is written as a string that stands for it. -/
theorem valueText_standsFor (value : Text) : IsString (valueText value) ∧ StandsFor (valueText value) value := by
  unfold valueText
  split
  · exact ⟨⟨'"', _, rfl, .inl rfl, StringBody.flatMap stringBody_escapeChar value⟩, .inr (Json.read?_stringText value)⟩
  · rename_i plain
    have plain : ∀ c ∈ value, c ≠ '\'' ∧ c ≠ '\\' ∧ c ≠ '\n' := by
      simp only [Bool.or_eq_true, List.contains_iff_mem, not_or] at plain
      refine fun c mem => ⟨?_, ?_, ?_⟩ <;> rintro rfl <;> simp_all
    exact ⟨⟨'\'', value, rfl, .inr rfl, .of_forall fun c mem => ⟨(plain c mem).1, (plain c mem).2.1⟩⟩,
      .inl ⟨rfl, plain⟩⟩

/-- A name does not end with a line feed. -/
theorem dropFinalBreak_of_isName (is : IsName name) : dropFinalBreak name = name := by
  obtain ⟨c, rest, rfl, starts, run⟩ := is
  refine dropFinalBreak_of_getLast? fun last => ?_
  rcases List.mem_cons.mp (List.mem_of_getLast? last) with same | mem
  · exact ne_of_class starts (by decide) same.symm
  · exact ne_of_class (run _ mem) (by decide) rfl

/-- An identifier is a name, perhaps with a line feed behind. -/
theorem isIdentifier_iff : isIdentifier name = true ↔ IsName (dropFinalBreak name) := by
  unfold isIdentifier
  constructor
  · intro identifier
    split at identifier
    · cases identifier
    · rename_i c rest shape
      exact ⟨c, rest, shape, by simpa using identifier⟩
  · rintro ⟨c, rest, shape, is⟩
    rw [shape]
    simpa using is

/-- A name is written without quotes. -/
theorem keyText_of_isName (is : IsName name) : keyText name = name :=
  if_pos (isIdentifier_iff.mpr ((dropFinalBreak_of_isName is).symm ▸ is))

/-! ### Members of the grammar -/

/-- The member is one of the grammar. -/
def IsSpelled (e : StyleEntry) : Prop := ∃ m : Member, m.IsProper ∧ m.entry = e

theorem forall₂_renders {ms : List Member} (proper : ∀ m ∈ ms, m.IsProper) :
    List.Forall₂ Renders (ms.map Member.entry) ms := by
  induction ms with
  | nil => exact .nil
  | cons m ms ih =>
    obtain ⟨here, later⟩ := List.forall_mem_cons.mp proper
    exact .cons (renders_entry here) (ih later)

/-- Members are read back as they are exactly if they are of the grammar. -/
theorem read?_write_iff : read? (write entries) = some entries ↔ ∀ e ∈ entries, IsSpelled e := by
  constructor
  · intro read e mem
    obtain ⟨ms, proper, rfl⟩ := exists_members read
    obtain ⟨m, listed, rfl⟩ := List.mem_map.mp mem
    exact ⟨m, proper m listed, rfl⟩
  · intro spelled
    obtain ⟨ms, proper, rfl⟩ : ∃ ms : List Member, (∀ m ∈ ms, m.IsProper) ∧ ms.map Member.entry = entries := by
      induction entries with
      | nil => exact ⟨[], List.forall_mem_nil _, rfl⟩
      | cons e entries ih =>
        obtain ⟨⟨m, here, rfl⟩, later⟩ := List.forall_mem_cons.mp spelled
        obtain ⟨ms, proper, rfl⟩ := ih later
        exact ⟨m :: ms, List.forall_mem_cons.mpr ⟨here, proper⟩, rfl⟩
    exact read?_write (forall₂_renders proper)

/-- What is read is of the grammar. -/
theorem isSpelled_of_read? (read : read? t = some entries) : ∀ e ∈ entries, IsSpelled e := by
  obtain ⟨ms, proper, rfl⟩ := exists_members read
  exact List.forall_mem_map.mpr fun m mem => ⟨m, proper m mem, rfl⟩

/-- A member that a change writes is of the grammar if its name is. -/
theorem isSpelled_member (named : IsName (changedName change)) (writes : member? change = some e) : IsSpelled e := by
  unfold member? at writes
  split at writes
  · cases writes
  · obtain rfl := Option.some.inj writes
    have string := (valueText_standsFor (freshValue change)).1
    refine ⟨.named (changedName change) (.string (valueText (freshValue change))), ?_, ?_⟩
    · simp [Member.IsProper, Member.tokens, Value.tokens, Token.IsProper, named, string]
    · rw [keyText_of_isName named]
      rfl

/-! ### Changes in turn -/

/-- What changes make of members, one after the other. -/
inductive Folded : List StyleEntry → List StyleChange → List StyleEntry → Prop where
  /-- Without changes, they stay. -/
  | nil {entries : List StyleEntry} : Folded entries [] entries
  /-- The first change edits the member of its name. -/
  | cons {entries entries' entries'' : List StyleEntry} {change : StyleChange} {changes : List StyleChange} :
      Edited (·.name? == some (changedName change)) (member? change) entries entries' →
        Folded entries' changes entries'' → Folded entries (change :: changes) entries''

theorem folded_foldl (changes : List StyleChange) (entries : List StyleEntry) :
    Folded entries changes (changes.foldl apply entries) := by
  induction changes generalizing entries with
  | nil => exact .nil
  | cons change changes ih => exact .cons (edited_apply entries change) (ih _)

/-- Changes of names of the grammar keep to it. -/
theorem Folded.isSpelled (folded : Folded entries changes entries')
    (named : ∀ change ∈ changes, IsName (changedName change)) (spelled : ∀ e ∈ entries, IsSpelled e) :
    ∀ e ∈ entries', IsSpelled e := by
  induction folded with
  | nil => exact spelled
  | cons edited _ ih =>
    obtain ⟨here, later⟩ := List.forall_mem_cons.mp named
    refine ih later fun e mem => ?_
    rcases edited.mem mem with old | new
    · exact spelled e old
    · exact isSpelled_member here new

/-! ### Braces around members -/

/-- The text may stand in a block, whatever may stand behind it. -/
def StandsInBlock (u : Text) : Prop := ∀ t, IsInside .block t → IsInside .block (u ++ t)

theorem StandsInBlock.append (first : StandsInBlock t) (second : StandsInBlock u) : StandsInBlock (t ++ u) :=
  fun rest inside => List.append_assoc t u rest ▸ first _ (second _ inside)

/-- Characters that open and close nothing. -/
theorem standsInBlock_run (plain : ∀ c ∈ u, isOpener c = false ∧ c ≠ '}') : StandsInBlock u := by
  intro t inside
  induction u with
  | nil => exact inside
  | cons c u ih =>
    obtain ⟨⟨opens, closes⟩, later⟩ := List.forall_mem_cons.mp plain
    exact .char opens closes (ih later)

/-- What is quoted. -/
theorem standsInBlock_quoted {q : Char} (quote : isQuote q = true) (inside : IsInside (.quoted q) u) :
    StandsInBlock (q :: (u ++ [q])) := by
  intro t rest
  have whole := IsInside.opener (isOpener_of_isQuote quote) (opensAs_quote quote ▸ inside) rest
  rw [opensAs_quote quote] at whole
  rwa [List.cons_append, List.append_assoc]

theorem standsInBlock_isName (is : IsName t) : StandsInBlock t := by
  obtain ⟨c, rest, rfl, starts, run⟩ := is
  refine standsInBlock_run (List.forall_mem_cons.mpr ⟨?_, fun d mem => ?_⟩)
  · exact ⟨isOpener_of_class starts (by decide), ne_of_class starts (by decide)⟩
  · exact ⟨isOpener_of_class (run d mem) (by decide), ne_of_class (run d mem) (by decide)⟩

/-- The scanner takes a string for what the grammar takes it. -/
theorem StringBody.isInside {q : Char} (quote : q = '"' ∨ q = '\'') (body : StringBody q t) :
    IsInside (.quoted q) t := by
  have noBack : q ≠ backQuote := by rcases quote with rfl | rfl <;> decide
  induction body with
  | nil => exact isInside_nil (by rcases quote with rfl | rfl <;> decide)
  | covered _ _ ih => exact ih.covered _
  | plain goes noCover _ ih => exact ih.plain goes noCover fun back => absurd back noBack

theorem standsInBlock_isString (is : IsString t) : StandsInBlock t := by
  obtain ⟨q, body, rfl, quote, inside⟩ := is
  refine standsInBlock_quoted ?_ (inside.isInside quote)
  rcases quote with rfl | rfl <;> decide

/-- A template is one for the scanner if it has no backslash. -/
theorem standsInBlock_isTemplate (is : IsTemplate t) (noCover : '\\' ∉ t) : StandsInBlock t := by
  obtain ⟨body, rfl, plain⟩ := is
  refine standsInBlock_quoted rfl ?_
  replace noCover : '\\' ∉ body := fun mem => noCover (by simp [mem])
  induction body with
  | nil => exact isInside_nil rfl
  | cons c body ih =>
    obtain ⟨⟨goes, noHole⟩, later⟩ := List.forall_mem_cons.mp plain
    obtain ⟨here, noCover⟩ := not_or.mp (mt List.mem_cons.mpr noCover)
    exact (ih later noCover).plain goes (Ne.symm here) fun _ dollar => absurd dollar noHole

/-- The characters of a number. -/
def isNumberChar (c : Char) : Bool := isFigure c || c == '.' || c == '+' || c == '-' || c == 'e' || c == 'E'

theorem isNumberChar_of_isNumber (is : IsNumber t) : ∀ c ∈ t, isNumberChar c = true := by
  have signs : ∀ {sign}, IsSign sign → ∀ c ∈ sign, isNumberChar c = true := by
    rintro _ (rfl | rfl | rfl) <;> decide
  have run : ∀ {figures}, IsFigures figures → ∀ c ∈ figures, isNumberChar c = true := fun figures c mem => by
    simp [isNumberChar, figures c mem]
  obtain ⟨sign, decimals, exponent, rfl, isSign, isDecimals, isExponent⟩ := is
  refine List.forall_mem_append.mpr ⟨signs isSign, List.forall_mem_append.mpr ⟨?_, ?_⟩⟩
  · rcases isDecimals with ⟨-, figures⟩ | ⟨whole, fraction, rfl, figures, figures', -⟩
    · exact run figures
    · exact List.forall_mem_append.mpr ⟨run figures, List.forall_mem_cons.mpr ⟨by decide, run figures'⟩⟩
  · rcases isExponent with rfl | ⟨e, sign', figures, rfl, letter, isSign', -, figured⟩
    · exact List.forall_mem_nil _
    · refine List.forall_mem_cons.mpr ⟨?_, List.forall_mem_append.mpr ⟨signs isSign', run figured⟩⟩
      rcases letter with rfl | rfl <;> decide

theorem standsInBlock_isNumber (is : IsNumber t) : StandsInBlock t := by
  refine standsInBlock_run fun c mem => ?_
  have number := isNumberChar_of_isNumber is c mem
  exact ⟨isOpener_of_class number (by decide), ne_of_class number (by decide)⟩

/-- A member in whose template, if it has one, there is no backslash. -/
def HasPlainTemplate (e : StyleEntry) : Prop := e.raw.head? = some backQuote → '\\' ∉ e.raw

theorem standsInBlock_moreText {names : List Text} (proper : ∀ name ∈ names, IsName name) :
    StandsInBlock (Dotted.moreText names) := by
  induction names with
  | nil => exact standsInBlock_run (List.forall_mem_nil _)
  | cons name names ih =>
    obtain ⟨here, later⟩ := List.forall_mem_cons.mp proper
    have dot : StandsInBlock ['.'] := standsInBlock_run (by decide)
    exact dot.append ((standsInBlock_isName here).append (ih later))

theorem standsInBlock_dotted {d : Dotted} (proper : ∀ token ∈ d.tokens, token.IsProper) : StandsInBlock d.text := by
  obtain ⟨here, later⟩ := List.forall_mem_cons.mp proper
  exact (standsInBlock_isName here).append (standsInBlock_moreText (Dotted.isName_of_isProper later))

theorem standsInBlock_value {v : Value} (proper : ∀ token ∈ v.tokens, token.IsProper)
    (plain : v.text.head? = some backQuote → '\\' ∉ v.text) : StandsInBlock v.text := by
  cases v with
  | string t => exact standsInBlock_isString (proper _ (List.mem_singleton_self _))
  | constant t =>
    rcases proper _ (List.mem_singleton_self _) with number | template
    · exact standsInBlock_isNumber number
    · refine standsInBlock_isTemplate template (plain ?_)
      obtain ⟨body, rfl, -⟩ := template
      rfl
  | reference d => exact standsInBlock_dotted proper

/-- A member of the grammar may stand in braces. -/
theorem standsInBlock_text (spelled : IsSpelled e) (plain : HasPlainTemplate e) : StandsInBlock e.text := by
  obtain ⟨m, proper, rfl⟩ := spelled
  have colon : StandsInBlock [':', ' '] := standsInBlock_run (by decide)
  cases m with
  | named name v =>
    obtain ⟨isName, -, rest⟩ := (List.forall_mem_cons.mp proper).imp_right List.forall_mem_cons.mp
    exact (standsInBlock_isName isName).append (colon.append (standsInBlock_value rest plain))
  | quoted string v =>
    obtain ⟨isString, -, rest⟩ := (List.forall_mem_cons.mp proper).imp_right List.forall_mem_cons.mp
    exact (standsInBlock_isString isString).append (colon.append (standsInBlock_value rest plain))
  | spread d =>
    have dots : StandsInBlock ['.', '.', '.'] := standsInBlock_run (by decide)
    exact dots.append (standsInBlock_dotted (List.forall_mem_cons.mp proper).2)

theorem standsInBlock_join {pieces : List Text} (each : ∀ piece ∈ pieces, StandsInBlock piece) :
    StandsInBlock (join [',', ' '] pieces) := by
  induction pieces with
  | nil => exact standsInBlock_run (List.forall_mem_nil _)
  | cons piece pieces ih =>
    obtain ⟨here, later⟩ := List.forall_mem_cons.mp each
    cases pieces with
    | nil => exact here
    | cons next pieces =>
      have comma : StandsInBlock [',', ' '] := standsInBlock_run (by decide)
      exact (here.append comma).append (ih later)

theorem StandsInBlock.isInside (stands : StandsInBlock u) : IsInside .block u :=
  List.append_nil u ▸ stands [] (rfl : closeFrom [.block] ['}'] = some 1)

/-- Braces around what stands in them. -/
theorem standsInBlock_block (inside : IsInside .block u) : StandsInBlock ('{' :: (u ++ ['}'])) := by
  intro t rest
  have whole := IsInside.opener (c := '{') (by decide) inside rest
  rwa [List.cons_append, List.append_assoc]

/-- The braces of an object close each other. -/
theorem isInside_write (spelled : ∀ e ∈ entries, IsSpelled e) (plain : ∀ e ∈ entries, HasPlainTemplate e) :
    IsInside .block (write entries) := by
  have texts : ∀ piece ∈ entries.map StyleEntry.text, StandsInBlock piece :=
    List.forall_mem_map.mpr fun e mem => standsInBlock_text (spelled e mem) (plain e mem)
  have blank : StandsInBlock [' '] := standsInBlock_run (by decide)
  have members := (blank.append ((standsInBlock_join texts).append blank)).isInside
  unfold write
  split
  · decide
  · simpa using (standsInBlock_block members).isInside

/-- An attribute that holds a text in braces ends with them if the text is closed in itself. -/
theorem closing?_attribute (inside : IsInside .block u) (before after : Text) :
    closing? (before ++ "style=\x7b".toList ++ u ++ '}' :: after) (before.length + 6) =
      some (before.length + 7 + u.length) := by
  have start : (before ++ "style=\x7b".toList ++ u ++ '}' :: after).drop (before.length + 6) =
      '{' :: (u ++ '}' :: after) := by
    simp [List.append_assoc]
  unfold closing?
  rw [start]
  dsimp only
  have closed : closeFrom [.block] (u ++ '}' :: after) = some (u.length + 1) :=
    inside.closeFrom_singleton proper_block after
  rw [if_neg (by decide), if_pos (by decide), closed, Option.map_some]
  congr 1
  omega

end ObjectLiteral

open ObjectLiteral

/-- What is read as an object is not blank. -/
theorem not_isBlankText_of_read? {t : Text} {entries : List StyleEntry} (read : read? t = some entries) :
    ¬ isBlankText t = true := by
  intro blank
  rw [read?, strip_of_isBlankText blank] at read
  cases read

theorem parseStyleObject_eq_ok_iff {t : Text} {entries : List StyleEntry} :
    parseStyleObject t = .ok entries ↔ read? t = some entries := by
  unfold parseStyleObject
  split <;> simp_all

/-- **A style object is read back as its members with the changes folded into them.** -/
theorem applyToStyleObject_folded {t : Text} {entries : List StyleEntry} {changes : List StyleChange}
    (parsed : parseStyleObject t = .ok entries) (named : ∀ change ∈ changes, IsName (changedName change)) :
    ∃ out entries', applyToStyleObject t changes = .ok out ∧ Folded entries changes entries' ∧
      parseStyleObject out = .ok entries' ∧
      (∀ change ∈ changes, ∀ e ∈ member? change,
        e.key? = some (changedName change) ∧ StandsFor e.raw (freshValue change)) ∧
      ((∀ e ∈ entries', HasPlainTemplate e) → ∀ before after,
        closing? (before ++ "style=\x7b".toList ++ out ++ '}' :: after) (before.length + 6) =
          some (before.length + 7 + out.length)) := by
  have read := parseStyleObject_eq_ok_iff.mp parsed
  have folded := folded_foldl changes entries
  have spelled := folded.isSpelled named (isSpelled_of_read? read)
  refine ⟨write (changes.foldl apply entries), changes.foldl apply entries, ?_, folded,
    parseStyleObject_eq_ok_iff.mpr (read?_write_iff.mpr spelled), ?_, ?_⟩
  · unfold applyToStyleObject
    rw [if_neg (not_isBlankText_of_read? read), parsed]
    rfl
  · intro change mem e writes
    unfold member? at writes
    split at writes
    · cases writes
    · obtain rfl := Option.some.inj writes
      exact ⟨congrArg some (keyText_of_isName (named change mem)), (valueText_standsFor _).2⟩
  · intro plain before after
    exact closing?_attribute (isInside_write spelled plain) before after

/-- A style object with members of all kinds. -/
def mixedObject : Text :=
  ("\x7b ...base . card, 'line-height': 1.5e1, \"it's\": \"a\\\"b\x7d\", color : theme.red , " ++
    "width:\x60\x7b10px\x60, \x7d").toList

/-- Its members. -/
def mixedEntries : List StyleEntry := [
  ⟨none, "...base.card".toList⟩, ⟨some "'line-height'".toList, "1.5e1".toList⟩,
  ⟨some "\"it's\"".toList, "\"a\\\"b\x7d\"".toList⟩, ⟨some "color".toList, "theme.red".toList⟩,
  ⟨some "width".toList, "\x60\x7b10px\x60".toList⟩]

/-- Changes that replace, take out and add members, with quotes, a brace, a backslash and a line feed. -/
def mixedChanges : List StyleChange := [
  ⟨"color", "theme.red", "O'Neill \\ \x7b", true⟩, ⟨"width", "", " ", true⟩,
  ⟨"font-family", "", "'a'\n\"b\"", true⟩]

/-- Members of all kinds are read back, and changes of all kinds with them. -/
theorem mixedObject_folded :
    parseStyleObject mixedObject = .ok mixedEntries ∧
      (∀ change ∈ mixedChanges, IsName (changedName change)) ∧
      ∃ out entries', applyToStyleObject mixedObject mixedChanges = .ok out ∧
        Folded mixedEntries mixedChanges entries' ∧ parseStyleObject out = .ok entries' ∧
        (∀ change ∈ mixedChanges, ∀ e ∈ member? change,
          e.key? = some (changedName change) ∧ StandsFor e.raw (freshValue change)) ∧
        ((∀ e ∈ entries', HasPlainTemplate e) → ∀ before after,
          closing? (before ++ "style=\x7b".toList ++ out ++ '}' :: after) (before.length + 6) =
            some (before.length + 7 + out.length)) := by
  have parsed : parseStyleObject mixedObject = .ok mixedEntries := by decide +kernel
  have named : ∀ change ∈ mixedChanges, IsName (changedName change) := by decide
  exact ⟨parsed, named, applyToStyleObject_folded parsed named⟩

end Retouch.Style
