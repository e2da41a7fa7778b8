import Retouch.Proofs.Markup.Grammar
import Retouch.Proofs.Markup.Relaid
import Retouch.Proofs.Text

/-!
# Tags as they are written

A tag is written as a name and attributes with blanks in front of them: a name alone, a name with a string,
a string in braces or an expression, or a spread (`WrittenTag`). What stands in quotes and braces is derived
by the grammar, so it may hold any bracket, slash, quote or brace that the grammar allows. Such a tag is
read as it was written, wherever it stands (`WrittenTag.readTag?_written`): up to its closing bracket, and
with just its attributes.
-/

namespace Retouch.Markup

open Retouch.Text

/-! ### Well-formed tags -/

/-- The value has delimiters, and inside of them what the grammar allows; an expression is none that is a
string in braces. -/
def ValueText.WellFormed : ValueText → Prop
  | .unquoted _ => False
  | .quoted q inside => isQuote q = true ∧ Derives (.inside q) inside
  | .braced lead q inside trail =>
    (∀ c ∈ lead, isBlank c = true) ∧ isQuote q = true ∧ Derives (.inside q) inside ∧
      ∀ c ∈ trail, isBlank c = true
  | .expression inside => Derives .items inside ∧ ¬ IsOneString inside

/-- The piece is a spread or an attribute. -/
def Piece.WellFormed : Piece → Prop
  | .mark _ => False
  | .spread inside => Derives .items inside
  | .bare name => name ≠ [] ∧ ∀ c ∈ name, isAttributeChar c = true
  | .valued name gap lead v =>
    name ≠ [] ∧ (∀ c ∈ name, isAttributeChar c = true) ∧ (∀ c ∈ gap, isBlank c = true) ∧
      (∀ c ∈ lead, isBlank c = true) ∧ v.WellFormed

/-- An opening tag as it is written. -/
structure WrittenTag where
  /-- The name of the element. -/
  name : Text
  /-- The attributes and spreads in order, each with the blanks in front of it. -/
  attributes : List (Text × Piece)
  /-- The blanks behind the last one. -/
  trail : Text

namespace WrittenTag

/-- The text of attributes and spreads, blanks included. -/
def attributeText (attributes : List (Text × Piece)) : Text :=
  attributes.flatMap fun a => a.1 ++ a.2.text

/-- What stands between the name and the closing bracket; a slash says that the element has no content. -/
def inside (tag : WrittenTag) (slash : Bool) : Text :=
  attributeText tag.attributes ++ tag.trail ++ if slash then ['/'] else []

/-- The text of the tag. -/
def text (tag : WrittenTag) (slash : Bool) : Text := '<' :: (tag.name ++ tag.inside slash ++ ['>'])

/-- The tag follows the rules: a name, then attributes and spreads with at least one blank before each. -/
structure WellFormed (tag : WrittenTag) : Prop where
  /-- The name starts with a letter and goes on with characters of names. -/
  name : ∃ c rest, tag.name = c :: rest ∧ isNameStart c = true ∧ ∀ d ∈ rest, isNameChar d = true
  /-- Attributes and spreads are well-formed, and there are blanks between them. -/
  attributes : ∀ a ∈ tag.attributes, a.1 ≠ [] ∧ (∀ c ∈ a.1, isBlank c = true) ∧ a.2.WellFormed
  /-- Behind the last one there are only blanks. -/
  trail : ∀ c ∈ tag.trail, isBlank c = true

/-- The tag at offset `i`. -/
def placedAt (tag : WrittenTag) (slash : Bool) (i : Nat) : Tag :=
  ⟨i, i + 1 + tag.name.length + (tag.inside slash).length, tag.name⟩

/-- The attributes in their places, from offset `j` on. -/
def attributesAt : Nat → List (Text × Piece) → List Attribute
  | _, [] => []
  | j, (blanks, p) :: rest =>
    (p.attribute? (j + blanks.length)).toList ++ attributesAt (j + blanks.length + p.text.length) rest

/-! ### The pieces of a written tag -/

/-- The pieces of attributes and spreads: every blank is one of its own. -/
def attributePieces (attributes : List (Text × Piece)) : List Piece :=
  attributes.flatMap fun a => a.1.map Piece.mark ++ [a.2]

/-- The pieces of a tag. -/
def pieces (tag : WrittenTag) (slash : Bool) : List Piece :=
  attributePieces tag.attributes ++ (tag.trail ++ if slash then ['/'] else []).map Piece.mark

end WrittenTag

@[simp] theorem layout_map_mark (t : Text) : layout (t.map Piece.mark) = t := by
  induction t with
  | nil => rfl
  | cons c t ih => simp [layout_cons, Piece.text, ih]

theorem placed_marks (j : Nat) (t : Text) (ps : List Piece) :
    placed j (t.map Piece.mark ++ ps) = placed (j + t.length) ps := by
  induction t generalizing j with
  | nil => rfl
  | cons c t ih =>
    rw [List.length_cons, ← Nat.add_assoc, Nat.add_right_comm, ← ih]
    rfl

/-- Characters that belong to no attribute are read as such. -/
theorem reading_marks {t : Text} {ps : List Piece} {after : Text}
    (marks : ∀ c ∈ t, isAttributeChar c = false ∧ c ≠ '{' ∧ c ≠ '>') (reading : Reading ps after) :
    Reading (t.map Piece.mark ++ ps) after := by
  induction t with
  | nil => exact reading
  | cons c t ih =>
    obtain ⟨here, later⟩ := List.forall_mem_cons.mp marks
    exact ⟨here, ih later⟩

theorem isAttributeChar_of_isBlank {c : Char} (blank : isBlank c = true) : isAttributeChar c = false := by
  simp [isAttributeChar, blank]

/-- A blank belongs to no attribute. -/
theorem mark_of_isBlank {c : Char} (blank : isBlank c = true) :
    isAttributeChar c = false ∧ c ≠ '{' ∧ c ≠ '>' :=
  ⟨isAttributeChar_of_isBlank blank, ne_of_class blank (by decide), ne_of_class blank (by decide)⟩

/-- What a name starts with is a letter. -/
theorem isLetter_of_isNameStart {c : Char} (starts : isNameStart c = true) : isLetter c = true := by
  have all : ∀ n ∈ List.range' 65 26 ++ List.range' 97 26, isLetter (Char.ofNat n) = true := by decide
  have listed : c.toNat ∈ List.range' 65 26 ++ List.range' 97 26 := by
    simp only [isNameStart, Bool.or_eq_true, Bool.and_eq_true, decide_eq_true_eq] at starts
    simp only [List.mem_append, List.mem_range'_1]
    exact starts.imp (fun h => ⟨h.1, Nat.lt_succ_of_le h.2⟩) fun h => ⟨h.1, Nat.lt_succ_of_le h.2⟩
  simpa using all _ listed

/-- A blank does not go on with a name. -/
theorem isNameChar_of_isBlank {c : Char} (blank : isBlank c = true) : isNameChar c = false :=
  forall_isBlank (P := (isNameChar · = false)) (by decide +kernel) blank

namespace WrittenTag

theorem layout_attributePieces (attributes : List (Text × Piece)) :
    layout (attributePieces attributes) = attributeText attributes := by
  induction attributes with
  | nil => rfl
  | cons a attributes ih =>
    simp only [attributePieces, attributeText, List.flatMap_cons] at ih ⊢
    rw [layout_append, ih, layout_append, layout_map_mark]
    simp [layout]

theorem layout_pieces (tag : WrittenTag) (slash : Bool) : layout (tag.pieces slash) = tag.inside slash := by
  rw [pieces, layout_append, layout_attributePieces, layout_map_mark, inside, List.append_assoc]

theorem placed_pieces (tag : WrittenTag) (slash : Bool) (j : Nat) :
    placed j (tag.pieces slash) = attributesAt j tag.attributes := by
  rw [pieces]
  generalize (tag.trail ++ if slash then ['/'] else []) = trail
  induction tag.attributes generalizing j with
  | nil =>
    have none := placed_marks j trail []
    rwa [List.append_nil] at none
  | cons a attributes ih =>
    obtain ⟨blanks, p⟩ := a
    simp only [attributePieces, List.flatMap_cons, List.append_assoc] at ih ⊢
    rw [placed_marks, List.singleton_append, placed, ih]
    rfl

end WrittenTag

/-! ### Written pieces are read -/

/-- What follows neither goes on with the name of an attribute nor gives it a value. -/
def EndsName (t : Text) : Prop :=
  (∀ c, t.head? = some c → isAttributeChar c = false) ∧ (t.dropWhile isBlank).head? ≠ some '='

/-- Blanks end a name, and so does what can stand behind it without them. -/
theorem endsName_blanks {blanks t : Text} (blank : ∀ c ∈ blanks, isBlank c = true)
    (apart : blanks ≠ [] ∨ ∀ c, t.head? = some c → isAttributeChar c = false)
    (stops : ∀ c, t.head? = some c → isBlank c = false ∧ c ≠ '=') : EndsName (blanks ++ t) := by
  constructor
  · intro c head
    cases blanks with
    | nil =>
      obtain some | ends := apart
      · exact absurd rfl some
      · exact ends c head
    | cons d blanks =>
      cases head
      exact isAttributeChar_of_isBlank (blank c (List.mem_cons_self ..))
  · rw [dropWhile_run blank fun c head => (stops c head).1]
    intro sign
    exact (stops _ sign).2 rfl

/-- A value that is well-formed is read as what it is. -/
theorem ValueText.WellFormed.reads {v : ValueText} (formed : v.WellFormed) (after : Text) :
    v.Reads after := by
  cases v with
  | unquoted t => exact formed.elim
  | quoted q inside => exact ⟨formed.1, formed.2.closes formed.1⟩
  | braced lead q inside trail =>
    obtain ⟨before, quote, string, behind⟩ := formed
    exact ⟨before, quote, string.closes quote, behind⟩
  | expression inside => exact ⟨formed.1.closes, formed.2⟩

namespace Piece.WellFormed

variable {p : Piece}

/-- A piece that is well-formed is read as what it is, if what follows ends a name. -/
theorem reads (formed : p.WellFormed) {after : Text} (ends : EndsName after) : p.Reads after := by
  cases p with
  | mark c => exact formed.elim
  | spread inside => exact Derives.closes formed
  | bare name => exact ⟨formed.1, formed.2, ends.1, ends.2⟩
  | valued name gap lead v =>
    obtain ⟨some, named, gaps, leads, value⟩ := formed
    exact ⟨some, named, gaps, leads, value.reads after⟩

/-- The scanner takes it for what it is. -/
theorem passes (formed : p.WellFormed) : p.Passes := by
  cases p with
  | mark c => exact formed.elim
  | spread | bare => trivial
  | valued name gap lead v =>
    obtain ⟨-, -, -, -, value⟩ := formed
    refine Piece.passes_valued (fun t unquoted => ?_) name gap lead
    subst unquoted
    exact value

/-- It starts with a brace or with a name. -/
theorem head_text (formed : p.WellFormed) (rest : Text) :
    ∀ c, (p.text ++ rest).head? = some c → isBlank c = false ∧ c ≠ '=' := by
  have named : ∀ {name more : Text}, name ≠ [] → (∀ c ∈ name, isAttributeChar c = true) →
      ∀ c, (name ++ more).head? = some c → isBlank c = false ∧ c ≠ '=' := by
    intro name more some named c head
    obtain ⟨d, name, rfl⟩ := List.exists_cons_of_ne_nil some
    cases head
    have here := named c (List.mem_cons_self ..)
    exact ⟨isBlank_of_isAttributeChar here, ne_of_class here (by decide)⟩
  cases p with
  | mark c => exact formed.elim
  | spread inside =>
    intro c head
    cases head
    decide
  | bare name => exact named formed.1 formed.2
  | valued name gap lead v =>
    simp only [text, assignment, List.append_assoc]
    exact named formed.1 formed.2.1

end Piece.WellFormed

/-! ### Written tags are read -/

namespace WrittenTag

variable {tag : WrittenTag}

/-- The pieces of attributes are read as what they are, and what they are followed by may follow. -/
theorem reading_attributePieces {written : List (Text × Piece)} {ps : List Piece} {after : Text}
    (formed : ∀ a ∈ written, a.1 ≠ [] ∧ (∀ c ∈ a.1, isBlank c = true) ∧ a.2.WellFormed)
    (reading : Reading ps after) (ends : EndsName (layout ps ++ after)) :
    Reading (attributePieces written ++ ps) after ∧
      EndsName (layout (attributePieces written ++ ps) ++ after) := by
  induction written with
  | nil => exact ⟨reading, ends⟩
  | cons a written ih =>
    obtain ⟨blanks, p⟩ := a
    obtain ⟨⟨some, blank, piece⟩, later⟩ := List.forall_mem_cons.mp formed
    obtain ⟨reading, ends⟩ := ih later
    have shape : attributePieces ((blanks, p) :: written) ++ ps =
        blanks.map Piece.mark ++ p :: (attributePieces written ++ ps) := by
      simp [attributePieces]
    rw [shape]
    constructor
    · exact reading_marks (fun c mem => mark_of_isBlank (blank c mem)) ⟨piece.reads ends, reading⟩
    · rw [layout_append, layout_map_mark, layout_cons, List.append_assoc, List.append_assoc]
      exact endsName_blanks blank (.inl some) (piece.head_text _)

/-- The pieces of a tag are read as what they are. -/
theorem WellFormed.reading (formed : tag.WellFormed) (slash : Bool) (after : Text) :
    Reading (tag.pieces slash) ('>' :: after) := by
  have marks : ∀ c ∈ tag.trail ++ (if slash then ['/'] else []),
      isAttributeChar c = false ∧ c ≠ '{' ∧ c ≠ '>' := by
    intro c mem
    rcases List.mem_append.mp mem with mem | mem
    · exact mark_of_isBlank (formed.trail c mem)
    · cases slash with
      | true => exact List.mem_singleton.mp mem ▸ by decide
      | false => cases mem
  have last : Reading ((tag.trail ++ (if slash then ['/'] else [])).map Piece.mark) ('>' :: after) := by
    have reading := @reading_marks _ [] ('>' :: after) marks trivial
    rwa [List.append_nil] at reading
  have ends : EndsName (tag.trail ++ ((if slash then ['/'] else []) ++ '>' :: after)) := by
    refine endsName_blanks formed.trail (.inr ?_) ?_ <;>
      (intro c head; cases slash <;> (cases head; decide))
  refine (reading_attributePieces formed.attributes last ?_).1
  rwa [layout_map_mark, List.append_assoc]

/-- The scanner takes the pieces of a tag for what they are. -/
theorem WellFormed.passes (formed : tag.WellFormed) (slash : Bool) : ∀ p ∈ tag.pieces slash, p.Passes := by
  have blanks : ∀ {t : Text}, (∀ c ∈ t, isBlank c = true) → ∀ p ∈ t.map Piece.mark, p.Passes := by
    intro t blank p mem
    obtain ⟨c, listed, rfl⟩ := List.mem_map.mp mem
    exact isInTag_of_class (blank c listed) (by decide) (by decide)
  intro p mem
  simp only [pieces, attributePieces, List.map_append, List.mem_append, List.mem_flatMap,
    List.mem_singleton] at mem
  rcases mem with ⟨a, listed, mem | rfl⟩ | mem | mem
  · exact blanks (formed.attributes a listed).2.1 p mem
  · exact (formed.attributes a listed).2.2.passes
  · exact blanks formed.trail p mem
  · cases slash with
    | true => exact List.mem_singleton.mp mem ▸ (by decide : isInTag '/' = true)
    | false => cases mem

/-- What stands behind the name does not go on with it. -/
theorem WellFormed.head_inside (formed : tag.WellFormed) (slash : Bool) (after : Text) :
    ∀ c, (tag.inside slash ++ '>' :: after).head? = some c → isNameChar c = false := by
  have blanks : ∀ {t more : Text}, t ≠ [] → (∀ c ∈ t, isBlank c = true) →
      ∀ c, (t ++ more).head? = some c → isNameChar c = false := by
    intro t more some blank c head
    obtain ⟨d, t, rfl⟩ := List.exists_cons_of_ne_nil some
    cases head
    exact isNameChar_of_isBlank (blank c (List.mem_cons_self ..))
  intro c head
  rw [inside, List.append_assoc, List.append_assoc] at head
  cases written : tag.attributes with
  | cons a rest =>
    have listed : a ∈ tag.attributes := written ▸ List.mem_cons_self ..
    obtain ⟨some, blank, -⟩ := formed.attributes a listed
    rw [written, attributeText, List.flatMap_cons, List.append_assoc, List.append_assoc] at head
    exact blanks some blank c head
  | nil =>
    rw [written] at head
    by_cases trail : tag.trail = []
    · rw [trail] at head
      cases slash <;> (cases head; decide)
    · exact blanks trail formed.trail c head

/-- The character before a text that stands behind another one. -/
theorem charBefore?_append (before t : Text) : charBefore? (before ++ t) before.length = before.getLast? := by
  cases before with
  | nil => rfl
  | cons c before =>
    rw [charBefore?, if_neg (by simp), List.getElem?_append_left (by simp), List.getLast?_eq_getElem?]

/-- **A written tag is laid out**: it is read where it stands, and its pieces are read as what they are. -/
theorem WellFormed.readTag?_here (formed : tag.WellFormed) (slash : Bool) {source after : Text} {i : Nat}
    (here : source.drop i = tag.text slash ++ after)
    (apart : (charBefore? source i).any isIdentifierChar = false) :
    readTag? source i = some (tag.placedAt slash i) ∧
      (tag.placedAt slash i).HasLayout source (tag.pieces slash) := by
  obtain ⟨c, rest, name, starts, run⟩ := formed.name
  have shape : source.drop i = '<' :: c :: (rest ++ (layout (tag.pieces slash) ++ '>' :: after)) := by
    simp [here, text, name, layout_pieces]
  have reading := formed.reading slash after
  have passes := formed.passes slash
  have stop : source.drop (tag.placedAt slash i).nameStop = layout (tag.pieces slash) ++ '>' :: after := by
    have behind := drop_nameStop (n := (tag.placedAt slash i).close) shape
    rwa [← name] at behind
  have close : (tag.placedAt slash i).close =
      (tag.placedAt slash i).nameStop + (layout (tag.pieces slash)).length := by
    rw [layout_pieces]
    rfl
  have behind : source.drop ((tag.placedAt slash i).close + 1) = after := by
    rw [close, Nat.add_assoc, ← List.drop_drop, stop, ← List.drop_drop, List.drop_left]
    rfl
  refine ⟨readTag?_iff.mpr ⟨c, rest, _, _, shape, ?_, starts, run, ?_,
    closeFrom_layout reading passes, ?_⟩, ?_, close, ?_, passes⟩
  · simp [opensTag, isLetter_of_isNameStart starts, apart]
  · rw [layout_pieces]
    exact formed.head_inside slash after
  · simp only [placedAt, layout_pieces, name, List.length_cons]
    congr 1
    omega
  · rw [behind]
    exact stop
  · rw [behind]
    exact reading

/-- The attributes of a written tag, each in its place. -/
theorem WellFormed.attributes_here {slash : Bool} {source : Text} {i : Nat}
    (laid : (tag.placedAt slash i).HasLayout source (tag.pieces slash)) :
    Markup.attributes source (tag.placedAt slash i) = attributesAt (i + 1 + tag.name.length) tag.attributes ∧
      (Markup.attributes source (tag.placedAt slash i)).map (·.view source) =
        tag.attributes.filterMap (·.2.view?) := by
  refine ⟨laid.attributes.trans (placed_pieces tag slash _), ?_⟩
  rw [laid.map_view, pieces, List.filterMap_append]
  have none : ∀ t : Text, (t.map Piece.mark).filterMap Piece.view? = [] := by
    intro t
    induction t with
    | nil => rfl
    | cons c t ih => exact ih
  rw [none, List.append_nil]
  induction tag.attributes with
  | nil => rfl
  | cons a rest ih =>
    simp only [attributePieces, List.flatMap_cons, List.filterMap_append, none, List.nil_append,
      List.filterMap_cons, List.filterMap_nil] at ih ⊢
    rw [ih]
    cases a.2.view? <;> rfl

/-- **Written tags are read back**, in any source where no character of an identifier stands before them: up
to the bracket that closes the tag, with just its attributes, in their order and in their places, each with
its name, its value and its delimiters. -/
theorem readTag?_written (formed : tag.WellFormed) (slash : Bool) (before after : Text)
    (apart : ∀ c, before.getLast? = some c → isIdentifierChar c = false) :
    let source := before ++ tag.text slash ++ after
    let read := tag.placedAt slash before.length
    readTag? source before.length = some read ∧
      read.text source = tag.text slash ∧
      Markup.attributes source read = attributesAt read.nameStop tag.attributes ∧
      (Markup.attributes source read).map (·.view source) = tag.attributes.filterMap (·.2.view?) := by
  intro source read
  have here : source.drop before.length = tag.text slash ++ after := by
    simp only [source, List.append_assoc, List.drop_left]
  have alone : (charBefore? source before.length).any isIdentifierChar = false := by
    simp only [source, List.append_assoc, charBefore?_append]
    cases last : before.getLast? with
    | none => rfl
    | some c => exact apart c last
  obtain ⟨found, laid⟩ := formed.readTag?_here slash here alone
  obtain ⟨placed, views⟩ := WellFormed.attributes_here laid
  refine ⟨found, ?_, placed, views⟩
  have length : before.length + (tag.text slash).length = read.close + 1 := by
    simp only [read, placedAt, text, List.length_cons, List.length_append, List.length_nil]
    omega
  rw [Tag.text, slice, ← length, ← List.length_append, List.take_left]
  exact List.drop_left

/-- A tag with a spread, a name alone, a string, an expression and a template in braces. -/
def button : WrittenTag where
  name := "b".toList
  attributes := [
    ([' '], .spread "...a".toList),
    ([' '], .bare "data-on".toList),
    (['\n'], .valued "title".toList [] [] (.quoted '"' "a > b/".toList)),
    ([' '], .valued "on".toList [' '] [' '] (.expression "() => f('\x7d')".toList)),
    ([' '], .valued "t".toList [] [] (.braced [' '] backQuote "$\x7b'>'\x7d".toList []))]
  trail := [' ']

theorem button_formed : button.WellFormed := by
  have code : ¬ IsOneString "() => f('\x7d')".toList := by
    rintro ⟨lead, q, u, trail, eq, blank, quote, -, -⟩
    have head := congrArg List.head? eq
    cases lead with
    | nil =>
      cases head
      cases quote
    | cons c lead =>
      cases head
      exact absurd (blank '(' (List.mem_cons_self ..)) (by decide)
  refine ⟨⟨'b', [], rfl, by decide, nofun⟩, ?_, by decide⟩
  simp only [button, List.forall_mem_cons]
  refine ⟨⟨nofun, by decide, ?_⟩, ⟨nofun, by decide, ?_⟩, ⟨nofun, by decide, ?_⟩, ⟨nofun, by decide, ?_⟩,
    ⟨nofun, by decide, ?_⟩, nofun⟩
  · exact (holds_iff (c := '{')).mpr (by decide)
  · exact ⟨by decide, by decide⟩
  · exact ⟨by decide, by decide, by decide, by decide, by decide, (holds_iff (c := '"')).mpr (by decide)⟩
  · exact ⟨by decide, by decide, by decide, by decide, (holds_iff (c := '{')).mpr (by decide), code⟩
  · exact ⟨by decide, by decide, by decide, by decide, by decide, by decide,
      (holds_iff (c := backQuote)).mpr (by decide), by decide⟩

/-- It is read behind a bracket and before a text. -/
theorem button_read :
    button.WellFormed ∧ (∀ c, ['('].getLast? = some c → isIdentifierChar c = false) ∧
      ∃ tag, readTag? (['('] ++ button.text true ++ "x</b>".toList) 1 = some tag ∧ tag.close = 69 ∧
        (Markup.attributes (['('] ++ button.text true ++ "x</b>".toList) tag).map (·.name) =
          ["data-on".toList, "title".toList, "on".toList, "t".toList] := by
  have apart : ∀ c, ['('].getLast? = some c → isIdentifierChar c = false := by
    rintro c ⟨⟩
    decide
  obtain ⟨read, -, placed, -⟩ := readTag?_written button_formed true ['('] "x</b>".toList apart
  exact ⟨button_formed, apart, _, read, by decide, by rw [placed]; decide⟩

end WrittenTag

end Retouch.Markup
