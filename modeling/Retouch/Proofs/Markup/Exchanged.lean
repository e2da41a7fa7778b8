import Retouch.Proofs.Markup.Grammar
import Retouch.Proofs.Markup.Relaid
import Retouch.Proofs.Text

/-!
# One attribute of a tag exchanged

A tag has an attribute of one of some names if one of its pieces is of such a name. The value of the first one
may be exchanged for any other text that stands inside of its quotes, and where there is none, a new attribute
may be put behind the name of the tag. The tag then says the new value for these names, and apart from that what
it said before (`exists_exchanged`, `exists_inserted`). No other text can be read back there, since a value that
is read from quotes stands inside of them (`isInside_value`).
-/

namespace Retouch.Markup

open Retouch.Text

/-! ### What a tag says for some names -/

/-- What is said is said by an attribute of one of the names. -/
def isNamed (names : List Text) (v : Text × AttributeForm × Text) : Bool := names.contains v.1

variable {source : Text} {tag : Tag} {names : List Text} {ps qs : List Piece} {a : Attribute} {q : Char}
  {inBraces : Bool}

theorem findAttribute?_view (laid : tag.HasLayout source ps) (names : List Text) :
    (findAttribute? source tag names).map (·.view source) =
      (ps.filterMap Piece.view?).find? (isNamed names) := by
  rw [← laid.map_view, List.find?_map]
  rfl

/-- What the attributes of a tag say, but for the first one of the names. -/
def attributesBeside (names : List Text) (source : Text) (tag : Tag) : List (Text × AttributeForm × Text) :=
  ((attributes source tag).eraseP fun a => names.contains a.name).map (·.view source)

theorem attributesBeside_eq (laid : tag.HasLayout source ps) (names : List Text) :
    attributesBeside names source tag = (ps.filterMap Piece.view?).eraseP (isNamed names) := by
  rw [attributesBeside, ← laid.map_view, List.eraseP_map]
  rfl

/-- Pieces that say `view` for the names, and apart from that what other pieces say. -/
structure Says (names : List Text) (qs ps : List Piece) (view : Text × AttributeForm × Text) : Prop where
  /-- What the first attribute of one of the names says. -/
  found : (qs.filterMap Piece.view?).find? (isNamed names) = some view
  /-- The other attributes. -/
  others : (qs.filterMap Piece.view?).eraseP (isNamed names) = (ps.filterMap Piece.view?).eraseP (isNamed names)

/-- Pieces among which one is of the names, and none in front of it. -/
theorem says_among {front back back' : List Piece} {p p' : Piece} {name old new : Text} {form form' : AttributeForm}
    (named : names.contains name = true) (none : ∀ v ∈ front.filterMap Piece.view?, isNamed names v = false)
    (view : p.view? = some (name, form, old)) (view' : p'.view? = some (name, form', new))
    (same : back'.filterMap Piece.view? = back.filterMap Piece.view?) :
    Says names (front ++ p' :: back') (front ++ p :: back) (name, form', new) := by
  have first : (front.filterMap Piece.view?).find? (isNamed names) = .none :=
    List.find?_eq_none.mpr fun v mem => by simp [none v mem]
  have here : ∀ form t, isNamed names (name, form, t) = true := fun _ _ => named
  constructor
  · rw [List.filterMap_append, List.filterMap_cons_some view', List.find?_append, first, Option.none_or,
      List.find?_cons_of_pos (here form' new)]
  · have erased : ∀ {w}, (∃ form t, w = (name, form, t)) → ∀ rest,
        (front.filterMap Piece.view? ++ w :: rest).eraseP (isNamed names) =
          front.filterMap Piece.view? ++ rest := by
      rintro _ ⟨form, t, rfl⟩ rest
      rw [List.eraseP_append_right _ fun v mem => by simp [none v mem],
        List.eraseP_cons_of_pos (here form t)]
    rw [List.filterMap_append, List.filterMap_append, List.filterMap_cons_some view',
      List.filterMap_cons_some view, erased ⟨_, _, rfl⟩, erased ⟨_, _, rfl⟩, same]

/-! ### An attribute with a value -/

/-- The piece that is the first attribute of the names, with its value. -/
structure Gives (names : List Text) (source : Text) (tag : Tag) (ps : List Piece) (a : Attribute)
    (front : List Piece) (gap lead : Text) (v : ValueText) (back : List Piece) : Prop where
  /-- It is one of the pieces. -/
  pieces : ps = front ++ .valued a.name gap lead v :: back
  /-- It is the attribute. -/
  is : (Piece.valued a.name gap lead v).attribute? (tag.nameStop + (layout front).length) = some a
  /-- Its name is one of those. -/
  named : names.contains a.name = true
  /-- No piece in front of it is of such a name. -/
  first : ∀ w ∈ front.filterMap Piece.view?, isNamed names w = false
  /-- It is written as the attribute is, -/
  form : v.form = a.form
  /-- and its value is that of the attribute. -/
  value : v.inner = a.value source

/-- An attribute that is found with a value is a piece. -/
theorem exists_gives (laid : tag.HasLayout source ps) (found : findAttribute? source tag names = some a)
    (valued : a.form ≠ .bare) :
    ∃ front gap lead v back, Gives names source tag ps a front gap lead v back := by
  unfold findAttribute? at found
  rw [laid.attributes] at found
  have named := List.find?_some found
  obtain ⟨front, p, back, rfl, is, none⟩ := find?_placed found
  have here : source.drop (tag.nameStop + (layout front).length) =
      p.text ++ (layout back ++ '>' :: source.drop (tag.close + 1)) := by
    rw [← List.drop_drop, laid.text, layout_append, layout_cons, List.append_assoc, List.drop_left,
      List.append_assoc]
  have view := Piece.map_view_attribute? here
  rw [is] at view
  cases p with
  | mark | spread => cases is
  | bare =>
    cases is
    exact absurd rfl valued
  | valued name gap lead v =>
    have same : (a.name, a.form, a.value source) = (name, v.form, v.inner) := Option.some.inj view
    obtain rfl : a.name = name := congrArg (·.1) same
    exact ⟨front, gap, lead, v, back, rfl, is, named, view?_of_placed none, (congrArg (·.2.1) same).symm,
      (congrArg (·.2.2) same).symm⟩

/-- An attribute starts with the first character of its name, whatever its value. -/
theorem exists_text_valued {name : Text} (nonempty : name ≠ []) (letters : ∀ c ∈ name, isAttributeChar c = true) :
    ∃ c, isBlank c = false ∧ ∀ gap lead v, ∃ u, (Piece.valued name gap lead v).text = c :: u := by
  obtain ⟨c, rest, rfl⟩ := List.exists_cons_of_ne_nil nonempty
  exact ⟨c, isBlank_of_isAttributeChar (letters c (List.mem_cons_self ..)), fun gap lead v => ⟨_, rfl⟩⟩

/-! ### A value in quotes -/

/-- **A value in quotes may be exchanged** for any other one that stands inside of them. -/
theorem exists_exchanged (laid : tag.HasLayout source ps) (read : readTag? source tag.start = some tag)
    (found : findAttribute? source tag names = some a) (literal : a.form = .literal q inBraces) :
    isQuote q = true ∧ IsInside (.quoted q) (a.value source) ∧
      ∀ new, IsInside (.quoted q) new → ∃ qs, tag.Admits source qs ∧
        splice source a.valueStart a.valueStop new = tag.withPieces source qs ∧
        Says names qs ps (a.name, a.form, new) := by
  have admits := laid.admits read
  obtain ⟨front, gap, lead, v, back, rfl, is, named, first, form, value⟩ :=
    exists_gives laid found (literal ▸ nofun)
  obtain ⟨nonempty, letters, gaps, leads, reads⟩ := laid.reading.reads
  have literal := form.trans literal
  obtain ⟨quote, string, -⟩ := ValueText.withInner_of_literal literal reads []
  refine ⟨quote, value ▸ string, fun new inside => ?_⟩
  obtain ⟨-, -, form', text', inner', quoted, reads'⟩ := ValueText.withInner_of_literal literal reads new
  have view' : (Piece.valued a.name gap lead (v.withInner new)).view? = some (a.name, a.form, new) := by
    rw [Piece.view?, inner', form', form]
  refine ⟨front ++ .valued a.name gap lead (v.withInner new) :: back, ?_, laid.splice_value is text',
    says_among named first rfl view' rfl⟩
  obtain ⟨c, noBlank, begins⟩ := exists_text_valued nonempty letters
  obtain ⟨u, old⟩ := begins gap lead v
  obtain ⟨u', fresh⟩ := begins gap lead (v.withInner new)
  exact admits.exchange ⟨nonempty, letters, gaps, leads, reads' inside⟩ (Piece.passes_valued quoted ..)
    old fresh noBlank

/-! ### A new attribute -/

/-- **A new attribute may be put into a tag** that has none of the names. -/
theorem exists_inserted (laid : tag.HasLayout source ps) (none : findAttribute? source tag names = none)
    {name new : Text} (named : name ∈ names) (nonempty : name ≠ [])
    (letters : ∀ c ∈ name, isAttributeChar c = true) (inside : IsInside (.quoted '"') new) :
    ∃ qs, tag.Admits source qs ∧
      splice source tag.nameStop tag.nameStop (' ' :: name ++ '=' :: '"' :: new ++ ['"']) =
        tag.withPieces source qs ∧
      Says names qs ps (name, .literal '"' false, new) := by
  unfold findAttribute? at none
  rw [laid.attributes] at none
  have unnamed : ∀ v ∈ ps.filterMap Piece.view?, isNamed names v = false :=
    view?_of_placed fun a mem => by simpa using List.find?_eq_none.mp none a mem
  have here : isNamed names (name, .literal '"' false, new) = true := List.contains_iff_mem.mpr named
  refine ⟨.mark ' ' :: .valued name [] [] (.quoted '"' new) :: ps, ⟨?_, ?_, ?_⟩, ?_, ?_, ?_⟩
  · have blank : isAttributeChar ' ' = false ∧ ' ' ≠ '{' ∧ ' ' ≠ '>' := by decide
    exact ⟨blank, ⟨nonempty, letters, nofun, nofun, rfl, inside⟩, laid.reading⟩
  · have blank : isInTag ' ' = true := rfl
    exact List.forall_mem_cons.mpr ⟨blank, List.forall_mem_cons.mpr ⟨trivial, laid.passes⟩⟩
  · rintro c ⟨⟩
    decide
  · have behind : source.drop tag.nameStop = layout ps ++ source.drop tag.close := by
      rw [laid.drop_close, laid.text]
    simp [splice, behind, Tag.withPieces, layout_cons, Piece.text, Piece.assignment, ValueText.text,
      ValueText.opening, ValueText.ending, ValueText.inner]
  · exact List.find?_cons_of_pos here
  · have first := List.eraseP_cons_of_pos (l := ps.filterMap Piece.view?) here
    exact first.trans (List.eraseP_of_forall_not fun v mem => by simp [unnamed v mem]).symm

/-! ### What is read from quotes -/

/-- What a value in quotes is: it stands inside of them. -/
theorem isInside_quoted {t : Text} {i n : Nat} (quote : isQuote q = true) (here : source.drop i = q :: t)
    (closed : closeFrom [.quoted q] t = some n) : IsInside (.quoted q) (slice source (i + 1) (i + n)) := by
  obtain ⟨u, rest, rfl, rfl, inside⟩ := exists_inside (proper_quoted quote) closed
  rw [slice, List.drop_take, drop_behind here, show i + (u.length + 1) - (i + 1) = u.length by omega, List.take_left]
  exact inside

/-- A string that is the whole of a value in braces. -/
theorem readBraced?_span {inside : Text} {close first last : Nat}
    (read : readBraced? inside = some (close, some (first, last, q))) :
    ∃ lead n rest, inside.drop lead = q :: rest ∧ isQuote q = true ∧ closeFrom [.quoted q] rest = some n ∧
      first = lead + 1 ∧ last = lead + n := by
  obtain ⟨close', -, read⟩ := Option.bind_eq_some_iff.mp read
  dsimp only at read
  split at read
  · rename_i c rest start
    split at read
    · rename_i quote
      split at read
      · rename_i n closed
        split at read
        · cases read
          exact ⟨_, n, rest, start, quote, closed, rfl, rfl⟩
        · cases read
      · cases read
    · cases read
  · cases read

theorem isInside_readValue? {t : Text} {k first last stop : Nat} (here : source.drop k = t)
    (read : readValue? k t = some (.literal q inBraces, first, last, stop)) :
    isQuote q = true ∧ IsInside (.quoted q) (slice source first last) := by
  unfold readValue? at read
  split at read
  · rename_i c rest
    split at read
    · rename_i quote
      obtain ⟨n, closed, eq⟩ := Option.map_eq_some_iff.mp read
      cases eq
      exact ⟨quote, isInside_quoted quote here closed⟩
    · split at read
      · obtain ⟨⟨close, span?⟩, braced, eq⟩ := Option.map_eq_some_iff.mp read
        cases span? with
        | none => cases eq
        | some span =>
          cases eq
          obtain ⟨lead, n, inside, start, quote, closed, first, last⟩ := readBraced?_span braced
          have here' : source.drop (k + 1 + lead) = span.2.2 :: inside := by
            rw [← List.drop_drop, drop_behind here, start]
          rw [first, last, ← Nat.add_assoc, ← Nat.add_assoc]
          exact ⟨quote, isInside_quoted quote here' closed⟩
      · cases read
  · cases read

theorem isInside_readAttribute? {t : Text} {j : Nat} (here : source.drop j = t) (read : readAttribute? j t = some a)
    (literal : a.form = .literal q inBraces) : isQuote q = true ∧ IsInside (.quoted q) (a.value source) := by
  unfold readAttribute? at read
  dsimp only at read
  split at read
  · rename_i rest start
    obtain ⟨⟨form, first, last, stop⟩, value, rfl⟩ := Option.map_eq_some_iff.mp read
    obtain rfl : form = .literal q inBraces := literal
    refine isInside_readValue? ?_ value
    subst here
    rw [List.drop_drop, List.drop_drop, ← Nat.add_assoc] at start
    rw [← List.drop_drop, drop_behind start]
  · cases read
    cases literal

theorem isInside_attributesFrom {limit skip j : Nat} {t : Text} (here : source.drop j = t)
    (mem : a ∈ attributesFrom limit skip j t) (literal : a.form = .literal q inBraces) :
    isQuote q = true ∧ IsInside (.quoted q) (a.value source) := by
  fun_induction attributesFrom limit skip j t
  case case1 | case3 | case6 | case8 => cases mem
  case case2 ih | case4 ih | case5 ih | case9 ih => exact ih (drop_behind here) mem
  case case7 read ih =>
    obtain rfl | later := List.mem_cons.mp mem
    · exact isInside_readAttribute? here read literal
    · exact ih (drop_behind here) later

/-- **A value that is read from quotes stands inside of them.** -/
theorem isInside_value (mem : a ∈ attributes source tag) (literal : a.form = .literal q inBraces) :
    isQuote q = true ∧ IsInside (.quoted q) (a.value source) :=
  isInside_attributesFrom rfl mem literal

end Retouch.Markup
