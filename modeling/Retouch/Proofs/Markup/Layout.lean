import Retouch.Proofs.Markup.Value

/-!
# How tags are laid out

Behind the name of a tag stand its pieces: attributes, spread blocks, and single characters between
them. `Piece.Reads` says when the reader of attributes takes a piece for what it is, and `Piece.Passes`
when the scanner of the tag does too. Pieces that do both are read back, in their order and in their
places (`attributesFrom_layout`), and the tag closes behind the last one (`closeFrom_layout`).
-/

namespace Retouch.Markup

open Retouch.Text

/-- A character of a tag that opens nothing and does not close the tag. -/
def isInTag (c : Char) : Bool := !(isOpener c || c == '>')

/-- A piece of a tag behind its name. -/
inductive Piece where
  /-- A character that belongs to no attribute. -/
  | mark (c : Char)
  /-- A block that belongs to no attribute. -/
  | spread (inside : Text)
  /-- An attribute without a value. -/
  | bare (name : Text)
  /-- An attribute with a value, and the blanks around its equals sign. -/
  | valued (name gap lead : Text) (value : ValueText)

namespace Piece

/-- The text of an attribute up to its value. -/
def assignment (name gap lead : Text) : Text := name ++ gap ++ '=' :: lead

/-- The text of a piece. -/
def text : Piece → Text
  | .mark c => [c]
  | .spread inside => '{' :: inside ++ ['}']
  | .bare name => name
  | .valued name gap lead v => assignment name gap lead ++ v.text

/-- The attribute that a piece at an offset is. -/
def attribute? (j : Nat) : Piece → Option Attribute
  | .mark _ | .spread _ => none
  | .bare name => some ⟨name, j, j + name.length, j + name.length, j + name.length, .bare⟩
  | .valued name gap lead v =>
    let k := j + (assignment name gap lead).length
    some ⟨name, j, k + v.text.length, k + v.opening.length, k + v.opening.length + v.inner.length, v.form⟩

/-- The reader of attributes takes the piece for what it is if `after` follows. -/
def Reads : Piece → Text → Prop
  | .mark c, _ => isAttributeChar c = false ∧ c ≠ '{' ∧ c ≠ '>'
  | .spread inside, _ => IsInside .block inside
  | .bare name, after =>
    name ≠ [] ∧ (∀ c ∈ name, isAttributeChar c = true) ∧
      (∀ c, after.head? = some c → isAttributeChar c = false) ∧
      (after.dropWhile isBlank).head? ≠ some '='
  | .valued name gap lead v, after =>
    name ≠ [] ∧ (∀ c ∈ name, isAttributeChar c = true) ∧ (∀ c ∈ gap, isBlank c = true) ∧
      (∀ c ∈ lead, isBlank c = true) ∧ v.Reads after

/-- The scanner of the tag takes the piece for what it is: outside of values and spreads, nothing
opens. -/
def Passes : Piece → Prop
  | .mark c => isInTag c = true
  | .valued _ _ _ (.unquoted t) => ∀ c ∈ t, isInTag c = true
  | _ => True

end Piece

/-! ### The scanner -/

theorem tag_ne_quoted (q : Char) : Opened.tag ≠ .quoted q := nofun

/-- Characters of a tag pass. -/
theorem closeFrom_inTag {u : Text} (plain : ∀ c ∈ u, isInTag c = true) (t : Text) :
    closeFrom [.tag] (u ++ t) = (closeFrom [.tag] t).map (u.length + ·) := by
  refine closeFrom_run tag_ne_quoted (fun c mem => ?_) [] t
  simpa [isInTag, Opened.closer] using plain c mem

/-- A character is one of a tag if it is of a class that holds no opener and not the closing
bracket. -/
theorem isInTag_of_class {p : Char → Bool} {c : Char} (is : p c = true)
    (none : ['"', '\'', backQuote, '{'].any p = false) (goes : p '>' = false) : isInTag c = true := by
  rw [isInTag, isOpener_of_class is none, beq_false_of_ne (ne_of_class is goes)]
  rfl

theorem isInTag_of_isAttributeChar {c : Char} (named : isAttributeChar c = true) :
    isInTag c = true := by
  simp_all [isInTag, isOpener, isAttributeChar]

/-- The text of an attribute up to its value passes. -/
theorem Piece.isInTag_assignment {name gap lead : Text} (named : ∀ c ∈ name, isAttributeChar c = true)
    (gaps : ∀ c ∈ gap, isBlank c = true) (leads : ∀ c ∈ lead, isBlank c = true) :
    ∀ c ∈ assignment name gap lead, isInTag c = true := by
  intro c mem
  unfold assignment at mem
  obtain mem | mem := List.mem_append.mp mem
  · obtain mem | mem := List.mem_append.mp mem
    · exact isInTag_of_isAttributeChar (named c mem)
    · exact isInTag_of_class (gaps c mem) (by decide) (by decide)
  · obtain rfl | mem := List.mem_cons.mp mem
    · decide
    · exact isInTag_of_class (leads c mem) (by decide) (by decide)

/-- A value with delimiters is a string or a block. -/
theorem ValueText.text_cases {v : ValueText} {after : Text} (reads : v.Reads after) :
    (∃ t, v = .unquoted t) ∨ ∃ c w, v.text = c :: (w ++ [(opensAs c).closer]) ∧ isOpener c = true ∧
      IsInside (opensAs c) w := by
  cases v with
  | unquoted t => exact Or.inl ⟨t, rfl⟩
  | quoted q inside =>
    obtain ⟨quote, string⟩ := reads
    refine Or.inr ⟨q, inside, ?_, isOpener_of_isQuote quote, ?_⟩
    · rw [opensAs_quote quote]
      rfl
    · rw [opensAs_quote quote]
      exact string
  | braced lead q inside trail =>
    obtain ⟨before, quote, string, behind⟩ := reads
    refine Or.inr ⟨'{', lead ++ q :: (inside ++ q :: trail), ?_, rfl,
      isInside_string before quote string behind⟩
    simp [text, opening, inner, ending]
    rfl
  | expression inside => exact Or.inr ⟨'{', inside, rfl, rfl, reads.1⟩

/-- A piece is plain characters of the tag, with at most one string or block behind them. -/
theorem Piece.text_cases {p : Piece} {after : Text} (reads : p.Reads after) (passes : p.Passes) :
    (∀ c ∈ p.text, isInTag c = true) ∨
      ∃ u c w, p.text = u ++ c :: (w ++ [(opensAs c).closer]) ∧ (∀ d ∈ u, isInTag d = true) ∧
        isOpener c = true ∧ IsInside (opensAs c) w := by
  cases p with
  | mark c => exact Or.inl fun d mem => List.mem_singleton.mp mem ▸ passes
  | spread inside => exact Or.inr ⟨[], '{', inside, rfl, nofun, rfl, reads⟩
  | bare name => exact Or.inl fun c mem => isInTag_of_isAttributeChar (reads.2.1 c mem)
  | valued name gap lead v =>
    obtain ⟨-, named, gaps, leads, value⟩ := reads
    have plain := isInTag_assignment named gaps leads
    obtain ⟨t, rfl⟩ | ⟨c, w, shape, opens, inside⟩ := ValueText.text_cases value
    · refine Or.inl fun c mem => ?_
      rw [text, show (ValueText.unquoted t).text = t from List.append_nil t] at mem
      exact (List.mem_append.mp mem).elim (plain c) (passes c)
    · exact Or.inr ⟨assignment name gap lead, c, w, congrArg _ shape, plain, opens, inside⟩

/-- A piece passes as a whole. -/
theorem Piece.closeFrom_text {p : Piece} {after : Text} (reads : p.Reads after) (passes : p.Passes)
    (t : Text) : closeFrom [.tag] (p.text ++ t) = (closeFrom [.tag] t).map (p.text.length + ·) := by
  obtain plain | ⟨u, c, w, shape, plain, opens, inside⟩ := Piece.text_cases reads passes
  · exact closeFrom_inTag plain t
  · have length : p.text.length = u.length + (w.length + 2) := by
      rw [shape, List.length_append, List.length_cons, List.length_append, List.length_singleton]
    rw [shape, List.append_assoc, List.cons_append, List.append_assoc, List.singleton_append,
      closeFrom_inTag plain, closeFrom_opener tag_ne_quoted opens inside, map_add_map, ← shape, length]

/-! ### The reader -/

theorem isBlank_of_isAttributeChar {c : Char} (named : isAttributeChar c = true) : isBlank c = false := by
  simp_all [isAttributeChar]

/-- A value does not start with a blank. -/
theorem ValueText.head_text {v : ValueText} {after : Text} (reads : v.Reads after) {c : Char}
    (head : (v.text ++ after).head? = some c) : isBlank c = false := by
  cases v with
  | unquoted t =>
    rw [show (ValueText.unquoted t).text = t from List.append_nil t] at head
    exact reads.2.2.1 c head
  | quoted q inside =>
    cases head
    exact isBlank_of_isOpener (by simp [isOpener, reads.1])
  | braced lead q inside trail =>
    cases head
    exact isBlank_of_isOpener (by decide)
  | expression inside =>
    cases head
    exact isBlank_of_isOpener (by decide)

namespace Piece

/-- An attribute without a value is read back. -/
theorem readAttribute?_bare {name after : Text} (reads : (Piece.bare name).Reads after) (j : Nat) :
    readAttribute? j (name ++ after) =
      some ⟨name, j, j + name.length, j + name.length, j + name.length, .bare⟩ := by
  obtain ⟨-, named, stops, noSign⟩ := reads
  unfold readAttribute?
  dsimp only
  rw [takeWhile_run named stops, List.drop_left, drop_length_takeWhile]
  split
  · rename_i rest sign
    rw [sign] at noSign
    exact absurd rfl noSign
  · rfl

/-- An attribute with a value is read back. -/
theorem readAttribute?_valued {name gap lead after : Text} {v : ValueText}
    (reads : (Piece.valued name gap lead v).Reads after) (j : Nat) :
    readAttribute? j (assignment name gap lead ++ v.text ++ after) =
      (Piece.valued name gap lead v).attribute? j := by
  obtain ⟨-, named, gaps, leads, value⟩ := reads
  have shape : assignment name gap lead ++ v.text ++ after =
      name ++ (gap ++ '=' :: (lead ++ (v.text ++ after))) := by
    simp [assignment]
  have nameStops : ∀ c, (gap ++ '=' :: (lead ++ (v.text ++ after))).head? = some c →
      isAttributeChar c = false := by
    intro c head
    cases gap with
    | nil =>
      cases head
      decide
    | cons d gap =>
      cases head
      refine Bool.eq_false_iff.mpr fun attr => ?_
      cases (gaps c (List.mem_cons_self ..)).symm.trans (isBlank_of_isAttributeChar attr)
  have gapStops : ∀ c, ('=' :: (lead ++ (v.text ++ after))).head? = some c → isBlank c = false := by
    intro c head
    cases head
    decide
  have leadStops : ∀ c, (v.text ++ after).head? = some c → isBlank c = false := fun c head =>
    ValueText.head_text value head
  have count : j + name.length + gap.length + 1 + lead.length =
      j + (assignment name gap lead).length := by
    simp only [assignment, List.length_append, List.length_cons]
    omega
  unfold readAttribute?
  dsimp only
  rw [shape, takeWhile_run named nameStops, List.drop_left, takeWhile_run gaps gapStops, List.drop_left]
  split
  · rename_i rest sign
    cases sign
    rw [takeWhile_run leads leadStops, List.drop_left, count, ValueText.readValue?_text value]
    rfl
  · rename_i noSign
    exact absurd rfl (noSign _)

end Piece

/-- The reader of attributes passes over what it has read. -/
theorem attributesFrom_skip (limit skip j : Nat) (t : Text) :
    attributesFrom limit skip j t = attributesFrom limit 0 (j + skip) (t.drop skip) := by
  induction skip generalizing j t with
  | zero => rfl
  | succ skip ih =>
    cases t with
    | nil =>
      rw [List.drop_nil]
      simp only [attributesFrom]
    | cons c t =>
      rw [attributesFrom, ih, List.drop_succ_cons, Nat.add_assoc j 1 skip, Nat.add_comm 1 skip]

/-- An attribute that is read, and the attributes behind it. -/
theorem attributesFrom_attribute {limit j : Nat} {u after : Text} {c : Char} {a : Attribute}
    (before : j < limit) (starts : u.head? = some c) (named : isAttributeChar c = true)
    (read : readAttribute? j (u ++ after) = some a) (stop : a.stop = j + u.length) :
    attributesFrom limit 0 j (u ++ after) = a :: attributesFrom limit 0 (j + u.length) after := by
  obtain ⟨u, rfl⟩ := List.head?_eq_some_iff.mp starts
  have noBlank := isBlank_of_isAttributeChar named
  have noSlash : (c == '/') = false := by simp_all [isAttributeChar]
  have noBrace : (c == '{') = false := by simp_all [isAttributeChar]
  rw [List.cons_append] at read ⊢
  rw [attributesFrom, if_neg (Nat.not_le.mpr before), if_neg (by simp [noBlank, noSlash]),
    if_neg (by simp [noBrace]), if_pos named, read]
  dsimp only
  rw [attributesFrom_skip, stop, List.length_cons,
    show j + (u.length + 1) - j - 1 = u.length by omega, List.drop_left,
    show j + 1 + u.length = j + (u.length + 1) by omega]

/-- **One piece is read**: the attribute that it is, if any, and the attributes behind it. -/
theorem Piece.attributesFrom_text {p : Piece} {after : Text} (reads : p.Reads after) {limit j : Nat}
    (before : j < limit) :
    attributesFrom limit 0 j (p.text ++ after) =
      (p.attribute? j).toList ++ attributesFrom limit 0 (j + p.text.length) after := by
  cases p with
  | mark c =>
    obtain ⟨noName, noBrace, -⟩ := reads
    show attributesFrom limit 0 j (c :: after) = attributesFrom limit 0 (j + 1) after
    rw [attributesFrom, if_neg (Nat.not_le.mpr before)]
    split
    · rfl
    · rw [if_neg (by simpa using noBrace), if_neg (Bool.eq_false_iff.mp noName)]
  | spread inside =>
    have closed : closeFrom [.block] (inside ++ ['}'] ++ after) = some (inside.length + 1) := by
      rw [List.append_assoc]
      exact IsInside.closeFrom_singleton reads proper_block after
    have length : (Piece.spread inside).text.length = inside.length + 2 := by simp [text]
    show attributesFrom limit 0 j ('{' :: (inside ++ ['}'] ++ after)) = attributesFrom limit 0 _ after
    rw [attributesFrom, if_neg (Nat.not_le.mpr before), if_neg (by decide), if_pos (by decide), closed]
    dsimp only
    rw [attributesFrom_skip, length, show inside.length + 1 = (inside ++ ['}']).length by simp,
      List.drop_left, show j + 1 + (inside ++ ['}']).length = j + (inside.length + 2) by simp; omega]
  | bare name =>
    obtain ⟨some, named, -⟩ := id reads
    obtain ⟨c, rest, rfl⟩ := List.exists_cons_of_ne_nil some
    exact attributesFrom_attribute before rfl (named c (List.mem_cons_self ..))
      (readAttribute?_bare reads j) rfl
  | valued name gap lead v =>
    obtain ⟨some, named, -⟩ := id reads
    obtain ⟨c, rest, rfl⟩ := List.exists_cons_of_ne_nil some
    refine attributesFrom_attribute before (by simp [text, assignment])
      (named c (List.mem_cons_self ..)) (readAttribute?_valued reads j) ?_
    simp only [text, List.length_append]
    omega

/-! ### Layouts -/

/-- The text of pieces one after the other. -/
def layout (ps : List Piece) : Text := ps.flatMap Piece.text

/-- The attributes that pieces from an offset on are. -/
def placed : Nat → List Piece → List Attribute
  | _, [] => []
  | j, p :: ps => (p.attribute? j).toList ++ placed (j + p.text.length) ps

/-- Every piece is read as what it is, given those behind it and `after`. -/
def Reading : List Piece → Text → Prop
  | [], _ => True
  | p :: ps, after => p.Reads (layout ps ++ after) ∧ Reading ps after

@[simp] theorem layout_nil : layout [] = [] := rfl

theorem layout_cons (p : Piece) (ps : List Piece) : layout (p :: ps) = p.text ++ layout ps := rfl

theorem layout_append (ps qs : List Piece) : layout (ps ++ qs) = layout ps ++ layout qs :=
  List.flatMap_append

theorem Piece.text_pos {p : Piece} {after : Text} (reads : p.Reads after) : 0 < p.text.length := by
  cases p with
  | mark | spread => exact Nat.succ_pos _
  | bare name => exact List.length_pos_iff.mpr reads.1
  | valued name gap lead v =>
    have := List.length_pos_iff.mpr reads.1
    simp only [text, assignment, List.length_append]
    omega

/-- The scanner passes over pieces. -/
theorem closeFrom_pieces {ps : List Piece} {after : Text} (reading : Reading ps after)
    (passes : ∀ p ∈ ps, p.Passes) :
    closeFrom [.tag] (layout ps ++ after) = (closeFrom [.tag] after).map ((layout ps).length + ·) := by
  induction ps with
  | nil => simp
  | cons p ps ih =>
    rw [layout_cons, List.append_assoc,
      Piece.closeFrom_text reading.1 (passes p (List.mem_cons_self ..)),
      ih reading.2 fun p mem => passes p (List.mem_cons_of_mem _ mem), map_add_map, List.length_append]

/-- **A tag closes behind its pieces.** -/
theorem closeFrom_layout {ps : List Piece} {after : Text} (reading : Reading ps ('>' :: after))
    (passes : ∀ p ∈ ps, p.Passes) :
    closeFrom [.tag] (layout ps ++ '>' :: after) = some ((layout ps).length + 1) := by
  have closes : closeFrom [.tag] ('>' :: after) = some 1 := by
    rw [closeFrom_step tag_ne_quoted]
    show (closeFrom [] after).map (· + 1) = _
    unfold closeFrom
    rfl
  rw [closeFrom_pieces reading passes, closes, Option.map_some]

/-- The reader of attributes takes the attributes that pieces are, and goes on behind them. -/
theorem attributesFrom_pieces {ps : List Piece} {after : Text} (reading : Reading ps after) {limit j : Nat}
    (before : j + (layout ps).length ≤ limit) :
    attributesFrom limit 0 j (layout ps ++ after) =
      placed j ps ++ attributesFrom limit 0 (j + (layout ps).length) after := by
  induction ps generalizing j with
  | nil => rfl
  | cons p ps ih =>
    have pos := Piece.text_pos reading.1
    rw [layout_cons, List.length_append] at before ⊢
    rw [List.append_assoc, Piece.attributesFrom_text reading.1 (by omega), ih reading.2 (by omega),
      ← Nat.add_assoc, placed, List.append_assoc]

/-- **The pieces of a tag are read back.** -/
theorem attributesFrom_layout {ps : List Piece} {after : Text} (reading : Reading ps ('>' :: after))
    (j : Nat) :
    attributesFrom (j + (layout ps).length) 0 j (layout ps ++ '>' :: after) = placed j ps := by
  rw [attributesFrom_pieces reading (Nat.le_refl _)]
  simp [attributesFrom]

end Retouch.Markup
