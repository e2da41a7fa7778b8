import Retouch.Proofs.Markup.Layout

/-!
# Tidy tags

The scanner of a tag and the reader of its attributes may see different things: a quote in a value
without delimiters opens a string for the scanner, but not for the reader. A tag is tidy if this does
not happen, that is, if every string and every block in it is the whole value of an attribute, or a
spread (`Tag.IsTidy`). Tidy tags are those whose text is a layout of pieces (`Tag.IsTidy.exists_layout`).
-/

namespace Retouch.Markup

open Retouch.Text

/-! ### What tidy tags are -/

/-- The spans of the strings and blocks in the text of a tag from offset `j` on, up to where the tag
closes. The first argument counts characters that are still to be passed over. -/
def partsFrom : Nat → Nat → Text → List (Nat × Nat)
  | _, _, [] => []
  | skip + 1, j, _ :: rest => partsFrom skip (j + 1) rest
  | 0, j, c :: rest =>
    if c == '>' then []
    else if isOpener c then
      match closeFrom [opensAs c] rest with
      | some n => (j, j + n + 1) :: partsFrom n (j + 1) rest
      | none => []
    else partsFrom 0 (j + 1) rest

/-- The spans of the strings and blocks in a tag, delimiters included. -/
def Tag.parts (tag : Tag) (source : Text) : List (Nat × Nat) :=
  partsFrom 0 tag.nameStop (source.drop tag.nameStop)

/-- The offset at which the value of an attribute starts, delimiters included: behind the name, the
equals sign and the blanks around it. -/
def Attribute.assigned (a : Attribute) (source : Text) : Nat :=
  let after := source.drop (a.start + a.name.length)
  let gap := (after.takeWhile isBlank).length
  let lead := ((after.drop (gap + 1)).takeWhile isBlank).length
  a.start + a.name.length + gap + 1 + lead

/-- Every one of the parts is the whole value of one of the attributes, or a block outside of all of
them. -/
def Accounts (source : Text) (attributes : List Attribute) (parts : List (Nat × Nat)) : Prop :=
  ∀ part ∈ parts,
    (∃ a ∈ attributes, part = (a.assigned source, a.stop)) ∨
      (source[part.1]? = some '{' ∧ ∀ a ∈ attributes, part.2 ≤ a.start ∨ a.stop ≤ part.1)

instance (source : Text) (attributes : List Attribute) (parts : List (Nat × Nat)) :
    Decidable (Accounts source attributes parts) :=
  inferInstanceAs (Decidable (∀ part ∈ parts, _))

/-- Every string and every block in the tag is the whole value of an attribute, or a spread. -/
def Tag.IsTidy (tag : Tag) (source : Text) : Prop :=
  Accounts source (attributes source tag) (tag.parts source)

instance (tag : Tag) (source : Text) : Decidable (tag.IsTidy source) :=
  inferInstanceAs (Decidable (Accounts ..))

/-! ### Strings and blocks of a tag -/

theorem partsFrom_skip (skip j : Nat) (t : Text) :
    partsFrom skip j t = partsFrom 0 (j + skip) (t.drop skip) := by
  induction skip generalizing j t with
  | zero => rfl
  | succ skip ih =>
    cases t with
    | nil =>
      rw [List.drop_nil]
      simp only [partsFrom]
    | cons c t =>
      rw [partsFrom, ih, List.drop_succ_cons, Nat.add_assoc j 1 skip, Nat.add_comm 1 skip]

/-- Characters of a tag are passed over. -/
theorem partsFrom_inTag {u : Text} (plain : ∀ c ∈ u, isInTag c = true) (j : Nat) (t : Text) :
    partsFrom 0 j (u ++ t) = partsFrom 0 (j + u.length) t := by
  induction u generalizing j with
  | nil => rfl
  | cons c u ih =>
    have here := plain c (List.mem_cons_self ..)
    unfold isInTag at here
    rw [Bool.not_eq_true', Bool.or_eq_false_iff] at here
    rw [List.cons_append, partsFrom, if_neg (by simp [here.2]), if_neg (by simp [here.1]),
      ih fun d mem => plain d (List.mem_cons_of_mem _ mem), List.length_cons, Nat.add_assoc j 1,
      Nat.add_comm 1]

/-- A string or a block is a part. -/
theorem partsFrom_opener {c : Char} {w : Text} (opens : isOpener c = true)
    (inside : IsInside (opensAs c) w) (j : Nat) (t : Text) :
    partsFrom 0 j (c :: (w ++ (opensAs c).closer :: t)) =
      (j, j + w.length + 2) :: partsFrom 0 (j + w.length + 2) t := by
  have goes : (c == '>') = false := by
    unfold isOpener isQuote at opens
    refine beq_false_of_ne ?_
    rintro rfl
    exact absurd opens (by decide)
  rw [partsFrom, if_neg (by simp [goes]), if_pos opens, inside.closeFrom_singleton (proper_opensAs c)]
  dsimp only
  rw [partsFrom_skip, ← List.drop_drop, List.drop_left, List.drop_succ_cons, List.drop_zero,
    show j + 1 + (w.length + 1) = j + w.length + 2 by omega]
  rfl

/-- Parts stand in order and are not empty. -/
theorem partsFrom_bounds {skip j : Nat} {t : Text} {part : Nat × Nat}
    (mem : part ∈ partsFrom skip j t) : j ≤ part.1 ∧ part.1 < part.2 := by
  fun_induction partsFrom skip j t with
  | case1 | case3 | case5 => cases mem
  | case2 _ _ _ _ ih | case6 _ _ _ _ _ ih =>
    have := ih mem
    omega
  | case4 j c rest _ _ n _ ih =>
    obtain rfl | later := List.mem_cons.mp mem
    · exact ⟨Nat.le_refl j, by dsimp only; omega⟩
    · have := ih later
      omega

/-- Attributes stand in order. -/
theorem attributesFrom_start {limit skip j : Nat} {t : Text} {a : Attribute}
    (mem : a ∈ attributesFrom limit skip j t) : j ≤ a.start := by
  fun_induction attributesFrom limit skip j t
  case case1 | case3 | case6 | case8 => cases mem
  case case2 ih | case4 ih | case5 ih | case9 ih => exact Nat.le_of_succ_le (ih mem)
  case case7 read ih =>
    obtain rfl | later := List.mem_cons.mp mem
    · unfold readAttribute? at read
      dsimp only at read
      split at read
      · obtain ⟨_, -, rfl⟩ := Option.map_eq_some_iff.mp read
        exact Nat.le_refl _
      · cases read
        exact Nat.le_refl _
    · exact Nat.le_of_succ_le (ih later)

theorem Attribute.start_lt_assigned (a : Attribute) (source : Text) : a.start < a.assigned source := by
  unfold assigned
  dsimp only
  omega

/-! ### Pieces from the text of a tag -/

/-- A text without blanks in front starts with a value if a string or a block at its start closes. -/
theorem exists_valueText {t : Text} (starts : ∀ c, t.head? = some c → isBlank c = false)
    (closes : ∀ c rest, t = c :: rest → isOpener c = true → ∃ n, closeFrom [opensAs c] rest = some n) :
    ∃ v after, t = ValueText.text v ++ after ∧ v.Reads after := by
  by_cases opener : ∃ c rest, t = c :: rest ∧ isOpener c = true
  · obtain ⟨c, rest, rfl, opens⟩ := opener
    obtain ⟨n, closed⟩ := closes c rest rfl opens
    obtain ⟨u, after, rfl, -, inside⟩ := exists_inside (proper_opensAs c) closed
    by_cases quote : isQuote c = true
    · rw [opensAs_quote quote] at inside ⊢
      refine ⟨.quoted c u, after, ?_, quote, inside⟩
      simp [ValueText.text, ValueText.opening, ValueText.inner, ValueText.ending, Opened.closer]
    · obtain rfl : c = '{' := by simpa [isOpener, quote] using opens
      rw [show opensAs '{' = .block from rfl] at inside ⊢
      by_cases string : IsOneString u
      · obtain ⟨lead, q, v, trail, rfl, before, quote, string, behind⟩ := string
        refine ⟨.braced lead q v trail, after, ?_, before, quote, string, behind⟩
        simp [ValueText.text, ValueText.opening, ValueText.inner, ValueText.ending, Opened.closer]
      · refine ⟨.expression u, after, ?_, inside, string⟩
        simp [ValueText.text, ValueText.opening, ValueText.inner, ValueText.ending, Opened.closer]
  · obtain ⟨run, after, split, unquoted, stops⟩ := exists_run ValueText.isUnquotedChar t
    rw [split] at starts
    refine ⟨.unquoted run, after, ?_, unquoted, ?_, starts, stops⟩
    · rw [split]
      exact congrArg (· ++ after) (List.append_nil run).symm
    · rw [← split]
      intro d head
      obtain ⟨rest, rfl⟩ := List.head?_eq_some_iff.mp head
      exact Bool.eq_false_iff.mpr fun opens => opener ⟨d, rest, rfl, opens⟩

/-- A value is read from the text of a tag that closes. -/
theorem exists_value {t : Text} {n : Nat} (closed : closeFrom [.tag] t = some n)
    (starts : ∀ c, t.head? = some c → isBlank c = false) :
    ∃ v after, t = ValueText.text v ++ after ∧ v.Reads after := by
  refine exists_valueText starts fun c rest shape opens => ?_
  rw [shape] at closed
  obtain ⟨u, after, k, rfl, inside, -⟩ := exists_closed tag_ne_quoted opens closed
  exact ⟨_, inside.closeFrom_singleton (proper_opensAs c) after⟩

/-- A piece is read from the text of a tag that closes. -/
theorem exists_piece {c : Char} {rest : Text} {n : Nat} (closed : closeFrom [.tag] (c :: rest) = some n)
    (goes : c ≠ '>') : ∃ p after, c :: rest = Piece.text p ++ after ∧ p.Reads after := by
  by_cases brace : c = '{'
  · subst brace
    obtain ⟨u, after, k, rfl, inside, -⟩ := exists_closed tag_ne_quoted (by decide) closed
    rw [show opensAs '{' = .block from rfl] at inside ⊢
    exact ⟨.spread u, after, by simp [Piece.text, Opened.closer], inside⟩
  by_cases named : isAttributeChar c = true
  · obtain ⟨name, t, split, run, nameStops⟩ := exists_run isAttributeChar (c :: rest)
    have nonempty : name ≠ [] := by
      rintro rfl
      cases named.symm.trans (nameStops c (by rw [← List.nil_append t, ← split]; rfl))
    rw [split] at closed ⊢
    by_cases sign : (t.dropWhile isBlank).head? = some '='
    · obtain ⟨gap, t, rfl, gaps, gapStops⟩ := exists_run isBlank t
      rw [dropWhile_run gaps gapStops] at sign
      obtain ⟨t, rfl⟩ := List.head?_eq_some_iff.mp sign
      obtain ⟨lead, t, rfl, leads, leadStops⟩ := exists_run isBlank t
      have shape : name ++ (gap ++ '=' :: (lead ++ t)) = Piece.assignment name gap lead ++ t := by
        simp [Piece.assignment]
      rw [shape] at closed ⊢
      rw [closeFrom_inTag (Piece.isInTag_assignment run gaps leads)] at closed
      obtain ⟨m, closed, -⟩ := Option.map_eq_some_iff.mp closed
      obtain ⟨v, after, rfl, value⟩ := exists_value closed leadStops
      exact ⟨.valued name gap lead v, after, (List.append_assoc ..).symm, nonempty, run, gaps, leads,
        value⟩
    · exact ⟨.bare name, t, rfl, nonempty, run, nameStops, sign⟩
  · exact ⟨.mark c, rest, rfl, by simpa using named, brace, goes⟩

/-! ### Tidy tags are laid out -/

/-- The attribute that a piece is starts and ends with it. -/
theorem Piece.attribute?_span {p : Piece} {j : Nat} {a : Attribute} (is : p.attribute? j = some a) :
    a.start = j ∧ a.stop = j + p.text.length := by
  cases p with
  | mark | spread => cases is
  | bare name =>
    cases is
    exact ⟨rfl, rfl⟩
  | valued name gap lead v =>
    cases is
    exact ⟨rfl, by simp only [text, List.length_append, Nat.add_assoc]⟩

/-- The value of an attribute starts behind its equals sign. -/
theorem Piece.assigned_valued {source name gap lead after : Text} {v : ValueText} {j : Nat}
    (reads : (Piece.valued name gap lead v).Reads after)
    (here : source.drop j = (Piece.valued name gap lead v).text ++ after) {a : Attribute}
    (is : (Piece.valued name gap lead v).attribute? j = some a) :
    a.assigned source = j + (assignment name gap lead).length := by
  obtain ⟨-, -, gaps, leads, value⟩ := reads
  cases is
  unfold Attribute.assigned
  have behind : source.drop (j + name.length) = gap ++ '=' :: (lead ++ (v.text ++ after)) := by
    rw [← List.drop_drop, here]
    simp [text, assignment]
  have gapStops : ∀ c, ('=' :: (lead ++ (v.text ++ after))).head? = some c → isBlank c = false := by
    rintro c ⟨⟩
    decide
  dsimp only
  rw [behind, takeWhile_run gaps gapStops, ← List.drop_drop, List.drop_left, List.drop_succ_cons,
    List.drop_zero, takeWhile_run leads fun c head => ValueText.head_text value head]
  simp only [assignment, List.length_append, List.length_cons]
  omega

/-- The parts behind a piece are parts. -/
theorem Piece.mem_partsFrom {p : Piece} {after : Text} (reads : p.Reads after) (passes : p.Passes)
    {j : Nat} {t : Text} {part : Nat × Nat} (mem : part ∈ partsFrom 0 (j + p.text.length) t) :
    part ∈ partsFrom 0 j (p.text ++ t) := by
  obtain plain | ⟨u, c, w, shape, plain, opens, inside⟩ := Piece.text_cases reads passes
  · rw [partsFrom_inTag plain]
    exact mem
  · have length : j + p.text.length = j + u.length + w.length + 2 := by
      rw [shape, List.length_append, List.length_cons, List.length_append, List.length_singleton]
      omega
    rw [shape, List.append_assoc, List.cons_append, List.append_assoc, List.singleton_append,
      partsFrom_inTag plain, partsFrom_opener opens inside]
    rw [length] at mem
    exact List.mem_cons_of_mem _ mem

/-- What accounts for the parts of a text accounts for those behind a piece. -/
theorem Accounts.behind {source after : Text} {p : Piece} {limit j : Nat} (reads : p.Reads after)
    (passes : p.Passes) (before : j < limit)
    (accounts : Accounts source (attributesFrom limit 0 j (p.text ++ after))
      (partsFrom 0 j (p.text ++ after))) :
    Accounts source (attributesFrom limit 0 (j + p.text.length) after)
      (partsFrom 0 (j + p.text.length) after) := by
  rw [Piece.attributesFrom_text reads before] at accounts
  intro part mem
  obtain ⟨starts, filled⟩ := partsFrom_bounds mem
  obtain ⟨a, listed, whole⟩ | ⟨brace, outside⟩ := accounts part (Piece.mem_partsFrom reads passes mem)
  · obtain here | later := List.mem_append.mp listed
    · obtain ⟨-, stop⟩ := Piece.attribute?_span (Option.mem_toList.mp here)
      rw [whole] at starts filled
      dsimp only at starts filled
      omega
    · exact Or.inl ⟨a, later, whole⟩
  · exact Or.inr ⟨brace, fun a later => outside a (List.mem_append_right _ later)⟩

/-- Where a string or a block opens in a tag that closes, there is a part. -/
theorem exists_part {u rest : Text} {c : Char} {n : Nat} (plain : ∀ d ∈ u, isInTag d = true)
    (opens : isOpener c = true) (closed : closeFrom [.tag] (u ++ c :: rest) = some n) (j : Nat) :
    ∃ stop, (j + u.length, stop) ∈ partsFrom 0 j (u ++ c :: rest) := by
  rw [closeFrom_inTag plain] at closed
  obtain ⟨m, closed, -⟩ := Option.map_eq_some_iff.mp closed
  obtain ⟨w, after, -, rfl, inside, -⟩ := exists_closed tag_ne_quoted opens closed
  rw [partsFrom_inTag plain, partsFrom_opener opens inside]
  exact ⟨_, List.mem_cons_self ..⟩

/-- A part that is accounted for does not start within the value of an attribute, if not with it. -/
theorem Accounts.stop_le {source : Text} {a : Attribute} {others : List Attribute}
    {parts : List (Nat × Nat)} {part : Nat × Nat} (accounts : Accounts source (a :: others) parts)
    (mem : part ∈ parts) (filled : part.1 < part.2) (later : ∀ b ∈ others, a.stop ≤ b.start)
    (starts : a.assigned source < part.1) : a.stop ≤ part.1 := by
  obtain ⟨b, listed, whole⟩ | ⟨-, outside⟩ := accounts part mem
  · have same : part.1 = b.assigned source := congrArg Prod.fst whole
    obtain rfl | listed := List.mem_cons.mp listed
    · omega
    · have := later b listed
      have := b.start_lt_assigned source
      omega
  · have := a.start_lt_assigned source
    have := outside a (List.mem_cons_self ..)
    omega

/-- A value without delimiters is of the tag, up to an opener within it. -/
theorem ValueText.exists_opener {t after : Text} (reads : (ValueText.unquoted t).Reads after) :
    (∀ c ∈ t, isInTag c = true) ∨
      ∃ u c rest, t = u ++ c :: rest ∧ u ≠ [] ∧ (∀ d ∈ u, isInTag d = true) ∧ isOpener c = true := by
  obtain ⟨unquoted, noOpener, -⟩ := reads
  obtain ⟨u, rest, rfl, run, stops⟩ := exists_run isInTag t
  obtain _ | ⟨c, rest⟩ := rest
  · rw [List.append_nil]
    exact Or.inl run
  have opens : isOpener c = true := by
    have := unquoted c (List.mem_append_right _ (List.mem_cons_self ..))
    have := stops c rfl
    simp_all [isInTag, isUnquotedChar]
  refine Or.inr ⟨u, c, rest, rfl, ?_, run, opens⟩
  rintro rfl
  cases opens.symm.trans (noOpener c rfl)

/-- In a text whose parts are accounted for, the first piece passes. -/
theorem Piece.passes_of_accounts {source after : Text} {p : Piece} {limit j n : Nat}
    (reads : p.Reads after) (here : source.drop j = p.text ++ after) (before : j < limit)
    (closed : closeFrom [.tag] (p.text ++ after) = some n)
    (accounts : Accounts source (attributesFrom limit 0 j (p.text ++ after))
      (partsFrom 0 j (p.text ++ after))) : p.Passes := by
  rw [Piece.attributesFrom_text reads before] at accounts
  cases p with
  | spread | bare => trivial
  | mark c =>
    obtain ⟨-, noBrace, goes⟩ := reads
    refine Classical.byContradiction fun stops => ?_
    have opens : isOpener c = true := by simpa [Passes, isInTag, goes] using stops
    obtain ⟨stop, part⟩ := exists_part (u := []) (List.forall_mem_nil _) opens closed j
    obtain ⟨a, listed, whole⟩ | ⟨brace, -⟩ := accounts _ part
    · -- the attributes stand behind the character
      have later := attributesFrom_start (listed : a ∈ attributesFrom limit 0 (j + 1) _)
      have := a.start_lt_assigned source
      have start : j = a.assigned source := congrArg Prod.fst whole
      omega
    · rw [← List.getElem?_drop, here] at brace
      exact noBrace (Option.some.inj brace)
  | valued name gap lead v =>
    cases v with
    | quoted | braced | expression => trivial
    | unquoted t =>
      obtain run | ⟨u, c, rest, rfl, nonempty, run, opens⟩ := ValueText.exists_opener reads.2.2.2.2
      · exact run
      exfalso
      obtain ⟨a, is⟩ : ∃ a, (Piece.valued name gap lead (.unquoted (u ++ c :: rest))).attribute? j =
        some a := ⟨_, rfl⟩
      obtain ⟨-, stop⟩ := Piece.attribute?_span is
      have assigned := Piece.assigned_valued reads here is
      obtain ⟨-, named, gaps, leads, -⟩ := reads
      rw [is] at accounts
      have text : (Piece.valued name gap lead (.unquoted (u ++ c :: rest))).text =
          (assignment name gap lead ++ u) ++ c :: rest := by
        simp [Piece.text, ValueText.text, ValueText.opening, ValueText.inner, ValueText.ending]
      have shape : (Piece.valued name gap lead (.unquoted (u ++ c :: rest))).text ++ after =
          (assignment name gap lead ++ u) ++ c :: (rest ++ after) := by
        rw [text, List.append_assoc, List.cons_append]
      have plain : ∀ d ∈ assignment name gap lead ++ u, isInTag d = true := fun d mem =>
        (List.mem_append.mp mem).elim (isInTag_assignment named gaps leads d) (run d)
      rw [shape] at closed accounts
      -- where the opener stands, a part starts in the middle of this value
      obtain ⟨_, part⟩ := exists_part plain opens closed j
      have within := accounts.stop_le part (partsFrom_bounds part).2
        (fun b later => stop ▸ attributesFrom_start later)
      have := List.length_pos_iff.mpr nonempty
      rw [text] at stop
      simp only [List.length_append, List.length_cons] at stop within
      omega

/-- The text of a tag is a layout if its parts are accounted for. -/
theorem exists_layout {source : Text} {limit : Nat} (size : Nat) {j n : Nat} {t : Text}
    (small : t.length ≤ size) (here : source.drop j = t) (closed : closeFrom [.tag] t = some (n + 1))
    (stop : limit = j + n)
    (accounts : Accounts source (attributesFrom limit 0 j t) (partsFrom 0 j t)) :
    ∃ ps after, t = layout ps ++ '>' :: after ∧ Reading ps ('>' :: after) ∧ ∀ p ∈ ps, p.Passes := by
  induction size generalizing j n t with
  | zero =>
    obtain rfl := List.eq_nil_of_length_eq_zero (Nat.le_zero.mp small)
    unfold closeFrom at closed
    cases closed
  | succ size ih =>
    obtain _ | ⟨c, rest⟩ := t
    · unfold closeFrom at closed
      cases closed
    by_cases goes : c = '>'
    · subst goes
      exact ⟨[], rest, rfl, trivial, List.forall_mem_nil _⟩
    have before : j < limit := by
      refine Nat.lt_of_not_le fun le => goes ?_
      obtain rfl : n = 0 := by omega
      have last : (c :: rest)[0]? = some Opened.tag.closer := getElem?_closeFrom rfl closed
      exact Option.some.inj last
    obtain ⟨p, after, shape, reads⟩ := exists_piece closed goes
    rw [shape] at small here closed accounts ⊢
    have pos := Piece.text_pos reads
    have passes := Piece.passes_of_accounts reads here before closed accounts
    rw [Piece.closeFrom_text reads passes] at closed
    obtain ⟨m, closed, length⟩ := Option.map_eq_some_iff.mp closed
    have open' := closeFrom_pos (List.cons_ne_nil _ _) closed
    obtain ⟨m, rfl⟩ : ∃ k, m = k + 1 := ⟨m - 1, by omega⟩
    rw [List.length_append] at small
    obtain ⟨ps, after, rfl, reading, all⟩ := ih (by omega)
      (by rw [← List.drop_drop, here, List.drop_left]) closed (by omega)
      (accounts.behind reads passes before)
    refine ⟨p :: ps, after, ?_, ⟨reads, reading⟩, ?_⟩
    · rw [layout_cons, List.append_assoc]
    · rintro q mem
      obtain rfl | later := List.mem_cons.mp mem
      · exact passes
      · exact all q later

/-- The text of a tag behind its name is a layout of pieces. -/
structure Tag.HasLayout (tag : Tag) (source : Text) (ps : List Piece) : Prop where
  /-- The pieces stand behind the name, and the closing bracket behind them. -/
  text : source.drop tag.nameStop = layout ps ++ '>' :: source.drop (tag.close + 1)
  /-- The tag closes there. -/
  close : tag.close = tag.nameStop + (layout ps).length
  /-- The pieces are read as what they are. -/
  reading : Reading ps ('>' :: source.drop (tag.close + 1))
  /-- So they are by the scanner. -/
  passes : ∀ p ∈ ps, p.Passes

/-- The pieces of a tag are its attributes. -/
theorem Tag.HasLayout.attributes {tag : Tag} {source : Text} {ps : List Piece}
    (laid : tag.HasLayout source ps) : attributes source tag = placed tag.nameStop ps := by
  have read := attributesFrom_layout laid.reading tag.nameStop
  rw [← laid.close, ← laid.text] at read
  exact read

/-- The first character of an element's name and the other ones are characters of a tag. -/
theorem isInTag_name {c : Char} {name : Text} (starts : isNameStart c = true)
    (run : ∀ d ∈ name, isNameChar d = true) : ∀ d ∈ c :: name, isInTag d = true := by
  intro d mem
  obtain rfl | mem := List.mem_cons.mp mem
  · exact isInTag_of_class starts (by decide) (by decide)
  · exact isInTag_of_class (run d mem) (by decide) (by decide)

/-- **When a tag is read**: behind the opening bracket stand a name and a text that closes the tag. -/
theorem readTag?_iff {source : Text} {tag : Tag} {i : Nat} :
    readTag? source i = some tag ↔
      ∃ c name t n, source.drop i = '<' :: c :: (name ++ t) ∧
        opensTag (charBefore? source i) ['<', c] = true ∧ isNameStart c = true ∧
        (∀ d ∈ name, isNameChar d = true) ∧ (∀ d, t.head? = some d → isNameChar d = false) ∧
        closeFrom [.tag] t = some n ∧ tag = ⟨i, i + ((c :: name).length + n), c :: name⟩ := by
  unfold readTag?
  constructor
  · intro read
    split at read
    · rename_i c rest here
      obtain ⟨name, t, rfl, run, stops⟩ := exists_run isNameChar rest
      split at read
      · rename_i opens
        obtain ⟨opens, starts⟩ := Bool.and_eq_true_iff.mp opens
        rw [← List.cons_append, closeFrom_inTag (isInTag_name starts run),
          takeWhile_run run stops] at read
        obtain ⟨m, whole, rfl⟩ := Option.map_eq_some_iff.mp read
        obtain ⟨n, closed, rfl⟩ := Option.map_eq_some_iff.mp whole
        exact ⟨c, name, t, n, here, opens, starts, run, stops, closed, rfl⟩
      · cases read
    · cases read
  · rintro ⟨c, name, t, n, here, opens, starts, run, stops, closed, rfl⟩
    rw [here]
    split
    · rename_i same
      cases same
      have opens : opensTag (charBefore? source i) ('<' :: c :: (name ++ t)) = true := opens
      rw [if_pos (Bool.and_eq_true_iff.mpr ⟨opens, starts⟩), ← List.cons_append,
        closeFrom_inTag (isInTag_name starts run), takeWhile_run run stops, closed]
      rfl
    · rename_i other
      exact absurd rfl (other c _)

/-- What stands behind the name of a tag. -/
theorem drop_nameStop {source t name : Text} {c : Char} {i n : Nat}
    (here : source.drop i = '<' :: c :: (name ++ t)) :
    source.drop (Tag.nameStop ⟨i, n, c :: name⟩) = t := by
  unfold Tag.nameStop
  dsimp only
  rw [Nat.add_assoc, ← List.drop_drop, here, Nat.add_comm 1, List.drop_succ_cons, ← List.cons_append,
    List.drop_left]

/-- **A tidy tag is laid out**: behind its name stand pieces that are read as what they are. -/
theorem Tag.IsTidy.exists_layout {source : Text} {tag : Tag}
    (read : readTag? source tag.start = some tag) (tidy : tag.IsTidy source) :
    ∃ ps, tag.HasLayout source ps := by
  obtain ⟨c, name, t, n, here, -, -, -, -, closed, eq⟩ := readTag?_iff.mp read
  have behind : source.drop tag.nameStop = t := by
    rw [eq]
    exact drop_nameStop here
  have close : tag.close + 1 = tag.nameStop + n := by
    rw [eq]
    unfold nameStop
    dsimp only
    omega
  have pos := closeFrom_pos (List.cons_ne_nil _ _) closed
  obtain ⟨n, rfl⟩ : ∃ k, n = k + 1 := ⟨n - 1, by omega⟩
  unfold Tag.IsTidy Markup.attributes Tag.parts at tidy
  rw [behind] at tidy
  obtain ⟨ps, after, rfl, reading, passes⟩ :=
    Markup.exists_layout t.length (Nat.le_refl _) behind closed (by omega) tidy
  rw [closeFrom_layout reading passes] at closed
  have close : tag.close = tag.nameStop + (layout ps).length := by
    have := Option.some.inj closed
    omega
  have after : source.drop (tag.close + 1) = after := by
    rw [close, Nat.add_assoc, ← List.drop_drop, behind, ← List.drop_drop, List.drop_left]
    rfl
  exact ⟨ps, by rw [behind, after], close, by rwa [after], passes⟩

end Retouch.Markup
