import Retouch.Proofs.Markup.Exchanged

/-!
# Values without delimiters exchanged

A value without delimiters ends where the reader of attributes stops, whatever was written there. If it is
exchanged for other characters of a tag, the tag is read in the same place, and the attribute says what the reader
takes from behind its equals sign (`valueAhead?`, `Gives.read_unquoted`). That is the new value, and the rest of
the tag is as it was, if the reader goes on over all of it and stops behind it (`Gives.exists_unquoted`); a value
of no characters leaves it to the text behind what is read (`Gives.exists_emptied`).
-/

namespace Retouch.Markup

open Retouch.Text

/-! ### What is read behind an equals sign -/

/-- The value that the reader of attributes takes from a text behind an equals sign. -/
def valueAhead? (t : Text) : Option Text :=
  (readValue? 0 (stripStart t)).map fun (_, first, last, _) => slice (stripStart t) first last

/-- Blanks in front are passed over. -/
theorem valueAhead?_blanks {blanks : Text} (run : ∀ c ∈ blanks, isBlank c = true) (t : Text) :
    valueAhead? (blanks ++ t) = valueAhead? t := by
  have same : stripStart (blanks ++ t) = stripStart t := List.dropWhile_append_of_pos run
  rw [valueAhead?, same, valueAhead?]

/-- A value that is written is read. -/
theorem valueAhead?_text {v : ValueText} {after : Text} (reads : v.Reads after) :
    valueAhead? (v.text ++ after) = some v.inner := by
  have start : stripStart (v.text ++ after) = v.text ++ after := by
    show ([] ++ (v.text ++ after)).dropWhile isBlank = v.text ++ after
    exact dropWhile_run (List.forall_mem_nil _) fun c head => ValueText.head_text reads head
  have shape : v.text ++ after = v.opening ++ (v.inner ++ (v.ending ++ after)) := by simp [ValueText.text]
  rw [valueAhead?, start, ValueText.readValue?_text reads, Option.map_some]
  dsimp only
  rw [slice, List.drop_take, Nat.add_sub_cancel_left, Nat.zero_add, shape, List.drop_left, List.take_left]

/-- A text that starts with a character of a value without delimiters has that character in its value. -/
theorem valueAhead?_ne_nil {c : Char} {t : Text} (unquoted : ValueText.isUnquotedChar c = true)
    (plain : isOpener c = false) : valueAhead? (c :: t) ≠ some [] := by
  have noBlank : isBlank c = false := by simp_all [ValueText.isUnquotedChar]
  obtain ⟨run, rest, split, chars, stops⟩ := exists_run ValueText.isUnquotedChar (c :: t)
  have starts : ∀ d, (run ++ rest).head? = some d → d = c := by
    rintro d head
    rw [← split] at head
    exact (Option.some.inj head).symm
  have read : valueAhead? ((ValueText.unquoted run).text ++ rest) = some run :=
    valueAhead?_text ⟨chars, fun d head => starts d head ▸ plain,
      fun d head => starts d head ▸ noBlank, stops⟩
  rw [show (ValueText.unquoted run).text = run from List.append_nil run, ← split] at read
  rw [read]
  rintro ⟨⟩
  cases unquoted.symm.trans (stops c (by rw [← List.nil_append rest, ← split]; rfl))

/-- A value in which a slash stands ends before it. -/
theorem valueAhead?_slash {value after : Text} (plain : ∀ c ∈ value, isOpener c = false ∧ isBlank c = false)
    (slash : '/' ∈ value) : valueAhead? (value ++ after) ≠ some value := by
  have starts : ∀ d, (value ++ after).head? = some d → d ∈ value := fun d head =>
    List.mem_of_head? (List.head?_append_of_ne_nil _ (List.ne_nil_of_mem slash) ▸ head)
  obtain ⟨run, rest, rfl, chars, stops⟩ := exists_run ValueText.isUnquotedChar value
  obtain _ | ⟨c, rest⟩ := rest
  · rw [List.append_nil] at slash
    cases chars _ slash
  rw [List.append_assoc] at starts ⊢
  have read : valueAhead? ((ValueText.unquoted run).text ++ (c :: rest ++ after)) = some run :=
    valueAhead?_text ⟨chars, fun d head => (plain d (starts d head)).1, fun d head => (plain d (starts d head)).2,
      fun d head => stops d head⟩
  rw [show (ValueText.unquoted run).text = run from List.append_nil run] at read
  rw [read]
  intro whole
  have length := congrArg List.length (Option.some.inj whole)
  simp at length

/-! ### Other characters for a value -/

/-- The first attribute of the names is found behind pieces that are not of them, whatever follows. -/
theorem findAttribute?_behind {source after : Text} {tag : Tag} {names : List Text} {front : List Piece} {p : Piece}
    {view : Text × AttributeForm × Text} (here : source.drop tag.nameStop = layout front ++ (p.text ++ after))
    (before : Reading front (p.text ++ after)) (reads : p.Reads after)
    (starts : tag.nameStop + (layout front).length < tag.close)
    (none : ∀ w ∈ front.filterMap Piece.view?, isNamed names w = false) (said : p.view? = some view)
    (named : isNamed names view = true) : (findAttribute? source tag names).map (·.view source) = some view := by
  have first := map_view_placed here
  have next : (p.attribute? (tag.nameStop + (layout front).length)).map (·.view source) = p.view? :=
    Piece.map_view_attribute? (by rw [← List.drop_drop, here, List.drop_left])
  have views : (findAttribute? source tag names).map (·.view source) =
      ((attributes source tag).map (·.view source)).find? (isNamed names) := by
    rw [List.find?_map]
    rfl
  rw [views, attributes, here, attributesFrom_pieces before (Nat.le_of_lt starts),
    Piece.attributesFrom_text reads starts, List.map_append, first, List.map_append, ← Option.toList_map, next, said,
    List.find?_append, List.find?_eq_none.mpr fun w mem => by simp [none w mem], Option.none_or, Option.toList_some,
    List.singleton_append, List.find?_cons_of_pos named]

theorem ValueText.eq_unquoted {v : ValueText} (form : v.form = .unquoted) : v = .unquoted v.inner := by
  cases v with
  | unquoted t => rfl
  | quoted | braced | expression => cases form

namespace Gives

variable {source gap lead new : Text} {tag : Tag} {names : List Text} {ps front back : List Piece} {a : Attribute}
  {v : ValueText}

/-- What stands behind the value. -/
theorem drop_valueStop (laid : tag.HasLayout source ps) (gives : Gives names source tag ps a front gap lead v back)
    (unquoted : a.form = .unquoted) :
    source.drop a.valueStop = layout back ++ '>' :: source.drop (tag.close + 1) := by
  obtain ⟨rfl, is, -, -, form, -⟩ := gives
  obtain ⟨t, rfl⟩ : ∃ t, v = .unquoted t := ⟨_, ValueText.eq_unquoted (form.trans unquoted)⟩
  have stop : a.valueStop = tag.nameStop + (layout front ++ (Piece.assignment a.name gap lead ++ t)).length := by
    have span := congrArg (fun b => b.map (·.valueStop)) is
    rw [List.length_append, List.length_append, ← Nat.add_assoc, ← Nat.add_assoc]
    exact (Option.some.inj span).symm
  have shape : layout (front ++ .valued a.name gap lead (.unquoted t) :: back) =
      layout front ++ (Piece.assignment a.name gap lead ++ t) ++ layout back := by
    simp [layout_append, layout_cons, Piece.text, ValueText.text, ValueText.opening, ValueText.inner,
      ValueText.ending]
  rw [stop, ← List.drop_drop, laid.text, shape, List.append_assoc _ (layout back), List.drop_left]

/-- Other characters for the value are another piece. -/
theorem splice_unquoted (laid : tag.HasLayout source ps) (gives : Gives names source tag ps a front gap lead v back)
    (unquoted : a.form = .unquoted) (new : Text) :
    splice source a.valueStart a.valueStop new =
      tag.withPieces source (front ++ .valued a.name gap lead (.unquoted new) :: back) := by
  obtain ⟨rfl, is, -, -, form, -⟩ := gives
  obtain ⟨t, rfl⟩ : ∃ t, v = .unquoted t := ⟨_, ValueText.eq_unquoted (form.trans unquoted)⟩
  exact laid.splice_value is rfl

/-- **The tag is read with any characters of a tag for the value.** -/
theorem readTag?_unquoted (laid : tag.HasLayout source ps) (read : readTag? source tag.start = some tag)
    (gives : Gives names source tag ps a front gap lead v back) (plain : ∀ c ∈ new, isInTag c = true) :
    Reading front (Piece.assignment a.name gap lead ++ (new ++ (layout back ++ '>' :: source.drop (tag.close + 1)))) ∧
      closeFrom [.tag] (new ++ (layout back ++ '>' :: source.drop (tag.close + 1))) =
        some (new.length + ((layout back).length + 1)) ∧
      readTag? (tag.withPieces source (front ++ .valued a.name gap lead (.unquoted new) :: back)) tag.start =
        some (tag.relaid (front ++ .valued a.name gap lead (.unquoted new) :: back)) := by
  obtain ⟨rfl, -, -, -, -, -⟩ := gives
  have admits := laid.admits read
  obtain ⟨nonempty, letters, gaps, leads, -⟩ := laid.reading.reads
  obtain ⟨c, noBlank, begins⟩ := exists_text_valued nonempty letters
  obtain ⟨u, old⟩ := begins gap lead v
  obtain ⟨u', fresh⟩ := begins gap lead (.unquoted new)
  have text : (Piece.valued a.name gap lead (.unquoted new)).text = Piece.assignment a.name gap lead ++ new :=
    congrArg (_ ++ ·) (List.append_nil new)
  -- the pieces in front are read as before, since the name follows them
  have before : Reading front (Piece.assignment a.name gap lead ++
      (new ++ (layout back ++ '>' :: source.drop (tag.close + 1)))) := by
    rw [← List.append_assoc, ← text, fresh]
    exact laid.reading.front (by rw [layout_cons, old]; rfl) noBlank _
  have behind : closeFrom [.tag] (layout back ++ '>' :: source.drop (tag.close + 1)) =
      some ((layout back).length + 1) :=
    closeFrom_layout laid.reading.behind.2 fun p mem =>
      laid.passes p (List.mem_append_right _ (List.mem_cons_of_mem _ mem))
  have closed : closeFrom [.tag] (new ++ (layout back ++ '>' :: source.drop (tag.close + 1))) =
      some (new.length + ((layout back).length + 1)) := by
    rw [closeFrom_inTag plain, behind, Option.map_some]
  refine ⟨before, closed, laid.readTag?_relaid read (fun d head => admits.stops d ?_) ?_⟩
  · rw [← head]
    exact (head?_layout_exchange front (by rw [layout_cons, fresh]; rfl) (by rw [layout_cons, old]; rfl))
  · have passes : ∀ p ∈ front, p.Passes := fun p mem => laid.passes p (List.mem_append_left _ mem)
    rw [layout_append, layout_cons, text, List.append_assoc, List.append_assoc, List.append_assoc,
      closeFrom_pieces before passes, closeFrom_inTag (Piece.isInTag_assignment letters gaps leads), closed]
    simp only [Option.map_some, List.length_append, Nat.add_assoc]

/-- **What is read back** for the value is what the reader takes from the new characters and what stands behind
them. -/
theorem value_unquoted (laid : tag.HasLayout source ps) (read : readTag? source tag.start = some tag)
    (gives : Gives names source tag ps a front gap lead v back) (unquoted : a.form = .unquoted)
    (plain : ∀ c ∈ new, isInTag c = true) {out : Text} {tag' : Tag}
    (spliced : splice source a.valueStart a.valueStop new = out) (again : readTag? out tag.start = some tag') :
    (findAttribute? out tag' names).map (·.value out) = valueAhead? (new ++ source.drop a.valueStop) := by
  obtain ⟨before, closed, relaid⟩ := gives.readTag?_unquoted laid read plain
  rw [gives.splice_unquoted laid unquoted] at spliced
  rw [spliced, again] at relaid
  have same := Option.some.inj relaid
  rw [gives.drop_valueStop laid unquoted]
  obtain ⟨rfl, -, named, first, -, -⟩ := gives
  obtain ⟨nonempty, letters, gaps, leads, -⟩ := laid.reading.reads
  have here : out.drop tag'.nameStop = layout front ++ (Piece.assignment a.name gap lead ++
      (new ++ (layout back ++ '>' :: source.drop (tag.close + 1)))) := by
    rw [same, show (tag.relaid _).nameStop = tag.nameStop from rfl, ← spliced, laid.drop_nameStop]
    simp [layout_append, layout_cons, Piece.text, ValueText.text, ValueText.opening, ValueText.inner,
      ValueText.ending]
  -- the value that is read starts behind the blanks
  generalize ahead : new ++ (layout back ++ '>' :: source.drop (tag.close + 1)) = t at before closed here ⊢
  obtain ⟨blanks, t, rfl, run, stops⟩ := exists_run isBlank t
  rw [closeFrom_inTag fun c mem => isInTag_of_class (run c mem) (by decide) (by decide)] at closed
  obtain ⟨n, closed, -⟩ := Option.map_eq_some_iff.mp closed
  obtain ⟨w, after, rfl, reads⟩ := exists_value closed stops
  rw [valueAhead?_blanks run, valueAhead?_text reads]
  have shape : Piece.assignment a.name gap lead ++ (blanks ++ (w.text ++ after)) =
      (Piece.valued a.name gap (lead ++ blanks) w).text ++ after := by
    simp [Piece.text, Piece.assignment]
  have reads' : (Piece.valued a.name gap (lead ++ blanks) w).Reads after :=
    ⟨nonempty, letters, gaps, fun c mem => (List.mem_append.mp mem).elim (leads c) (run c), reads⟩
  rw [shape] at before here
  have limit : tag'.nameStop + (layout front).length < tag'.close := by
    have := List.length_pos_iff.mpr nonempty
    rw [same, show (tag.relaid _).nameStop = tag.nameStop from rfl]
    simp only [Tag.relaid, layout_append, layout_cons, Piece.text, Piece.assignment, List.length_append]
    omega
  have view := findAttribute?_behind here before reads' limit first rfl named
  obtain ⟨b, found, said⟩ := Option.map_eq_some_iff.mp view
  rw [found, Option.map_some]
  exact congrArg (fun view => some view.2.2) said

/-- **Characters of a value without delimiters may be exchanged** for others. -/
theorem exists_unquoted (laid : tag.HasLayout source ps) (read : readTag? source tag.start = some tag)
    (gives : Gives names source tag ps a front gap lead v back) (unquoted : a.form = .unquoted) (some : new ≠ [])
    (plain : ∀ c ∈ new, isInTag c = true) (chars : ∀ c ∈ new, ValueText.isUnquotedChar c = true) :
    ∃ qs, tag.Admits source qs ∧ splice source a.valueStart a.valueStop new = tag.withPieces source qs ∧
      Says names qs ps (a.name, a.form, new) := by
  have spliced := gives.splice_unquoted laid unquoted new
  obtain ⟨rfl, -, named, first, form, -⟩ := gives
  obtain ⟨t, rfl⟩ : ∃ t, v = .unquoted t := ⟨_, ValueText.eq_unquoted (form.trans unquoted)⟩
  obtain ⟨nonempty, letters, gaps, leads, -, -, -, stops⟩ := laid.reading.reads
  obtain ⟨c, noBlank, begins⟩ := exists_text_valued nonempty letters
  obtain ⟨u, old⟩ := begins gap lead (.unquoted t)
  obtain ⟨u', fresh⟩ := begins gap lead (.unquoted new)
  have starts : ∀ {after : Text} {d}, (new ++ after).head? = .some d → d ∈ new := fun head =>
    List.mem_of_head? (List.head?_append_of_ne_nil _ some ▸ head)
  have reads : (Piece.valued a.name gap lead (.unquoted new)).Reads
      (layout back ++ '>' :: source.drop (tag.close + 1)) := by
    refine ⟨nonempty, letters, gaps, leads, chars, fun d head => ?_, fun d head => ?_, stops⟩
    · have := plain d (starts head)
      simp_all [isInTag]
    · have := chars d (starts head)
      simp_all [ValueText.isUnquotedChar]
  exact ⟨_, (laid.admits read).exchange reads plain old fresh noBlank, spliced,
    says_among named first rfl (by rw [unquoted]; rfl) rfl⟩

end Gives

/-! ### No characters for a value -/

/-- Blanks in front of pieces may be taken off. -/
theorem exists_blanks {ps : List Piece} {after : Text} (reading : Reading ps after) (passes : ∀ p ∈ ps, p.Passes)
    (stops : ∀ c, after.head? = some c → isBlank c = false) :
    ∃ blanks qs, layout ps = blanks ++ layout qs ∧ (∀ c ∈ blanks, isBlank c = true) ∧ Reading qs after ∧
      (∀ p ∈ qs, p.Passes) ∧ qs.filterMap Piece.view? = ps.filterMap Piece.view? ∧
      ∀ c, (layout qs ++ after).head? = some c → isBlank c = false := by
  induction ps with
  | nil => exact ⟨[], [], rfl, List.forall_mem_nil _, trivial, passes, rfl, stops⟩
  | cons p ps ih =>
    by_cases blank : ∃ c, p = .mark c ∧ isBlank c = true
    · obtain ⟨c, rfl, blank⟩ := blank
      obtain ⟨blanks, qs, text, run, reading, all, same, stops⟩ :=
        ih reading.2 fun p mem => passes p (List.mem_cons_of_mem _ mem)
      refine ⟨c :: blanks, qs, ?_, List.forall_mem_cons.mpr ⟨blank, run⟩, reading, all, same, stops⟩
      rw [layout_cons, text]
      rfl
    · refine ⟨[], p :: ps, rfl, List.forall_mem_nil _, reading, passes, rfl, fun c head => ?_⟩
      cases p with
      | mark d =>
        cases head
        exact Bool.eq_false_iff.mpr fun is => blank ⟨_, rfl, is⟩
      | spread inside =>
        cases head
        decide
      | bare name =>
        obtain ⟨nonempty, letters, -⟩ := reading.1
        obtain ⟨d, rest, rfl⟩ := List.exists_cons_of_ne_nil nonempty
        cases head
        exact isBlank_of_isAttributeChar (letters _ (List.mem_cons_self ..))
      | valued name gap lead v =>
        obtain ⟨nonempty, letters, -⟩ := reading.1
        obtain ⟨d, rest, rfl⟩ := List.exists_cons_of_ne_nil nonempty
        cases head
        exact isBlank_of_isAttributeChar (letters _ (List.mem_cons_self ..))

/-- A character of a name is one of a value without delimiters, and opens nothing. -/
theorem isUnquotedChar_of_isAttributeChar {c : Char} (named : isAttributeChar c = true) :
    ValueText.isUnquotedChar c = true ∧ isOpener c = false := by
  simp_all [isAttributeChar, ValueText.isUnquotedChar, isOpener]

/-- Where an empty value is read, the pieces start with it: there are none, or a slash, or an empty block. -/
theorem exists_emptyValue {ps : List Piece} {rest : Text} (reading : Reading ps ('>' :: rest))
    (passes : ∀ p ∈ ps, p.Passes) (starts : ∀ c, (layout ps ++ '>' :: rest).head? = some c → isBlank c = false)
    (empty : valueAhead? (layout ps ++ '>' :: rest) = some []) :
    ∃ v qs, layout ps = v.text ++ layout qs ∧ v.inner = [] ∧ v.Reads (layout qs ++ '>' :: rest) ∧
      (∀ name gap lead, (Piece.valued name gap lead v).Passes) ∧ Reading qs ('>' :: rest) ∧
      (∀ p ∈ qs, p.Passes) ∧ qs.filterMap Piece.view? = ps.filterMap Piece.view? := by
  have stays : ∀ {c t}, layout ps = c :: t → isOpener c = false → ValueText.isUnquotedChar c = false := by
    intro c t start plain
    rw [start] at empty
    exact Bool.eq_false_iff.mpr fun unquoted => valueAhead?_ne_nil unquoted plain empty
  have nothing : (∀ c, (layout ps ++ '>' :: rest).head? = some c → isOpener c = false) →
      (∀ c, (layout ps ++ '>' :: rest).head? = some c → ValueText.isUnquotedChar c = false) →
      ∃ v qs, layout ps = v.text ++ layout qs ∧ v.inner = [] ∧ v.Reads (layout qs ++ '>' :: rest) ∧
        (∀ name gap lead, (Piece.valued name gap lead v).Passes) ∧ Reading qs ('>' :: rest) ∧
        (∀ p ∈ qs, p.Passes) ∧ qs.filterMap Piece.view? = ps.filterMap Piece.view? := fun plain stops =>
    ⟨.unquoted [], ps, rfl, rfl, ⟨List.forall_mem_nil _, plain, starts, stops⟩, fun _ _ _ => List.forall_mem_nil _,
      reading, passes, rfl⟩
  cases ps with
  | nil => exact nothing (by rintro c ⟨⟩; decide) (by rintro c ⟨⟩; decide)
  | cons p ps =>
    cases p with
    | mark c =>
      have plain : isOpener c = false := by
        have := passes _ (List.mem_cons_self ..)
        simp_all [Piece.Passes, isInTag]
      exact nothing (by rintro d ⟨⟩; exact plain) (by rintro d ⟨⟩; exact stays rfl plain)
    | bare name =>
      obtain ⟨nonempty, letters, -⟩ := reading.1
      obtain ⟨d, t, rfl⟩ := List.exists_cons_of_ne_nil nonempty
      obtain ⟨unquoted, plain⟩ := isUnquotedChar_of_isAttributeChar (letters d (List.mem_cons_self ..))
      cases unquoted.symm.trans (stays rfl plain)
    | valued name gap lead v =>
      obtain ⟨nonempty, letters, -⟩ := reading.1
      obtain ⟨d, t, rfl⟩ := List.exists_cons_of_ne_nil nonempty
      obtain ⟨unquoted, plain⟩ := isUnquotedChar_of_isAttributeChar (letters d (List.mem_cons_self ..))
      cases unquoted.symm.trans (stays rfl plain)
    | spread inside =>
      obtain ⟨v, text, reads, delimited⟩ : ∃ v : ValueText, v.text = (Piece.spread inside).text ∧
          v.Reads (layout ps ++ '>' :: rest) ∧ ∀ t, v ≠ .unquoted t := by
        by_cases string : IsOneString inside
        · obtain ⟨lead, q, u, trail, rfl, before, quote, string, behind⟩ := string
          refine ⟨.braced lead q u trail, ?_, ⟨before, quote, string, behind⟩, fun t => ValueText.noConfusion⟩
          simp [ValueText.text, ValueText.opening, ValueText.inner, ValueText.ending, Piece.text]
        · exact ⟨.expression inside, rfl, ⟨reading.1, string⟩, fun t => ValueText.noConfusion⟩
      have read := valueAhead?_text reads
      rw [text, ← List.append_assoc, ← layout_cons, empty] at read
      exact ⟨v, ps, by rw [text, layout_cons], (Option.some.inj read).symm, reads,
        fun name gap lead => Piece.passes_valued delimited name gap lead, reading.2,
        fun p mem => passes p (List.mem_cons_of_mem _ mem), rfl⟩

/-- **A value without delimiters may be emptied** where the reader takes nothing from what follows it. -/
theorem Gives.exists_emptied {source gap lead : Text} {tag : Tag} {names : List Text} {ps front back : List Piece}
    {a : Attribute} {v : ValueText} (laid : tag.HasLayout source ps) (read : readTag? source tag.start = some tag)
    (gives : Gives names source tag ps a front gap lead v back) (unquoted : a.form = .unquoted)
    (empty : valueAhead? (source.drop a.valueStop) = some []) :
    ∃ qs form, tag.Admits source qs ∧ splice source a.valueStart a.valueStop [] = tag.withPieces source qs ∧
      Says names qs ps (a.name, form, []) := by
  have spliced := gives.splice_unquoted laid unquoted []
  rw [gives.drop_valueStop laid unquoted] at empty
  obtain ⟨rfl, -, named, first, -, -⟩ := gives
  have admits := laid.admits read
  obtain ⟨nonempty, letters, gaps, leads, -⟩ := laid.reading.reads
  obtain ⟨blanks, ps, text, run, reading, passes, same, starts⟩ := exists_blanks laid.reading.behind.2
    (fun p mem => laid.passes p (List.mem_append_right _ (List.mem_cons_of_mem _ mem))) (by rintro c ⟨⟩; decide)
  have ahead : valueAhead? (layout ps ++ '>' :: source.drop (tag.close + 1)) = some [] := by
    rw [← empty, text, List.append_assoc, valueAhead?_blanks run]
  obtain ⟨w, qs, start, inner, reads, passesValue, reading, passes, same'⟩ :=
    exists_emptyValue reading passes starts ahead
  obtain ⟨c, noBlank, begins⟩ := exists_text_valued nonempty letters
  obtain ⟨u, old⟩ := begins gap lead v
  obtain ⟨u', fresh⟩ := begins gap (lead ++ blanks) w
  refine ⟨front ++ .valued a.name gap (lead ++ blanks) w :: qs, w.form, ?_, ?_, ?_⟩
  · refine admits.exchange_behind ⟨⟨nonempty, letters, gaps, fun c mem => ?_, reads⟩, reading⟩
      (List.forall_mem_cons.mpr ⟨passesValue _ _ _, passes⟩) (by rw [layout_cons, old]; rfl)
      (by rw [layout_cons, fresh]; rfl) noBlank
    exact (List.mem_append.mp mem).elim (leads c) (run c)
  · rw [spliced, Tag.withPieces, Tag.withPieces, layout_append, layout_append, layout_cons, layout_cons, text, start]
    simp [Piece.text, Piece.assignment, ValueText.text, ValueText.opening, ValueText.inner, ValueText.ending]
  · exact says_among named first rfl (by rw [Piece.view?, inner]) (same'.trans same)

end Retouch.Markup
