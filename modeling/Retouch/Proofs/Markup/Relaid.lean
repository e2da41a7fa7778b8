import Retouch.Proofs.Markup.Tidy

/-!
# Tags with other pieces

When the pieces of a tag are exchanged for others, a tag is read in the same place, with just those
pieces (`Tag.HasLayout.relaid`). A piece may be exchanged for one that starts with the same character
(`Reading.exchange`), since what is read in front of it depends on no more than that. What the
attributes of a tag say can be read off its pieces (`Tag.HasLayout.map_view`).
-/

namespace Retouch.Markup

open Retouch.Text

/-! ### Other pieces in the place of a tag -/

/-- The source with other pieces behind the name of a tag. -/
def Tag.withPieces (tag : Tag) (source : Text) (ps : List Piece) : Text :=
  source.take tag.nameStop ++ layout ps ++ source.drop tag.close

/-- The tag with other pieces. -/
def Tag.relaid (tag : Tag) (ps : List Piece) : Tag :=
  { tag with close := tag.nameStop + (layout ps).length }

variable {source : Text} {tag : Tag} {ps qs : List Piece}

/-- What stands in front of the closing bracket and behind it. -/
theorem Tag.HasLayout.drop_close (laid : tag.HasLayout source ps) :
    source.drop tag.close = '>' :: source.drop (tag.close + 1) := by
  conv_lhs => rw [laid.close, ← List.drop_drop, laid.text, List.drop_left]

theorem Tag.HasLayout.nameStop_le (laid : tag.HasLayout source ps) : tag.nameStop ≤ source.length := by
  have length := congrArg List.length laid.text
  simp only [List.length_drop, List.length_append, List.length_cons] at length
  omega

/-- With its own pieces, a tag is as it is. -/
theorem Tag.HasLayout.withPieces_self (laid : tag.HasLayout source ps) :
    tag.withPieces source ps = source := by
  unfold withPieces
  rw [laid.drop_close, List.append_assoc, ← laid.text, List.take_append_drop]

/-- Pieces that can stand in a tag behind its name. -/
structure Tag.Admits (tag : Tag) (source : Text) (qs : List Piece) : Prop where
  /-- They are read as what they are. -/
  reading : Reading qs ('>' :: source.drop (tag.close + 1))
  /-- So they are by the scanner. -/
  passes : ∀ p ∈ qs, p.Passes
  /-- They do not go on with the name. -/
  stops : ∀ c, (layout qs).head? = some c → isNameChar c = false

/-- A tag admits the pieces that it has. -/
theorem Tag.HasLayout.admits (laid : tag.HasLayout source ps)
    (read : readTag? source tag.start = some tag) : tag.Admits source ps := by
  refine ⟨laid.reading, laid.passes, fun c head => ?_⟩
  obtain ⟨d, name, t, n, here, -, -, -, stops, -, eq⟩ := readTag?_iff.mp read
  have behind : source.drop tag.nameStop = t := by
    rw [eq]
    exact drop_nameStop here
  refine stops c ?_
  rw [← behind, laid.text, List.head?_append, head]
  rfl

/-- The source with other pieces: what stood in front of them, they, and what stood behind them. -/
theorem Tag.HasLayout.withPieces_eq (laid : tag.HasLayout source ps) (qs : List Piece) :
    tag.withPieces source qs =
      source.take tag.nameStop ++ (layout qs ++ '>' :: source.drop (tag.close + 1)) := by
  rw [withPieces, laid.drop_close, List.append_assoc]

theorem Tag.HasLayout.drop_nameStop (laid : tag.HasLayout source ps) (qs : List Piece) :
    (tag.withPieces source qs).drop tag.nameStop = layout qs ++ '>' :: source.drop (tag.close + 1) := by
  rw [laid.withPieces_eq]
  exact List.drop_left' (List.length_take_of_le laid.nameStop_le)

/-- What stands in front of a tag stands in front of it with other pieces. -/
theorem Tag.HasLayout.take_start (laid : tag.HasLayout source ps) (qs : List Piece) :
    (tag.withPieces source qs).take tag.start = source.take tag.start := by
  have le : tag.start ≤ tag.nameStop := by
    unfold Tag.nameStop
    omega
  have within : tag.start ≤ (source.take tag.nameStop).length := by
    rw [List.length_take_of_le laid.nameStop_le]
    exact le
  rw [laid.withPieces_eq, List.take_append_of_le_length within, List.take_take, Nat.min_eq_left le]

/-- What stands behind a tag stands behind it with other pieces. -/
theorem Tag.HasLayout.drop_relaid (laid : tag.HasLayout source ps) (qs : List Piece) :
    (tag.withPieces source qs).drop ((tag.relaid qs).close + 1) = source.drop (tag.close + 1) := by
  unfold Tag.relaid
  dsimp only
  rw [Nat.add_assoc, ← List.drop_drop, laid.drop_nameStop, ← List.drop_drop, List.drop_left]
  rfl

/-- A tag is read with other pieces if it closes behind them. -/
theorem Tag.HasLayout.readTag?_relaid (laid : tag.HasLayout source ps)
    (read : readTag? source tag.start = some tag)
    (stops : ∀ c, (layout qs).head? = some c → isNameChar c = false)
    (closed : closeFrom [.tag] (layout qs ++ '>' :: source.drop (tag.close + 1)) =
      some ((layout qs).length + 1)) :
    readTag? (tag.withPieces source qs) tag.start = some (tag.relaid qs) := by
  obtain ⟨c, name, t, n, here, opens, starts, run, -, -, eq⟩ := readTag?_iff.mp read
  have named : tag.name = c :: name := congrArg Tag.name eq
  have nameStop : tag.nameStop = tag.start + (2 + name.length) := by
    unfold Tag.nameStop
    rw [named, List.length_cons]
    omega
  have front : (source.take tag.nameStop).drop tag.start = '<' :: c :: name := by
    rw [List.drop_take, here, nameStop, Nat.add_sub_cancel_left, Nat.add_comm]
    simp
  have le := laid.nameStop_le
  have length : (source.take tag.nameStop).length = tag.nameStop := List.length_take_of_le le
  have before : charBefore? (tag.withPieces source qs) tag.start = charBefore? source tag.start := by
    unfold charBefore?
    split
    · rfl
    · rename_i some
      have some : tag.start ≠ 0 := by simpa using some
      rw [laid.withPieces_eq, List.getElem?_append_left (by omega), List.getElem?_take_of_lt (by omega)]
  refine readTag?_iff.mpr ⟨c, name, layout qs ++ '>' :: source.drop (tag.close + 1), _, ?_, ?_, starts,
    run, ?_, closed, ?_⟩
  · rw [laid.withPieces_eq, List.drop_append_of_le_length (by omega), front]
    rfl
  · rw [before]
    exact opens
  · intro d head
    have stops := stops d
    cases start : layout qs with
    | nil =>
      rw [start] at head
      cases head
      decide
    | cons e u =>
      rw [start] at head stops
      exact stops head
  · unfold Tag.relaid
    rw [nameStop, named]
    congr 1
    simp only [List.length_cons]
    omega

/-- **A tag with other pieces is read**, where it was and with just these pieces, and what stood behind
the tag stands behind it. -/
theorem Tag.HasLayout.relaid (laid : tag.HasLayout source ps)
    (read : readTag? source tag.start = some tag) (admits : tag.Admits source qs) :
    readTag? (tag.withPieces source qs) tag.start = some (tag.relaid qs) ∧
      (tag.relaid qs).HasLayout (tag.withPieces source qs) qs ∧
      (tag.withPieces source qs).drop ((tag.relaid qs).close + 1) = source.drop (tag.close + 1) := by
  have rest := laid.drop_relaid qs
  refine ⟨laid.readTag?_relaid read admits.stops (closeFrom_layout admits.reading admits.passes),
    ⟨?_, rfl, ?_, admits.passes⟩, rest⟩
  · rw [rest]
    exact laid.drop_nameStop qs
  · rw [rest]
    exact admits.reading

/-! ### One piece for another -/

/-- What is read in front of a text depends on its first character and its first character that is no
blank. -/
theorem Piece.Reads.congr {p : Piece} {t u : Text} (head : t.head? = u.head?)
    (next : (t.dropWhile isBlank).head? = (u.dropWhile isBlank).head?) (reads : p.Reads t) :
    p.Reads u := by
  cases p with
  | mark | spread => exact reads
  | bare name =>
    obtain ⟨nonempty, named, stops, noSign⟩ := reads
    exact ⟨nonempty, named, head ▸ stops, next ▸ noSign⟩
  | valued name gap lead v =>
    obtain ⟨nonempty, named, gaps, leads, value⟩ := reads
    refine ⟨nonempty, named, gaps, leads, ?_⟩
    cases v with
    | quoted | braced | expression => exact value
    | unquoted w =>
      obtain ⟨unquoted, noOpener, noBlank, stops⟩ := value
      have whole : (w ++ u).head? = (w ++ t).head? := by
        rw [List.head?_append, List.head?_append, head]
      exact ⟨unquoted, whole ▸ noOpener, whole ▸ noBlank, head ▸ stops⟩

/-- What is read in front of a text is read in front of any other one that starts with the same character. -/
theorem Reading.front {front back : List Piece} {after u : Text} {c : Char} (reading : Reading (front ++ back) after)
    (old : layout back ++ after = c :: u) (noBlank : isBlank c = false) (v : Text) : Reading front (c :: v) := by
  induction front with
  | nil => trivial
  | cons f front ih =>
    have head : (layout front ++ c :: u).head? = (layout front ++ c :: v).head? := by
      cases layout front <;> rfl
    have next : ((layout front ++ c :: u).dropWhile isBlank).head? =
        ((layout front ++ c :: v).dropWhile isBlank).head? := by
      rw [List.dropWhile_append, List.dropWhile_append]
      split
      · simp [noBlank]
      · rename_i some
        cases start : (layout front).dropWhile isBlank with
        | nil =>
          rw [start] at some
          exact absurd rfl some
        | cons d w => rfl
    obtain ⟨first, rest⟩ := reading
    change f.Reads (layout (front ++ back) ++ after) at first
    rw [layout_append, List.append_assoc, old] at first
    exact ⟨first.congr head next, ih rest⟩

/-- Pieces are read in front of others. -/
theorem Reading.append {front back : List Piece} {after : Text} (first : Reading front (layout back ++ after))
    (rest : Reading back after) : Reading (front ++ back) after := by
  induction front with
  | nil => exact rest
  | cons f front ih =>
    refine ⟨?_, ih first.2⟩
    show f.Reads (layout (front ++ back) ++ after)
    rw [layout_append, List.append_assoc]
    exact first.1

/-- Pieces may be exchanged for others that start with the same character. -/
theorem Reading.exchange {front old new : List Piece} {after u v : Text} {c : Char}
    (reading : Reading (front ++ old) after) (reads : Reading new after) (before : layout old = c :: u)
    (behind : layout new = c :: v) (noBlank : isBlank c = false) : Reading (front ++ new) after := by
  refine .append ?_ reads
  rw [behind]
  exact reading.front (u := u ++ after) (by rw [before]; rfl) noBlank _

/-- Pieces that start with the same character are the same to what stands in front of them. -/
theorem head?_layout_exchange (front : List Piece) {old new : List Piece} {u v : Text} {c : Char}
    (before : layout old = c :: u) (behind : layout new = c :: v) :
    (layout (front ++ new)).head? = (layout (front ++ old)).head? := by
  rw [layout_append, layout_append, before, behind]
  cases layout front <;> rfl

/-- A tag admits pieces in place of others that start with the same character. -/
theorem Tag.Admits.exchange_behind {front old new : List Piece} {u v : Text} {c : Char}
    (admits : tag.Admits source (front ++ old)) (reads : Reading new ('>' :: source.drop (tag.close + 1)))
    (passes : ∀ p ∈ new, p.Passes) (before : layout old = c :: u) (behind : layout new = c :: v)
    (noBlank : isBlank c = false) : tag.Admits source (front ++ new) := by
  refine ⟨admits.reading.exchange reads before behind noBlank, fun r mem => ?_, fun d head => ?_⟩
  · obtain mem | mem := List.mem_append.mp mem
    · exact admits.passes r (List.mem_append_left _ mem)
    · exact passes r mem
  · exact admits.stops d (head?_layout_exchange front before behind ▸ head)

/-- What is read behind a piece is read without it. -/
theorem Reading.behind {front back : List Piece} {after : Text} (reading : Reading (front ++ back) after) :
    Reading back after := by
  induction front with
  | nil => exact reading
  | cons f front ih => exact ih reading.2

/-- A tag admits a piece in place of one that starts with the same character. -/
theorem Tag.Admits.exchange {front back : List Piece} {p q : Piece} {u v : Text} {c : Char}
    (admits : tag.Admits source (front ++ p :: back))
    (reads : q.Reads (layout back ++ '>' :: source.drop (tag.close + 1))) (passes : q.Passes)
    (old : p.text = c :: u) (new : q.text = c :: v) (noBlank : isBlank c = false) :
    tag.Admits source (front ++ q :: back) := by
  refine admits.exchange_behind (u := u ++ layout back) (v := v ++ layout back)
    ⟨reads, admits.reading.behind.2⟩ ?_ (by rw [layout_cons, old]; rfl) (by rw [layout_cons, new]; rfl) noBlank
  rintro r mem
  obtain rfl | mem := List.mem_cons.mp mem
  · exact passes
  · exact admits.passes r (List.mem_append_right _ (List.mem_cons_of_mem _ mem))

/-- A piece among others is read as what it is. -/
theorem Reading.reads {front back : List Piece} {p : Piece} {after : Text}
    (reading : Reading (front ++ p :: back) after) : p.Reads (layout back ++ after) := reading.behind.1

/-- An attribute that is found is one of the pieces, and none in front of it would do. -/
theorem find?_placed {f : Attribute → Bool} {j : Nat} {a : Attribute}
    (found : (placed j ps).find? f = some a) :
    ∃ front p back, ps = front ++ p :: back ∧ p.attribute? (j + (layout front).length) = some a ∧
      ∀ b ∈ placed j front, f b = false := by
  induction ps generalizing j with
  | nil => cases found
  | cons p ps ih =>
    rw [placed, List.find?_append] at found
    cases here : (p.attribute? j).toList.find? f with
    | some b =>
      rw [here] at found
      cases found
      exact ⟨[], p, ps, rfl, Option.mem_toList.mp (List.mem_of_find?_eq_some here), List.forall_mem_nil _⟩
    | none =>
      rw [here, Option.none_or] at found
      obtain ⟨front, q, back, rfl, is, none⟩ := ih found
      refine ⟨p :: front, q, back, rfl, ?_, ?_⟩
      · rw [layout_cons, List.length_append, ← Nat.add_assoc]
        exact is
      · intro b mem
        obtain mem | mem := List.mem_append.mp mem
        · simpa using List.find?_eq_none.mp here b mem
        · exact none b mem

/-! ### What attributes say -/

/-- What an attribute says: its name, how it is written, and its value. -/
def Attribute.view (source : Text) (a : Attribute) : Text × AttributeForm × Text :=
  (a.name, a.form, a.value source)

/-- What a piece says, if it is an attribute. -/
def Piece.view? : Piece → Option (Text × AttributeForm × Text)
  | .mark _ | .spread _ => none
  | .bare name => some (name, .bare, [])
  | .valued name _ _ v => some (name, v.form, v.inner)

/-- An attribute says what its piece does. -/
theorem Piece.map_view_attribute? {p : Piece} {j : Nat} {after : Text}
    (here : source.drop j = p.text ++ after) : (p.attribute? j).map (·.view source) = p.view? := by
  have slice_drop : ∀ k n, slice source (j + k) (j + k + n) = ((p.text ++ after).drop k).take n := by
    intro k n
    rw [slice, List.drop_take, Nat.add_sub_cancel_left, ← List.drop_drop, here]
  cases p with
  | mark | spread => rfl
  | bare name =>
    have := slice_drop name.length 0
    simp only [Nat.add_zero, List.take_zero] at this
    simp only [attribute?, Option.map_some, Attribute.view, Attribute.value, this, view?]
  | valued name gap lead v =>
    have := slice_drop ((assignment name gap lead).length + v.opening.length) v.inner.length
    rw [show (Piece.valued name gap lead v).text ++ after = (assignment name gap lead ++ v.opening) ++
      (v.inner ++ (v.ending ++ after)) by simp [text, ValueText.text], ← List.length_append,
      List.drop_left, List.take_left, List.length_append, ← Nat.add_assoc] at this
    simp only [attribute?, Option.map_some, Attribute.view, Attribute.value, this, view?]

theorem map_view_placed {j : Nat} {after : Text} (here : source.drop j = layout ps ++ after) :
    (placed j ps).map (·.view source) = ps.filterMap Piece.view? := by
  induction ps generalizing j with
  | nil => rfl
  | cons p ps ih =>
    rw [layout_cons, List.append_assoc] at here
    have one := Piece.map_view_attribute? here
    have rest := ih (j := j + p.text.length) (by rw [← List.drop_drop, here, List.drop_left])
    rw [placed, List.map_append, rest, ← Option.toList_map, one, List.filterMap_cons]
    cases p.view? <;> rfl

/-- **The attributes of a tag say what its pieces do.** -/
theorem Tag.HasLayout.map_view (laid : tag.HasLayout source ps) :
    (Markup.attributes source tag).map (·.view source) = ps.filterMap Piece.view? := by
  rw [laid.attributes]
  exact map_view_placed laid.text

/-- The names of attributes are those that their pieces give. -/
theorem map_name_placed (j : Nat) (ps : List Piece) :
    (placed j ps).map (·.name) = (ps.filterMap Piece.view?).map (·.1) := by
  induction ps generalizing j with
  | nil => rfl
  | cons p ps ih =>
    rw [placed, List.map_append, ih, List.filterMap_cons]
    cases p <;> rfl

/-- What holds of no name of the attributes holds of no name that their pieces give. -/
theorem view?_of_placed {f : Text → Bool} {j : Nat} (none : ∀ a ∈ placed j ps, f a.name = false) :
    ∀ v ∈ ps.filterMap Piece.view?, f v.1 = false := by
  intro v mem
  have named : v.1 ∈ (placed j ps).map (·.name) := by
    rw [map_name_placed]
    exact List.mem_map_of_mem mem
  obtain ⟨a, listed, same⟩ := List.mem_map.mp named
  exact same ▸ none a listed

/-! ### Another value -/

/-- A value in quotes exchanged for another one. -/
def ValueText.withInner (v : ValueText) (new : Text) : ValueText :=
  match v with
  | .unquoted t => .unquoted t
  | .quoted q _ => .quoted q new
  | .braced lead q _ trail => .braced lead q new trail
  | .expression inside => .expression inside

variable {v : ValueText} {after : Text} {q : Char} {inBraces : Bool}

/-- A value in quotes may be exchanged for any other one that stands inside of its quotes. -/
theorem ValueText.withInner_of_literal (literal : v.form = .literal q inBraces) (reads : v.Reads after)
    (new : Text) :
    isQuote q = true ∧ IsInside (.quoted q) v.inner ∧ (v.withInner new).form = v.form ∧
      (v.withInner new).text = v.opening ++ new ++ v.ending ∧ (v.withInner new).inner = new ∧
      (∀ t, v.withInner new ≠ .unquoted t) ∧
      (IsInside (.quoted q) new → (v.withInner new).Reads after) := by
  cases v with
  | unquoted | expression => cases literal
  | quoted q' inside =>
    cases literal
    obtain ⟨quote, string⟩ := reads
    exact ⟨quote, string, rfl, rfl, rfl, nofun, fun inside => ⟨quote, inside⟩⟩
  | braced lead q' inside trail =>
    cases literal
    obtain ⟨before, quote, string, behind⟩ := reads
    exact ⟨quote, string, rfl, rfl, rfl, nofun, fun inside => ⟨before, quote, inside, behind⟩⟩

/-- An attribute whose value has delimiters passes. -/
theorem Piece.passes_valued (delimited : ∀ t, v ≠ .unquoted t) (name gap lead : Text) :
    (Piece.valued name gap lead v).Passes := by
  cases v with
  | unquoted t => exact absurd rfl (delimited t)
  | quoted | braced | expression => trivial

/-- A text between two others replaced. -/
theorem splice_between (a b c new : Text) :
    splice (a ++ b ++ c) a.length (a.length + b.length) new = a ++ new ++ c := by
  have behind : (a ++ b ++ c).drop (a.length + b.length) = c :=
    List.drop_left' (List.length_append ..)
  rw [splice, behind, List.append_assoc a b c, List.take_left]

/-- The value of an attribute replaced in the source is the value replaced in its piece. -/
theorem Tag.HasLayout.splice_value {front back : List Piece} {name gap lead new : Text} {w : ValueText}
    (laid : tag.HasLayout source (front ++ .valued name gap lead v :: back)) {a : Attribute}
    (is : (Piece.valued name gap lead v).attribute? (tag.nameStop + (layout front).length) = some a)
    (text : w.text = v.opening ++ new ++ v.ending) :
    splice source a.valueStart a.valueStop new =
      tag.withPieces source (front ++ .valued name gap lead w :: back) := by
  have shape : ∀ (w : ValueText) (x : Text), w.text = v.opening ++ x ++ v.ending →
      tag.withPieces source (front ++ .valued name gap lead w :: back) =
        (source.take tag.nameStop ++ layout front ++ Piece.assignment name gap lead ++ v.opening) ++ x ++
          (v.ending ++ layout back ++ source.drop tag.close) := by
    intro w x text
    simp only [withPieces, layout_append, layout_cons, Piece.text, text, List.append_assoc]
  have length : (source.take tag.nameStop ++ layout front ++ Piece.assignment name gap lead ++
      v.opening).length = a.valueStart := by
    cases is
    simp only [List.length_append, List.length_take_of_le laid.nameStop_le]
  have stop : a.valueStop = a.valueStart + v.inner.length := by
    cases is
    rfl
  have source' := laid.withPieces_self
  rw [shape v v.inner rfl] at source'
  rw [shape w new text, stop, ← length]
  generalize source.take tag.nameStop ++ layout front ++ Piece.assignment name gap lead ++ v.opening =
    before at source' ⊢
  generalize v.ending ++ layout back ++ source.drop tag.close = behind at source' ⊢
  rw [← source']
  exact splice_between before v.inner behind new

end Retouch.Markup
