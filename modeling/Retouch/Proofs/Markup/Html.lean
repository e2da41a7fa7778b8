import Retouch.Proofs.Markup.Nesting

/-!
# Elements without a closing tag

In HTML some elements hold nothing, and their tags are neither closed nor end with a slash. The walk
backward from a text takes such a tag for that of an element that is still open: it comes down one level
too many for each of them, or ends at one of the tags that stand before the text (`Html.lowers`). So it ends
at the element that the text stands in just if no such tag stands between, apart from those right behind an
identifier, which are no tags for the walk (`Html.enclosingTag?_text`).
-/

namespace Retouch.Markup

open Retouch.Text

/-! ### Trees of elements -/

/-- The names of the elements that hold nothing. -/
def voidNames : List Text :=
  ["area", "base", "br", "col", "embed", "hr", "img", "input", "link", "meta", "param", "source", "track",
    "wbr"].map String.toList

/-- An opening tag that the scanner reads up to its own bracket, without a slash at its end. -/
structure OpeningTag where
  /-- What stands between the brackets. -/
  inside : Text
  /-- It starts with a name. -/
  named : ∃ c, inside.head? = some c ∧ isNameStart c = true
  /-- It is closed by the bracket behind it. -/
  closes : IsInside .tag inside
  /-- No angle bracket opens in it. -/
  plain : '<' ∉ inside
  /-- It does not end with a slash. -/
  noSlash : EndsApart inside

namespace OpeningTag

/-- The tag as it is written. -/
def text (tag : OpeningTag) : Text := '<' :: (tag.inside ++ ['>'])

/-- The name of the element. -/
def name (tag : OpeningTag) : Text := tag.inside.takeWhile isNameChar

/-- The element holds nothing. Names are the same in capitals. -/
def isVoid (tag : OpeningTag) : Bool := voidNames.contains (tag.name.map Char.toLower)

/-- The tag at an offset of a source. -/
def placedAt (tag : OpeningTag) (k : Nat) : Tag := ⟨k, k + (tag.inside.length + 1), tag.name⟩

end OpeningTag

/-- What stands in an element of HTML: what comes first, and the rest. -/
inductive Html where
  /-- Nothing. -/
  | nothing
  /-- A text, in which no angle bracket opens. -/
  | text (t : Text) (plain : '<' ∉ t) (rest : Html)
  /-- An element and what stands in it. -/
  | element (tag : OpeningTag) (holds : tag.isVoid = false) (children rest : Html)
  /-- An element that holds nothing; it has no closing tag. -/
  | void (tag : OpeningTag) (empty : tag.isVoid = true) (rest : Html)

namespace Html

/-- The text of a tree. -/
def render : Html → Text
  | .nothing => []
  | .text t _ rest => t ++ rest.render
  | .element tag _ children rest => enclosed tag.text tag.name children.render ++ rest.render
  | .void tag _ rest => tag.text ++ rest.render

/-- One tree behind the other. -/
def append : Html → Html → Html
  | .nothing, more => more
  | .text t plain rest, more => .text t plain (rest.append more)
  | .element tag holds children rest, more => .element tag holds children (rest.append more)
  | .void tag empty rest, more => .void tag empty (rest.append more)

/-- The offsets of the tags of a tree that opens at an offset, those without a closing tag left out. -/
def elementOffsets : Nat → Html → List Nat
  | _, .nothing => []
  | k, .text t _ rest => rest.elementOffsets (k + t.length)
  | k, .element tag _ children rest =>
    k :: children.elementOffsets (k + tag.text.length) ++
      rest.elementOffsets (k + (enclosed tag.text tag.name children.render).length)
  | k, .void tag _ rest => rest.elementOffsets (k + tag.text.length)

/-- The offsets of the tags without a closing tag. -/
def voidOffsets : Nat → Html → List Nat
  | _, .nothing => []
  | k, .text t _ rest => rest.voidOffsets (k + t.length)
  | k, .element tag _ children rest =>
    children.voidOffsets (k + tag.text.length) ++
      rest.voidOffsets (k + (enclosed tag.text tag.name children.render).length)
  | k, .void tag _ rest => k :: rest.voidOffsets (k + tag.text.length)

/-- An element of the tree, with what stands in it, opens at offset `k`; the tree opens at another one. -/
inductive Holds (tag : OpeningTag) (children : Html) (k : Nat) : Html → Nat → Prop
  /-- It comes first. -/
  | here {holds rest} : Holds tag children k (.element tag holds children rest) k
  /-- It stands behind the text that comes first. -/
  | pastText {t plain rest start} (behind : Holds tag children k rest (start + t.length)) :
    Holds tag children k (.text t plain rest) start
  /-- It stands in the element that comes first. -/
  | inElement {outer holds others rest start}
    (inside : Holds tag children k others (start + outer.text.length)) :
    Holds tag children k (.element outer holds others rest) start
  /-- It stands behind the element that comes first. -/
  | pastElement {outer holds others rest start}
    (behind : Holds tag children k rest (start + (enclosed outer.text outer.name others.render).length)) :
    Holds tag children k (.element outer holds others rest) start
  /-- It stands behind the element without a closing tag that comes first. -/
  | pastVoid {outer empty rest start} (behind : Holds tag children k rest (start + outer.text.length)) :
    Holds tag children k (.void outer empty rest) start

/-- A text stands in an element of a page that opens at offset `k`, behind what stands there before it. -/
def HasText (page : Html) (tag : OpeningTag) (before : Html) (t : Text) (k : Nat) : Prop :=
  ∃ plain behind, Holds tag (before.append (.text t plain behind)) k page 0

theorem render_append (before more : Html) : (before.append more).render = before.render ++ more.render := by
  induction before with
  | nothing => rfl
  | text t _ rest ih => rw [append, render, ih, render, List.append_assoc]
  | element tag _ children rest _ ih => rw [append, render, ih, render, List.append_assoc]
  | void tag _ rest ih => rw [append, render, ih, render, List.append_assoc]

/-- An element of a tree stands in the text of the tree. -/
theorem Holds.standsAt {source : Text} {tag : OpeningTag} {children h : Html} {k start : Nat}
    (holds : Holds tag children k h start) (stands : StandsAt source start h.render) :
    StandsAt source k (tag.text ++ children.render) := by
  induction holds with
  | here => exact stands.left.left
  | pastText _ ih | pastElement _ ih | pastVoid _ ih => exact ih stands.right
  | inElement _ ih => exact ih stands.left.left.right

end Html

/-! ### How tags are read -/

/-- What stands at the offset is right behind a character of an identifier, so that it is taken for no
tag. -/
def isHidden (source : Text) (k : Nat) : Bool := (charBefore? source k).any isIdentifierChar

theorem isNameChar_of_isNameStart {c : Char} (starts : isNameStart c = true) : isNameChar c = true := by
  simp [isNameChar, isWord, isAlphanumeric, isLetter_of_isNameStart starts]

namespace OpeningTag

variable {tag : OpeningTag} {source after : Text} {i k : Nat}

/-- The tag starts with a bracket and a name. -/
theorem exists_name (tag : OpeningTag) : ∃ c rest, tag.inside = c :: rest ∧ isNameStart c = true ∧
    tag.name = c :: rest.takeWhile isNameChar := by
  obtain ⟨c, head, starts⟩ := tag.named
  obtain ⟨rest, shape⟩ := List.head?_eq_some_iff.mp head
  refine ⟨c, rest, shape, starts, ?_⟩
  rw [name, shape, List.takeWhile_cons_of_pos (isNameChar_of_isNameStart starts)]

/-- The tag is read where it stands, unless it is right behind an identifier. -/
theorem readTag?_text (here : source.drop k = tag.text ++ after) :
    readTag? source k = if isHidden source k then none else some (tag.placedAt k) := by
  obtain ⟨c, rest, shape, starts, name⟩ := tag.exists_name
  have closed := tag.closes.closeFrom_singleton proper_tag after
  have run : (rest ++ '>' :: after).takeWhile isNameChar = rest.takeWhile isNameChar := by
    obtain ⟨word, rest, rfl, run, stops⟩ := exists_run isNameChar rest
    have stops' : ∀ d, (rest ++ '>' :: after).head? = some d → isNameChar d = false := by
      cases rest with
      | nil =>
        rintro d ⟨⟩
        decide
      | cons => exact stops
    rw [List.append_assoc, takeWhile_run run stops', takeWhile_run run stops]
  rw [shape] at closed
  have here : source.drop k = '<' :: c :: (rest ++ '>' :: after) := by simp [here, text, shape]
  have opens : opensTag (charBefore? source k) ('<' :: c :: (rest ++ '>' :: after)) = !isHidden source k := by
    rw [opensTag, isLetter_of_isNameStart starts, Bool.true_and, isHidden]
  unfold readTag?
  rw [here]
  split
  · rename_i same
    cases same
    rw [opens, starts, Bool.and_true, placedAt, name, shape, run]
    cases isHidden source k with
    | false => exact congrArg (Option.map _) closed
    | true => rfl
  · rename_i other
    exact absurd rfl (other c _)

/-- It is not that of an element without content. -/
theorem isSelfClosing_here (here : source.drop k = tag.text ++ after) :
    (tag.placedAt k).isSelfClosing source = false := by
  obtain ⟨c, rest, shape, -⟩ := tag.exists_name
  have last : source[(tag.placedAt k).close - 1]? = tag.inside.getLast? := by
    rw [placedAt, ← Nat.add_assoc, Nat.add_sub_cancel, ← List.getElem?_drop, here, text, shape,
      List.length_cons, List.getLast?_eq_getElem?, List.cons_append, List.getElem?_cons_succ,
      List.append_assoc, List.getElem?_append_left] <;> simp
  rw [Tag.isSelfClosing, last]
  exact beq_false_of_ne tag.noSlash

theorem not_mem_name (tag : OpeningTag) : '<' ∉ tag.name :=
  fun mem => tag.plain ((List.takeWhile_sublist _).subset mem)

/-- The only bracket that opens in the tag is its own. -/
theorem offsetsFrom_text (tag : OpeningTag) (k : Nat) : offsetsFrom (· == '<') k tag.text = [k] :=
  offsetsFrom_bracket (by simp [tag.plain]) k

/-- How the walk goes on from a tag that is complete before the offset. -/
theorem enclosingFrom_here (stands : StandsAt source k tag.text) (before : k + tag.text.length ≤ i)
    (seen : isHidden source k = false) (level : Nat) (more : List Nat) :
    enclosingFrom source i level ((offsetsFrom (· == '<') k tag.text).reverse ++ more) =
      if level = 0 then some (tag.placedAt k) else enclosingFrom source i (level - 1) more := by
  obtain ⟨after, here⟩ := stands
  have close : (tag.placedAt k).close < i := by
    simp only [text, List.length_cons, List.length_append, List.length_nil] at before
    simp only [placedAt]
    omega
  have read := tag.readTag?_text here.symm
  rw [seen, if_neg Bool.false_ne_true] at read
  have walk := enclosingFrom_readTag read close level more
  rw [isSelfClosing_here here.symm, if_neg Bool.false_ne_true] at walk
  rw [← walk, tag.offsetsFrom_text]
  rfl

/-- Right behind an identifier, the walk does not see the tag. -/
theorem enclosingFrom_hidden (stands : StandsAt source k tag.text) (hidden : isHidden source k = true)
    (level : Nat) (more : List Nat) :
    enclosingFrom source i level ((offsetsFrom (· == '<') k tag.text).reverse ++ more) =
      enclosingFrom source i level more := by
  obtain ⟨after, here⟩ := stands
  obtain ⟨c, rest, shape, starts, -⟩ := tag.exists_name
  have unread := tag.readTag?_text here.symm
  rw [hidden, if_pos rfl] at unread
  have here : source.drop k = '<' :: c :: (rest ++ '>' :: after) := by simp [← here, text, shape]
  rw [tag.offsetsFrom_text]
  simp only [List.reverse_singleton, List.singleton_append]
  rw [enclosingFrom_letter here starts, unread, Option.elim_none]

end OpeningTag

/-! ### The walk backward -/

/-- The walk from offset `i` ends in a text that stands at offset `k`, at a tag that opens there. -/
def Stops (source : Text) (i k : Nat) (t : Text) (level : Nat) : Prop :=
  ∀ more, ∃ tag, enclosingFrom source i level ((offsetsFrom (· == '<') k t).reverse ++ more) = some tag ∧
    k ≤ tag.start

/-- The walk comes down `n` levels in a text, or ends there if fewer closing tags are open. -/
structure Lowers (source : Text) (i k : Nat) (t : Text) (n : Nat) : Prop where
  /-- With so many open, it comes down. -/
  walks {level : Nat} (enough : n ≤ level) : Walks source i k t level (level - n)
  /-- With fewer, it ends. -/
  stops {level : Nat} (few : level < n) : Stops source i k t level

section

variable {source s t : Text} {i k m n : Nat}

/-- The walk ends in a text if it ends in the second part. -/
theorem Stops.right {level : Nat} (second : Stops source i (k + s.length) t level) :
    Stops source i k (s ++ t) level := by
  intro more
  obtain ⟨tag, found, le⟩ := second ((offsetsFrom (· == '<') k s).reverse ++ more)
  refine ⟨tag, ?_, Nat.le_of_add_right_le le⟩
  rw [offsetsFrom_append, List.reverse_append, List.append_assoc, found]

/-- So it does if it comes through the second part and ends in the first one. -/
theorem Stops.left {deep level : Nat} (second : Walks source i (k + s.length) t deep level)
    (first : Stops source i k s level) : Stops source i k (s ++ t) deep := by
  intro more
  obtain ⟨tag, found, le⟩ := first more
  refine ⟨tag, ?_, le⟩
  rw [offsetsFrom_append, List.reverse_append, List.append_assoc, second, found]

/-- Two parts lower it one after the other. -/
theorem Lowers.append (first : Lowers source i k s m) (second : Lowers source i (k + s.length) t n) :
    Lowers source i k (s ++ t) (m + n) where
  walks {level} enough := by
    have walks := (second.walks (by omega : n ≤ level)).append (first.walks (by omega : m ≤ level - n))
    rwa [Nat.sub_sub, Nat.add_comm n m] at walks
  stops {level} few := by
    by_cases enough : n ≤ level
    · exact .left (second.walks enough) (first.stops (by omega))
    · exact .right (second.stops (by omega))

/-- A text without angle brackets does not. -/
theorem lowers_text (none : '<' ∉ t) : Lowers source i k t 0 where
  walks _ := walks_text none _
  stops few := absurd few (Nat.not_lt_zero _)

/-- A tag lowers it by one level. -/
theorem lowers_tag {tag : OpeningTag} (stands : StandsAt source k tag.text)
    (before : k + tag.text.length ≤ i) (seen : isHidden source k = false) :
    Lowers source i k tag.text 1 where
  walks {level} enough more := by
    rw [tag.enclosingFrom_here stands before seen, if_neg (by omega)]
  stops {level} few more := by
    refine ⟨tag.placedAt k, ?_, Nat.le_refl k⟩
    rw [tag.enclosingFrom_here stands before seen, if_pos (by omega)]

/-- A tag that the walk does not see does not lower it. -/
theorem lowers_hidden {tag : OpeningTag} (stands : StandsAt source k tag.text)
    (hidden : isHidden source k = true) : Lowers source i k tag.text 0 where
  walks _ := tag.enclosingFrom_hidden stands hidden _
  stops few := absurd few (Nat.not_lt_zero _)

/-- A closed element lowers it by as many levels as what stands in the element. -/
theorem Lowers.element {tag : OpeningTag} {inside : Text} (inner : Lowers source i (k + tag.text.length) inside n)
    (stands : StandsAt source k (enclosed tag.text tag.name inside))
    (before : k + (enclosed tag.text tag.name inside).length ≤ i) (seen : isHidden source k = false) :
    Lowers source i k (enclosed tag.text tag.name inside) n := by
  have le := Nat.le_of_add_right_le (le_of_length_enclosed before)
  have opened := (lowers_tag stands.left.left le seen).append inner
  have closing := fun level => walks_closingTag tag.not_mem_name stands.right (i := i) level
  constructor
  · intro level enough
    have walks := (closing level).append (opened.walks (by omega : 1 + n ≤ level + 1))
    rwa [show level + 1 - (1 + n) = level - n by omega] at walks
  · intro level few
    exact .left (closing level) (opened.stops (by omega))

end

namespace Html

variable {source : Text} {i k : Nat}

/-- **Tags without a closing tag leave a trace**: the walk backward comes down one level for each of them
that it sees, wherever it stands in a tree. -/
theorem lowers {h : Html} (stands : StandsAt source k h.render) (before : k + h.render.length ≤ i)
    (seen : ∀ j ∈ h.elementOffsets k, isHidden source j = false) :
    Lowers source i k h.render ((h.voidOffsets k).countP (!isHidden source ·)) := by
  induction h generalizing k with
  | nothing => exact lowers_text List.not_mem_nil
  | text t plain rest ih =>
    rw [render, List.length_append, ← Nat.add_assoc] at before
    rw [render, voidOffsets, ← Nat.zero_add (List.countP ..)]
    exact (lowers_text plain).append (ih stands.right before seen)
  | element tag _ children rest inner ih =>
    rw [render, List.length_append, ← Nat.add_assoc] at before
    have complete := Nat.le_of_add_right_le before
    obtain ⟨here, seen⟩ := List.forall_mem_cons.mp seen
    obtain ⟨content, behind⟩ := List.forall_mem_append.mp seen
    rw [render, voidOffsets, List.countP_append]
    refine .append ?_ (ih stands.right before behind)
    exact (inner stands.left.left.right (le_of_length_enclosed complete) content).element stands.left
      complete here
  | void tag _ rest ih =>
    rw [render, List.length_append, ← Nat.add_assoc] at before
    have behind := ih stands.right before seen
    rw [render, voidOffsets, List.countP_cons, Nat.add_comm]
    refine .append ?_ behind
    cases hidden : isHidden source k with
    | false => exact lowers_tag stands.left (Nat.le_of_add_right_le before) hidden
    | true => exact lowers_hidden stands.left hidden

/-- A text stands in the text of its page behind the tag of its element and what stands between. -/
theorem HasText.standsAt {page before : Html} {tag : OpeningTag} {t : Text}
    (has : page.HasText tag before t k) :
    StandsAt page.render k (tag.text ++ (before.render ++ t)) ∧ '<' ∉ t := by
  obtain ⟨plain, behind, holds⟩ := has
  have stands := holds.standsAt (List.prefix_rfl : StandsAt page.render 0 page.render)
  rw [render_append, render, ← List.append_assoc, ← List.append_assoc] at stands
  have stands := stands.left
  rw [List.append_assoc] at stands
  exact ⟨stands, plain⟩

/-- **The element around a text**: in a page of HTML, the walk backward from a text ends at some tag. It is
the tag of the element that the text stands in just if every tag without a closing tag between them is right
behind an identifier. -/
theorem enclosingTag?_text {page before : Html} {tag : OpeningTag} {t : Text}
    (has : page.HasText tag before t k)
    (seen : ∀ j ∈ k :: before.elementOffsets (k + tag.text.length), isHidden page.render j = false)
    (after : k + tag.text.length + before.render.length ≤ i)
    (within : i ≤ k + tag.text.length + before.render.length + t.length) :
    ∃ found, enclosingTag? page.render i = some found ∧
      (found = tag.placedAt k ↔
        ∀ j ∈ before.voidOffsets (k + tag.text.length), isHidden page.render j = true) := by
  obtain ⟨stands, plain⟩ := has.standsAt
  obtain ⟨seen, elements⟩ := List.forall_mem_cons.mp seen
  generalize page.render = source at *
  have lowers := before.lowers stands.right.left after elements
  have front : StandsAt source 0 (source.take k) := by
    rw [StandsAt, List.drop_zero]
    exact List.take_prefix k source
  have length : (source.take k).length = k := by
    refine List.length_take_of_le (Nat.le_of_not_lt fun past => ?_)
    rw [StandsAt, List.drop_eq_nil_of_le (Nat.le_of_lt past)] at stands
    cases List.prefix_nil.mp stands
  -- the brackets in front of the text: those behind the tag, that of the tag, and those before it
  have split : enclosingTag? source i = enclosingFrom source i 0
      ((offsetsFrom (· == '<') (k + tag.text.length) before.render).reverse ++
        ((offsetsFrom (· == '<') k tag.text).reverse ++ (offsetsFrom (· == '<') 0 (source.take k)).reverse)) := by
    rw [enclosingTag?, bracketsBefore_append front (by omega), length, Nat.zero_add,
      bracketsBefore_append stands.left (by omega), bracketsBefore_append stands.right.left after,
      bracketsBefore_text stands.right.right plain within, List.nil_append, List.append_assoc]
  rw [split]
  have all : (∀ j ∈ before.voidOffsets (k + tag.text.length), isHidden source j = true) ↔
      (before.voidOffsets (k + tag.text.length)).countP (!isHidden source ·) = 0 := by
    simp [List.countP_eq_zero]
  rw [all]
  generalize (before.voidOffsets (k + tag.text.length)).countP (!isHidden source ·) = n at lowers ⊢
  by_cases none : n = 0
  · subst none
    refine ⟨tag.placedAt k, ?_, by simp⟩
    rw [lowers.walks (Nat.le_refl 0), tag.enclosingFrom_here stands.left (by omega) seen, if_pos rfl]
  · obtain ⟨found, walk, le⟩ := lowers.stops (Nat.pos_of_ne_zero none)
      ((offsetsFrom (· == '<') k tag.text).reverse ++ (offsetsFrom (· == '<') 0 (source.take k)).reverse)
    refine ⟨found, walk, iff_of_false (fun same => ?_) none⟩
    -- it stands behind the tag
    rw [same, OpeningTag.placedAt, OpeningTag.text, List.length_cons] at le
    dsimp only at le
    omega

end Html

end Retouch.Markup
