import Retouch.Markup.Enclosing
import Retouch.Proofs.Markup.Written

/-!
# The element around a text

What an element holds is written as a row of texts, elements, elements without content and fragments
(`Content`). The walk backward from an offset comes through everything that is complete before it without a
trace (`Content.WellFormed.walks_render`): each closing tag opens a level, and the opening tag or fragment
that it belongs to closes it. What is left are the tags that are still open, the innermost one first, so the
walk ends at the element that the text stands in (`Content.enclosingTag?_render`).
-/

namespace Retouch.Markup

open Retouch.Text

/-! ### Trees of elements -/

/-- What stands in an element: what comes first, and the rest. -/
inductive Content where
  /-- Nothing. -/
  | nothing
  /-- A text. -/
  | text (t : Text) (rest : Content)
  /-- An element and what stands in it. -/
  | element (tag : WrittenTag) (children rest : Content)
  /-- An element without content. -/
  | single (tag : WrittenTag) (rest : Content)
  /-- A fragment and what stands in it. -/
  | fragment (children rest : Content)

/-- The closing tag of an element; that of a fragment has no name. -/
def closingTag (name : Text) : Text := '<' :: '/' :: (name ++ ['>'])

/-- What is opened, its content and its closing tag. -/
def enclosed (opening name inside : Text) : Text := opening ++ inside ++ closingTag name

theorem length_enclosed (opening name inside : Text) :
    (enclosed opening name inside).length = opening.length + inside.length + (closingTag name).length := by
  simp only [enclosed, List.length_append]

/-- What stands in an element ends before the element does. -/
theorem le_of_length_enclosed {opening name inside : Text} {k i : Nat}
    (le : k + (enclosed opening name inside).length ≤ i) : k + opening.length + inside.length ≤ i := by
  rw [length_enclosed] at le
  omega

/-- The opening of a fragment. -/
def fragmentOpening : Text := ['<', '>']

namespace Content

/-- The text of a tree. -/
def render : Content → Text
  | .nothing => []
  | .text t rest => t ++ rest.render
  | .element tag children rest => enclosed (tag.text false) tag.name children.render ++ rest.render
  | .single tag rest => tag.text true ++ rest.render
  | .fragment children rest => enclosed fragmentOpening [] children.render ++ rest.render

end Content

/-- The tag follows the rules, and no angle bracket opens in its attributes. -/
def WrittenTag.IsPlain (tag : WrittenTag) : Prop :=
  tag.WellFormed ∧ '<' ∉ WrittenTag.attributeText tag.attributes

namespace Content

/-- Tags follow the rules, and no angle bracket opens in attributes or texts. -/
def WellFormed : Content → Prop
  | .nothing => True
  | .text t rest => '<' ∉ t ∧ rest.WellFormed
  | .element tag children rest => tag.IsPlain ∧ children.WellFormed ∧ rest.WellFormed
  | .single tag rest => tag.IsPlain ∧ rest.WellFormed
  | .fragment children rest => children.WellFormed ∧ rest.WellFormed

/-- Offset `i` lies in a text of the tree that starts at an offset and stands in the element that `outer`
opens, if there is one; the innermost element around the text is the one that `innermost` opens. Fragments
are no elements. -/
inductive InText (i : Nat) (innermost : Option Tag) : Content → Nat → Option Tag → Prop
  /-- It lies in the text that comes first. -/
  | here {t rest start} (after : start ≤ i) (before : i ≤ start + t.length) :
    InText i innermost (.text t rest) start innermost
  /-- It lies behind the text that comes first. -/
  | pastText {t rest start outer} (inside : InText i innermost rest (start + t.length) outer) :
    InText i innermost (.text t rest) start outer
  /-- It lies in the element that comes first. -/
  | inElement {tag children rest start outer}
    (inside : InText i innermost children (start + (tag.text false).length) (some (tag.placedAt false start))) :
    InText i innermost (.element tag children rest) start outer
  /-- It lies behind the element that comes first. -/
  | pastElement {tag children rest start outer}
    (inside : InText i innermost rest
      (start + (enclosed (tag.text false) tag.name children.render).length) outer) :
    InText i innermost (.element tag children rest) start outer
  /-- It lies behind the element without content that comes first. -/
  | pastSingle {tag rest start outer} (inside : InText i innermost rest (start + (tag.text true).length) outer) :
    InText i innermost (.single tag rest) start outer
  /-- It lies in the fragment that comes first. -/
  | inFragment {children rest start outer}
    (inside : InText i innermost children (start + fragmentOpening.length) outer) :
    InText i innermost (.fragment children rest) start outer
  /-- It lies behind the fragment that comes first. -/
  | pastFragment {children rest start outer}
    (inside : InText i innermost rest (start + (enclosed fragmentOpening [] children.render).length) outer) :
    InText i innermost (.fragment children rest) start outer

theorem InText.start_le {i start : Nat} {innermost outer : Option Tag} {c : Content}
    (inside : InText i innermost c start outer) : start ≤ i := by
  induction inside with
  | here after _ => exact after
  | pastText _ ih | inElement _ ih | pastElement _ ih | pastSingle _ ih | inFragment _ ih | pastFragment _ ih =>
    exact Nat.le_of_add_right_le ih

end Content

/-- No tag opens right behind a character of an identifier. -/
def TagsApart (source : Text) : Prop :=
  ∀ k < source.length, opensTag none (source.drop k) = true →
    (charBefore? source k).any isIdentifierChar = false

instance (source : Text) : Decidable (TagsApart source) :=
  inferInstanceAs (Decidable (∀ k < source.length, opensTag none (source.drop k) = true →
    (charBefore? source k).any isIdentifierChar = false))

/-! ### How a written tag ends -/

/-- No slash stands at the end. -/
def EndsApart (t : Text) : Prop := t.getLast? ≠ some '/'

theorem EndsApart.append {s t : Text} (first : EndsApart s) (second : EndsApart t) : EndsApart (s ++ t) := by
  intro slash
  rw [List.getLast?_append] at slash
  cases last : t.getLast? with
  | none => exact first (by rwa [last] at slash)
  | some c => exact second (by rwa [last] at slash ⊢)

theorem endsApart_concat {t : Text} {c : Char} (other : c ≠ '/') : EndsApart (t ++ [c]) := by
  intro slash
  rw [List.getLast?_concat] at slash
  exact other (Option.some.inj slash)

theorem endsApart_of_class {p : Char → Bool} {t : Text} (run : ∀ c ∈ t, p c = true)
    (other : p '/' = false) : EndsApart t := by
  intro slash
  have mem := run '/' (List.mem_of_getLast? slash)
  rw [other] at mem
  cases mem

theorem ValueText.WellFormed.endsApart {v : ValueText} (formed : v.WellFormed) : EndsApart v.text := by
  cases v with
  | unquoted t => exact formed.elim
  | quoted q inside => exact endsApart_concat (ne_of_class formed.1 (by decide))
  | braced lead q inside trail =>
    rw [ValueText.text, ValueText.ending, ← List.append_assoc]
    exact endsApart_concat (by decide)
  | expression inside => exact endsApart_concat (by decide)

theorem Piece.WellFormed.endsApart {p : Piece} (formed : p.WellFormed) : EndsApart p.text := by
  have slash : isAttributeChar '/' = false := by decide
  cases p with
  | mark c => exact formed.elim
  | spread inside => exact endsApart_concat (by decide)
  | bare name => exact endsApart_of_class formed.2 slash
  | valued name gap lead v =>
    obtain ⟨-, named, gaps, leads, value⟩ := formed
    refine EndsApart.append ?_ value.endsApart
    rw [assignment, List.append_cons]
    refine .append (.append (.append ?_ ?_) ?_) ?_
    · exact endsApart_of_class named slash
    · exact endsApart_of_class gaps (by decide)
    · exact endsApart_concat (t := []) (by decide)
    · exact endsApart_of_class leads (by decide)

namespace WrittenTag

variable {tag : WrittenTag}

theorem endsApart_attributeText {written : List (Text × Piece)}
    (formed : ∀ a ∈ written, a.1 ≠ [] ∧ (∀ c ∈ a.1, isBlank c = true) ∧ a.2.WellFormed) :
    EndsApart (attributeText written) := by
  induction written with
  | nil => nofun
  | cons a written ih =>
    obtain ⟨⟨-, blanks, piece⟩, later⟩ := List.forall_mem_cons.mp formed
    exact .append (.append (endsApart_of_class blanks (by decide)) piece.endsApart) (ih later)

theorem WellFormed.endsApart (formed : tag.WellFormed) : EndsApart (tag.name ++ tag.inside false) := by
  obtain ⟨c, rest, name, starts, run⟩ := formed.name
  rw [inside, if_neg Bool.false_ne_true, List.append_nil, name]
  refine .append (.append (s := [c]) ?_ ?_) (.append ?_ ?_)
  · exact endsApart_concat (t := []) (ne_of_class starts (by decide))
  · exact endsApart_of_class run (by decide)
  · exact endsApart_attributeText formed.attributes
  · exact endsApart_of_class formed.trail (by decide)

/-- The slash at the end of a tag is the one it is written with. -/
theorem WellFormed.isSelfClosing_here (formed : tag.WellFormed) (slash : Bool) {source after : Text} {k : Nat}
    (here : source.drop k = tag.text slash ++ after) :
    (tag.placedAt slash k).isSelfClosing source = slash := by
  have offset : (tag.placedAt slash k).close - 1 = k + (tag.name ++ tag.inside slash).length := by
    simp only [placedAt, List.length_append]
    omega
  have last : source[(tag.placedAt slash k).close - 1]? = ('<' :: (tag.name ++ tag.inside slash)).getLast? := by
    rw [offset, ← List.getElem?_drop, here, text, List.getLast?_eq_getElem?, ← List.cons_append,
      List.append_assoc, List.getElem?_append_left] <;> simp
  rw [Tag.isSelfClosing, last]
  cases slash with
  | true =>
    have shape : '<' :: (tag.name ++ tag.inside true) =
        '<' :: (tag.name ++ (attributeText tag.attributes ++ tag.trail)) ++ ['/'] := by
      simp [inside]
    rw [shape, List.getLast?_concat]
    rfl
  | false =>
    have apart : EndsApart ('<' :: (tag.name ++ tag.inside false)) :=
      .append (s := ['<']) (by simp [EndsApart]) formed.endsApart
    exact beq_false_of_ne apart

end WrittenTag

/-! ### Texts in their places -/

/-- The text stands in the source from offset `k` on. -/
def StandsAt (source : Text) (k : Nat) (t : Text) : Prop := t <+: source.drop k

section

variable {source s t : Text} {k n : Nat}

theorem StandsAt.left (stands : StandsAt source k (s ++ t)) : StandsAt source k s :=
  (List.prefix_append s t).trans stands

theorem StandsAt.right (stands : StandsAt source k (s ++ t)) : StandsAt source (k + s.length) t := by
  obtain ⟨after, here⟩ := stands
  refine ⟨after, ?_⟩
  rw [← List.drop_drop, ← here, List.append_assoc, List.drop_left]

theorem offsetsFrom_append (p : Char → Bool) (k : Nat) (s t : Text) :
    offsetsFrom p k (s ++ t) = offsetsFrom p k s ++ offsetsFrom p (k + s.length) t := by
  induction s generalizing k with
  | nil => rfl
  | cons c s ih =>
    have next : k + 1 + s.length = k + (c :: s).length := by
      rw [List.length_cons]
      omega
    simp only [List.cons_append, offsetsFrom, ih, next]
    split <;> rfl

/-- A text without angle brackets that open has none of their offsets. -/
theorem offsetsFrom_text (none : '<' ∉ t) (k : Nat) : offsetsFrom (· == '<') k t = [] := by
  induction t generalizing k with
  | nil => rfl
  | cons c t ih =>
    obtain ⟨here, later⟩ := not_or.mp (List.mem_cons.not.mp none)
    rw [offsetsFrom, if_neg fun eq => here (beq_iff_eq.mp eq).symm, ih later]

/-- A tag has one, where it starts. -/
theorem offsetsFrom_bracket (none : '<' ∉ t) (k : Nat) : offsetsFrom (· == '<') k ('<' :: t) = [k] := by
  rw [offsetsFrom, if_pos (beq_self_eq_true '<'), offsetsFrom_text none]

/-- The brackets of a stretch, last first, are those of its second part and then those of its first one. -/
theorem bracketsBefore_append (stands : StandsAt source k s) (le : k + s.length ≤ n) :
    bracketsBefore source k n =
      bracketsBefore source (k + s.length) n ++ (offsetsFrom (· == '<') k s).reverse := by
  obtain ⟨after, here⟩ := stands
  obtain ⟨m, rfl⟩ := Nat.exists_eq_add_of_le le
  have whole : slice source k (k + s.length + m) = s ++ after.take m := by
    rw [slice, List.drop_take, ← here, Nat.add_assoc, Nat.add_sub_cancel_left, List.take_length_add_append]
  have second : slice source (k + s.length) (k + s.length + m) = after.take m := by
    rw [slice, List.drop_take, Nat.add_sub_cancel_left, ← List.drop_drop, ← here, List.drop_left]
  rw [bracketsBefore, whole, bracketsBefore, second, offsetsFrom_append, List.reverse_append]

/-- In a text there are none. -/
theorem bracketsBefore_text (stands : StandsAt source k t) (none : '<' ∉ t) (le : n ≤ k + t.length) :
    bracketsBefore source k n = [] := by
  obtain ⟨after, here⟩ := stands
  rw [bracketsBefore, slice, List.drop_take, ← here, List.take_append_of_le_length (by omega),
    offsetsFrom_text fun mem => none (List.mem_of_mem_take mem)]
  rfl

end

/-! ### The walk backward -/

/-- The walk from offset `i` comes backward through a text that stands at offset `k`: with as many closing
tags open as `deep` says behind the text, as many are open in front of it as `level` says. -/
def Walks (source : Text) (i k : Nat) (t : Text) (deep level : Nat) : Prop :=
  ∀ more, enclosingFrom source i deep ((offsetsFrom (· == '<') k t).reverse ++ more) =
    enclosingFrom source i level more

section

variable {source s t : Text} {i k : Nat}

theorem Walks.append {deep between level : Nat} (second : Walks source i (k + s.length) t deep between)
    (first : Walks source i k s between level) : Walks source i k (s ++ t) deep level := by
  intro more
  rw [offsetsFrom_append, List.reverse_append, List.append_assoc, second, first]

/-- A text without angle brackets is passed over. -/
theorem walks_text (none : '<' ∉ t) (level : Nat) : Walks source i k t level level := by
  intro more
  rw [offsetsFrom_text none]
  rfl

/-- A closing tag opens a level. -/
theorem walks_closingTag {name : Text} (none : '<' ∉ name) (stands : StandsAt source k (closingTag name))
    (level : Nat) : Walks source i k (closingTag name) level (level + 1) := by
  intro more
  obtain ⟨after, here⟩ := stands
  have closes : startsWith (source.drop k) ['<', '/'] = true := by simp [← here, closingTag, startsWith]
  rw [closingTag, offsetsFrom_bracket (by simp [none])]
  simp only [List.reverse_singleton, List.singleton_append]
  rw [enclosingFrom, if_pos closes]

/-- The opening of a fragment closes a level, if one is open. -/
theorem walks_fragmentOpening (stands : StandsAt source k fragmentOpening) (level : Nat) :
    Walks source i k fragmentOpening level (level - 1) := by
  intro more
  obtain ⟨after, here⟩ := stands
  have opens : startsWith (source.drop k) ['<', '/'] = false := by
    rw [← here]
    rfl
  have fragment : startsWith (source.drop k) ['<', '>'] = true := by
    rw [← here]
    rfl
  rw [fragmentOpening, offsetsFrom_bracket (by simp)]
  simp only [List.reverse_singleton, List.singleton_append]
  rw [enclosingFrom, if_neg (by simp [opens]), if_pos fragment]

/-- A bracket with a letter behind it neither closes anything nor opens a fragment: if a tag is read there,
the walk goes by that tag. -/
theorem enclosingFrom_letter {c : Char} {t : Text} (here : source.drop k = '<' :: c :: t)
    (starts : isNameStart c = true) (level : Nat) (more : List Nat) :
    enclosingFrom source i level (k :: more) =
      (readTag? source k).elim (enclosingFrom source i level more) fun tag =>
        if i ≤ tag.close then some tag
        else if tag.isSelfClosing source then enclosingFrom source i level more
        else if level = 0 then some tag else enclosingFrom source i (level - 1) more := by
  have letter : ∀ d, isNameStart d = false → startsWith (source.drop k) ['<', d] = false := by
    intro d other
    simp only [here, startsWith, List.isPrefixOf, Bool.and_true, Bool.and_eq_false_iff]
    exact .inr (beq_false_of_ne (ne_of_class starts other).symm)
  rw [enclosingFrom, if_neg (by simp [letter '/' (by decide)]), if_neg (by simp [letter '>' (by decide)])]
  cases readTag? source k with
  | none => rfl
  | some tag => cases level <;> rfl

/-- A tag that is complete before the offset closes a level unless its element has no content; if no level
is open, the walk ends there. -/
theorem enclosingFrom_readTag {tag : Tag} (read : readTag? source k = some tag) (before : tag.close < i)
    (level : Nat) (more : List Nat) :
    enclosingFrom source i level (k :: more) =
      if tag.isSelfClosing source then enclosingFrom source i level more
      else if level = 0 then some tag else enclosingFrom source i (level - 1) more := by
  obtain ⟨c, name, t, _, here, -, starts, -⟩ := readTag?_iff.mp read
  rw [enclosingFrom_letter here starts, read, Option.elim_some, if_neg (Nat.not_le.mpr before)]

end

namespace WrittenTag.IsPlain

variable {tag : WrittenTag} {source : Text} {i k : Nat} {slash : Bool}

theorem not_mem_name (plain : tag.IsPlain) : '<' ∉ tag.name := by
  obtain ⟨c, rest, name, starts, run⟩ := plain.1.name
  rw [name, List.mem_cons, not_or]
  exact ⟨(ne_of_class starts (by decide)).symm, fun mem => absurd (run '<' mem) (by decide)⟩

/-- No angle bracket opens behind the one at the start. -/
theorem not_mem (plain : tag.IsPlain) : '<' ∉ tag.name ++ tag.inside slash ++ ['>'] := by
  have behind : '<' ∉ tag.trail := fun mem => absurd (plain.1.trail '<' mem) (by decide)
  cases slash <;> simp [inside, plain.not_mem_name, plain.2, behind]

/-- How the walk goes on from a written tag that is complete before the offset. -/
theorem enclosingFrom_here (plain : tag.IsPlain) (apart : TagsApart source)
    (stands : StandsAt source k (tag.text slash)) (before : k + (tag.text slash).length ≤ i)
    (level : Nat) (more : List Nat) :
    enclosingFrom source i level ((offsetsFrom (· == '<') k (tag.text slash)).reverse ++ more) =
      if slash then enclosingFrom source i level more
      else if level = 0 then some (tag.placedAt slash k) else enclosingFrom source i (level - 1) more := by
  obtain ⟨after, here⟩ := stands
  obtain ⟨c, rest, name, starts, -⟩ := plain.1.name
  have opens : opensTag none (source.drop k) = true := by
    simp [← here, text, name, opensTag, isLetter_of_isNameStart starts]
  have inside : k < source.length := by
    refine List.drop_eq_nil_iff.not.mp ?_ |> Nat.lt_of_not_le
    simp [← here, text]
  have read := (plain.1.readTag?_here slash here.symm (apart k inside opens)).1
  have close : (tag.placedAt slash k).close < i := by
    simp only [text, List.length_cons, List.length_append, List.length_nil] at before
    simp only [placedAt]
    omega
  have walk := enclosingFrom_readTag read close level more
  rw [plain.1.isSelfClosing_here slash here.symm] at walk
  rw [← walk, text, offsetsFrom_bracket plain.not_mem]
  rfl

/-- An opening tag closes a level that is open. -/
theorem walks_opening (plain : tag.IsPlain) (apart : TagsApart source)
    (stands : StandsAt source k (tag.text false)) (before : k + (tag.text false).length ≤ i) (level : Nat) :
    Walks source i k (tag.text false) (level + 1) level :=
  plain.enclosingFrom_here apart stands before (level + 1)

/-- The tag of an element without content is passed over. -/
theorem walks_single (plain : tag.IsPlain) (apart : TagsApart source)
    (stands : StandsAt source k (tag.text true)) (before : k + (tag.text true).length ≤ i) (level : Nat) :
    Walks source i k (tag.text true) level level :=
  plain.enclosingFrom_here apart stands before level

end WrittenTag.IsPlain

section

variable {source : Text} {i k : Nat}

/-- What is opened, complete and closed is passed over. -/
theorem walks_enclosed {opening name inside : Text} (none : '<' ∉ name)
    (stands : StandsAt source k (enclosed opening name inside)) (level : Nat)
    (opens : Walks source i k opening (level + 1) level)
    (walks : Walks source i (k + opening.length) inside (level + 1) (level + 1)) :
    Walks source i k (enclosed opening name inside) level level :=
  (walks_closingTag none stands.right level).append (walks.append opens)

/-- An element is passed over if what stands in it is. -/
theorem WrittenTag.IsPlain.walks_element {tag : WrittenTag} (plain : tag.IsPlain) (apart : TagsApart source)
    {inside : Text} (stands : StandsAt source k (enclosed (tag.text false) tag.name inside))
    (before : k + (enclosed (tag.text false) tag.name inside).length ≤ i) (level : Nat)
    (walks : Walks source i (k + (tag.text false).length) inside (level + 1) (level + 1)) :
    Walks source i k (enclosed (tag.text false) tag.name inside) level level := by
  have le := Nat.le_of_add_right_le (le_of_length_enclosed before)
  have opens := plain.walks_opening apart stands.left.left le level
  exact walks_enclosed plain.not_mem_name stands level opens walks

/-- So is a fragment. -/
theorem walks_fragment {inside : Text} (stands : StandsAt source k (enclosed fragmentOpening [] inside))
    (level : Nat)
    (walks : Walks source i (k + fragmentOpening.length) inside (level + 1) (level + 1)) :
    Walks source i k (enclosed fragmentOpening [] inside) level level :=
  walks_enclosed List.not_mem_nil stands level (walks_fragmentOpening stands.left.left (level + 1)) walks

end

namespace Content

variable {source : Text} {i k : Nat}

/-- **What is complete leaves no trace**: the walk backward comes through a tree with as many closing tags
open as before. -/
theorem WellFormed.walks_render {c : Content} (formed : c.WellFormed) (apart : TagsApart source)
    (stands : StandsAt source k c.render) (before : k + c.render.length ≤ i) (level : Nat) :
    Walks source i k c.render level level := by
  induction c generalizing k level with
  | nothing => exact walks_text List.not_mem_nil level
  | text t rest ih =>
    rw [render, List.length_append, ← Nat.add_assoc] at before
    exact (ih formed.2 stands.right before level).append (walks_text formed.1 level)
  | single tag rest ih =>
    rw [render, List.length_append, ← Nat.add_assoc] at before
    refine (ih formed.2 stands.right before level).append ?_
    exact formed.1.walks_single apart stands.left (Nat.le_of_add_right_le before) level
  | element tag children rest inner ih =>
    obtain ⟨plain, content, behind⟩ := formed
    rw [render, List.length_append, ← Nat.add_assoc] at before
    refine (ih behind stands.right before level).append ?_
    have complete := Nat.le_of_add_right_le before
    refine plain.walks_element apart stands.left complete level ?_
    -- the closing tag is open while the walk comes through what stands in the element
    exact inner content stands.left.left.right (le_of_length_enclosed complete) (level + 1)
  | fragment children rest inner ih =>
    obtain ⟨content, behind⟩ := formed
    rw [render, List.length_append, ← Nat.add_assoc] at before
    refine (ih behind stands.right before level).append (walks_fragment stands.left level ?_)
    have complete := Nat.le_of_add_right_le before
    exact inner content stands.left.left.right (le_of_length_enclosed complete) (level + 1)

/-- Behind what is passed over, the walk ends where it ends without it. -/
theorem enclosingFrom_past {s : Text} {outer innermost : Option Tag} (stands : StandsAt source k s)
    (le : k + s.length ≤ i) (walks : Walks source i k s 0 0)
    (behind : ∀ more, enclosingFrom source i 0 more = outer →
      enclosingFrom source i 0 (bracketsBefore source (k + s.length) i ++ more) = innermost)
    {more : List Nat} (goesOn : enclosingFrom source i 0 more = outer) :
    enclosingFrom source i 0 (bracketsBefore source k i ++ more) = innermost := by
  rw [bracketsBefore_append stands le, List.append_assoc]
  exact behind _ ((walks more).trans goesOn)

/-- The walk from an offset in a text of a tree ends at the innermost element around it, if the walk that
goes on in front of the tree ends at the element that the tree stands in. -/
theorem InText.enclosingFrom_eq {c : Content} {outer innermost : Option Tag}
    (inside : InText i innermost c k outer) (formed : c.WellFormed) (apart : TagsApart source)
    (stands : StandsAt source k c.render) (more : List Nat) (goesOn : enclosingFrom source i 0 more = outer) :
    enclosingFrom source i 0 (bracketsBefore source k i ++ more) = innermost := by
  induction inside generalizing more with
  | here after before =>
    rw [bracketsBefore_text stands.left formed.1 before]
    exact goesOn
  | pastText inside ih =>
    obtain ⟨plain, behind⟩ := formed
    exact enclosingFrom_past stands.left inside.start_le (walks_text plain 0) (ih behind stands.right) goesOn
  | pastSingle inside ih =>
    obtain ⟨plain, behind⟩ := formed
    have walks := plain.walks_single apart stands.left inside.start_le 0
    exact enclosingFrom_past stands.left inside.start_le walks (ih behind stands.right) goesOn
  | inElement inside ih =>
    obtain ⟨plain, content, -⟩ := formed
    have le := inside.start_le
    -- the walk ends at this tag if nothing in the element ends it, whatever stands in front
    rw [bracketsBefore_append stands.left.left.left le, List.append_assoc]
    refine ih content stands.left.left.right _ ?_
    exact plain.enclosingFrom_here apart stands.left.left.left le 0 more
  | pastElement inside ih =>
    obtain ⟨plain, content, behind⟩ := formed
    have le := inside.start_le
    have inner := content.walks_render apart stands.left.left.right (le_of_length_enclosed le) 1
    have walks := plain.walks_element apart stands.left le 0 inner
    exact enclosingFrom_past stands.left le walks (ih behind stands.right) goesOn
  | inFragment inside ih =>
    have opening := stands.left.left.left
    have walks : Walks source i _ fragmentOpening 0 0 := walks_fragmentOpening opening 0
    exact enclosingFrom_past opening inside.start_le walks (ih formed.1 stands.left.left.right) goesOn
  | pastFragment inside ih =>
    obtain ⟨content, behind⟩ := formed
    have le := inside.start_le
    have inner := content.walks_render apart stands.left.left.right (le_of_length_enclosed le) 1
    exact enclosingFrom_past stands.left le (walks_fragment stands.left 0 inner) (ih behind stands.right) goesOn

/-- **The element around a text is found**: from an offset in a text of a tree, the walk backward ends at
the opening tag of the innermost element around the text, and at none if only fragments are around it,
whatever stands complete before. -/
theorem enclosingTag?_render {c : Content} (formed : c.WellFormed) (apart : TagsApart c.render)
    {i : Nat} {innermost : Option Tag} (inside : InText i innermost c 0 none) :
    enclosingTag? c.render i = innermost := by
  have found := inside.enclosingFrom_eq formed apart List.prefix_rfl [] rfl
  rwa [List.append_nil] at found

end Content

/-- Elements in a fragment, behind an element without content. -/
def card : Content :=
  let plain (name : Text) : WrittenTag := ⟨name, [], []⟩
  .element (plain "Box".toList) (.single (plain ['B']) <| .fragment
    (.element (plain ['i']) (.text "one".toList .nothing) <| .text [' '] <|
      .element ⟨['b'], [([' '], .valued ['t'] [] [] (.quoted '"' ['>']))], []⟩
        (.element (plain ['u']) (.text "two".toList .nothing) (.text " three".toList .nothing)) <|
      .text "four".toList .nothing)
    .nothing) .nothing

theorem card_formed : card.WellFormed := by
  have plain : ∀ {c : Char} {rest : Text}, isNameStart c = true → (∀ d ∈ rest, isNameChar d = true) →
      WrittenTag.IsPlain ⟨c :: rest, [], []⟩ := by
    intro c rest starts run
    exact ⟨⟨⟨c, rest, rfl, starts, run⟩, nofun, nofun⟩, List.not_mem_nil⟩
  have titled : WrittenTag.IsPlain ⟨['b'], [([' '], .valued ['t'] [] [] (.quoted '"' ['>']))], []⟩ := by
    refine ⟨⟨⟨'b', [], rfl, by decide, nofun⟩, ?_, nofun⟩, by decide⟩
    intro a mem
    cases List.mem_singleton.mp mem
    refine ⟨nofun, by decide, by decide, by decide, by decide, by decide, by decide, ?_⟩
    exact (holds_iff (c := '"')).mpr (by decide)
  exact ⟨plain (by decide) (by decide +kernel), ⟨plain (by decide) nofun, ⟨plain (by decide) nofun,
    ⟨by decide, trivial⟩, by decide, titled, ⟨plain (by decide) nofun, ⟨by decide, trivial⟩, by decide, trivial⟩,
    by decide, trivial⟩, trivial⟩, trivial⟩

/-- Around the third text is the element that it stands in, around the fourth one the outermost. -/
theorem card_enclosing :
    card.WellFormed ∧ TagsApart card.render ∧
      Content.InText 43 (some ⟨22, 30, ['b']⟩) card 0 none ∧
      Content.InText 52 (some ⟨0, 4, "Box".toList⟩) card 0 none ∧
      enclosingTag? card.render 43 = some ⟨22, 30, ['b']⟩ ∧
      enclosingTag? card.render 52 = some ⟨0, 4, "Box".toList⟩ := by
  have apart : TagsApart card.render := by decide +kernel
  have third : Content.InText 43 (some ⟨22, 30, ['b']⟩) card 0 none := by
    refine .inElement <| .pastSingle <| .inFragment <| .pastElement <| .pastText <| .inElement <| .pastElement ?_
    exact .here (by decide) (by decide)
  have fourth : Content.InText 52 (some ⟨0, 4, "Box".toList⟩) card 0 none := by
    refine .inElement <| .pastSingle <| .inFragment <| .pastElement <| .pastText <| .pastElement ?_
    exact .here (by decide) (by decide)
  exact ⟨card_formed, apart, third, fourth, Content.enclosingTag?_render card_formed apart third,
    Content.enclosingTag?_render card_formed apart fourth⟩

end Retouch.Markup
