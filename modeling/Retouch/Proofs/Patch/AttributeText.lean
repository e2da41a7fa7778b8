import Retouch.Proofs.Markup.StartTag
import Retouch.Proofs.Markup.Written
import Retouch.Proofs.Patch.Context
import Retouch.Proofs.Patch.Occurrences
import Retouch.Proofs.Patch.Verbatim

/-!
# A text in an attribute of a page

A browser ends the value of an attribute at the next equal quote and gives backslashes no meaning. A new text
that is put there as in a string is therefore read back only if it stands as it is: no quote of the attribute or
of the string in it, no backslash, no line feed or hole that a string covers, and no reference
(`replaceText_value_iff`).
-/

namespace Retouch.Patch

open Retouch.Text Retouch.Markup Retouch.Locate

/-- A text in the value of an attribute of a tag, which may hold other texts in front of it and behind it. -/
structure AttributePlace where
  /-- What stands in front of the tag. -/
  before : Text
  /-- The tag up to the quote that opens the value. -/
  opening : Text
  /-- The name of its element. -/
  name : Text
  /-- The attributes in front. -/
  attributes : List (Text × Text)
  /-- The name of the attribute. -/
  key : Text
  /-- The quote of the value. -/
  quote : Char
  /-- The value up to the text. -/
  lead : Text
  /-- The text. -/
  text : Text
  /-- The rest of the value. -/
  trail : Text
  /-- What stands behind the value. -/
  after : Text
  /-- An attribute stands in one of two quotes. -/
  quotes : quote = '"' ∨ quote = '\''
  /-- The tag is read up to the sign of the attribute. -/
  opens : StartTag.opened? opening = some ⟨name, attributes, .sign key⟩
  /-- The value has no such quote in it. -/
  inside : quote ∉ lead ++ text ++ trail

/-- The new text without the blanks around it, if the old text has any around it. -/
def freshText (old new : Text) : Text := if strip old == old then new else strip new

/-- A text means itself in a string of an attribute's value: the quotes are those of the value and those of the
string, which may be the same. -/
structure IsVerbatim (refs : References) (quote q : Char) (t : Text) : Prop where
  /-- It does not end the value. -/
  inside : quote ∉ t
  /-- It does not end the string. -/
  within : q ∉ t
  /-- It has no backslash. -/
  bare : '\\' ∉ t
  /-- It opens no hole in back quotes. -/
  noHole : q = backQuote → ¬ ['$', '{'] <:+: t
  /-- It is one line in other quotes. -/
  noFeed : q ≠ backQuote → '\n' ∉ t
  /-- It has no reference. -/
  free : refs.IsFree t

theorem isVerbatim_iff {refs : References} {quote q : Char} {t : Text} :
    IsVerbatim refs quote q t ↔ quote ∉ t ∧ escaped q t = t ∧ refs.IsFree t := by
  rw [escaped_eq_self_iff]
  constructor
  · rintro ⟨inside, within, bare, noHole, noFeed, free⟩
    exact ⟨inside, ⟨bare, within, noHole, noFeed⟩, free⟩
  · rintro ⟨inside, ⟨bare, within, noHole, noFeed⟩, free⟩
    exact ⟨inside, within, bare, noHole, noFeed, free⟩

/-- A quote is in no reference. -/
theorem isApart_of_isQuote {q : Char} (quote : isQuote q = true) : References.IsApart q := by
  rcases isQuote_cases quote with rfl | rfl | rfl <;> decide

namespace AttributePlace

/-- The source with a value in its place. -/
def withValue (place : AttributePlace) (value : Text) : Text :=
  place.before ++ (place.opening ++ (place.quote :: (value ++ place.quote :: place.after)))

/-- The source that the text stands in. -/
def source (place : AttributePlace) : Text := place.withValue (place.lead ++ place.text ++ place.trail)

/-- The offset of the text. -/
def start (place : AttributePlace) : Nat :=
  place.before.length + (place.opening.length + (1 + place.lead.length))

/-- The quote in front of the text. -/
def around (place : AttributePlace) : Char := place.lead.getLast?.getD place.quote

variable {place : AttributePlace}

theorem isQuote_quote : isQuote place.quote = true := by
  rcases place.quotes with quote | quote <;> rw [quote] <;> rfl

/-! ### What is read -/

/-- The value that is read ends at the first quote. -/
theorem read?_withValue {value u t : Text} (ends : value ++ place.quote :: place.after = u ++ place.quote :: t)
    (inside : place.quote ∉ u) :
    StartTag.read? ((place.withValue value).drop place.before.length) =
      (StartTag.readFrom ⟨place.name, [], .gap⟩ t).map fun r =>
        (r.1.behind (place.attributes ++ [(place.key, u)]), r.2) := by
  rw [withValue, List.drop_left, StartTag.read?_append place.opens, ends,
    StartTag.readFrom_value place.quotes inside]

/-! ### The string around the text -/

/-- The source in front of the text, the text and the source behind it. -/
theorem source_eq :
    place.source = (place.before ++ place.opening ++ place.quote :: place.lead) ++
      (place.text ++ (place.trail ++ place.quote :: place.after)) := by
  simp [source, withValue]

theorem length_front :
    (place.before ++ place.opening ++ place.quote :: place.lead).length = place.start := by
  simp [start]
  omega

/-- The text is the whole value, or a string inside the value in other quotes. -/
def IsEnclosed (place : AttributePlace) : Prop :=
  (place.lead = [] ∧ place.trail = [] ∧ place.around = place.quote) ∨
    ∃ l t, place.lead = l ++ [place.around] ∧ place.trail = place.around :: t ∧ place.around ≠ place.quote

/-- The quotes around a string are those of the value or stand in the value. -/
theorem isEnclosed_of_inQuotes {q : Char}
    (quotes : InQuotes place.source place.start (place.start + place.text.length) q) :
    q = place.around ∧ place.IsEnclosed := by
  obtain ⟨-, front, behind⟩ := quotes
  rw [source_eq, ← length_front, WrittenTag.charBefore?_append] at front
  rw [source_eq, ← length_front, List.getElem?_append_right (by simp), Nat.add_sub_cancel_left,
    List.getElem?_append_right (by simp), Nat.sub_self] at behind
  have noLead : place.quote ∉ place.lead := fun mem => place.inside (by simp [mem])
  have noTrail : place.quote ∉ place.trail := fun mem => place.inside (by simp [mem])
  have same : place.around = q := by
    rw [List.getLast?_append, List.getLast?_cons] at front
    simpa [around] using front
  subst same
  refine ⟨rfl, ?_⟩
  rcases List.eq_nil_or_concat place.lead with lead | ⟨l, c, lead⟩
  · have whole : place.around = place.quote := by simp [around, lead]
    refine .inl ⟨lead, ?_, whole⟩
    cases trail : place.trail with
    | nil => rfl
    | cons c t =>
      rw [trail, whole] at behind
      cases behind
      exact absurd (by simp [trail]) noTrail
  · have last : place.around = c := by simp [around, lead]
    subst last
    have other : place.around ≠ place.quote := by
      intro same
      rw [lead, same] at noLead
      simp at noLead
    cases trail : place.trail with
    | nil =>
      rw [trail] at behind
      exact absurd (Option.some.inj behind).symm other
    | cons d t =>
      rw [trail] at behind
      exact .inr ⟨l, t, by simpa using lead, by rw [trail, Option.some.inj behind], other⟩

/-- A text without the quote of the value brings none. -/
theorem not_mem_front {t : Text} (inside : place.quote ∉ t) :
    place.quote ∉ place.lead ++ escaped place.around t := by
  intro mem
  rcases List.mem_append.mp mem with lead | text
  · exact place.inside (by simp [lead])
  · have noLetter : place.quote ≠ 'n' := ne_of_class isQuote_quote (by decide)
    rcases mem_of_mem_escaped text with cover | letter | mem
    · exact isQuote_ne_backslash isQuote_quote cover
    · exact noLetter letter
    · exact inside mem

theorem not_mem_value {t : Text} (inside : place.quote ∉ t) :
    place.quote ∉ place.lead ++ escaped place.around t ++ place.trail := by
  intro mem
  rcases List.mem_append.mp mem with front | trail
  · exact not_mem_front inside front
  · exact place.inside (by simp [trail])

namespace IsEnclosed

variable (enclosed : place.IsEnclosed)

include enclosed

/-- The value is decoded in its parts, whatever stands in the string. -/
theorem decode_parts (quote : isQuote place.around = true) (refs : References) (t : Text) :
    refs.decode (place.lead ++ t) = refs.decode place.lead ++ refs.decode t ∧
      refs.decode (t ++ place.trail) = refs.decode t ++ refs.decode place.trail := by
  have apart := isApart_of_isQuote quote
  rcases enclosed with ⟨lead, trail, -⟩ | ⟨l, s, lead, trail, -⟩
  · simp [lead, trail, References.decode, References.decodeFrom]
  · constructor
    · rw [lead, List.append_assoc, List.singleton_append, References.decode_append apart,
        References.decode_append apart]
      simp [References.decode, References.decodeFrom]
    · rw [trail, References.decode_append apart, ← List.nil_append (place.around :: s),
        References.decode_append apart]
      rfl

/-- A text with the quote of the value in it ends the value at the first one, and at most a backslash comes in
front of it. -/
theorem value_ends {p : Text} (inside : place.quote ∉ p) (r : Text) :
    ∃ k s, place.lead ++ escaped place.around (p ++ place.quote :: r) ++ place.trail =
        (place.lead ++ escaped place.around p ++ k) ++ place.quote :: s ∧ (∀ c ∈ k, c = '\\') ∧
      place.quote ∉ place.lead ++ escaped place.around p ++ k := by
  have head : (place.quote :: r).head? ≠ some '{' := by
    have other : place.quote ≠ '{' := ne_of_class isQuote_quote (by decide)
    simpa using other
  have front := not_mem_front inside
  rw [escaped_append head]
  rcases enclosed with ⟨lead, trail, whole⟩ | ⟨-, -, -, -, other⟩
  · have letter : letterOf place.quote = place.quote := if_neg (by
      have noFeed : place.quote ≠ '\n' := ne_of_class isQuote_quote (by decide)
      simpa using noFeed)
    have covered : isCovered place.quote place.quote r = true := by simp [isCovered]
    rw [whole] at front ⊢
    rw [escaped_covered covered, letter]
    refine ⟨['\\'], escaped place.quote r ++ place.trail, by simp, by simp, fun mem => ?_⟩
    rcases List.mem_append.mp mem with early | late
    · exact front early
    · exact isQuote_ne_backslash isQuote_quote (List.mem_singleton.mp late)
  · have plain : isCovered place.around place.quote r = false := by
      rcases place.quotes with quote | quote <;> rw [quote] at other ⊢ <;> simp [isCovered, other.symm]
    rw [escaped_plain plain]
    exact ⟨[], escaped place.around r ++ place.trail, by simp, by simp, by simpa using front⟩

end IsEnclosed

/-- What a replacement of the text as a string comes to. -/
theorem modified_eq {old new : Text} {anchor? : Option Int} {html : Bool} {patch : TextPatch}
    (spells : Spells (words old) place.text)
    (edited : replaceText place.source old new anchor? html = .ok patch) (here : patch.start = place.start)
    (string : patch.context = .string) :
    isQuote place.around = true ∧ place.IsEnclosed ∧
      patch.modified =
        place.withValue (place.lead ++ escaped place.around (freshText old new) ++ place.trail) := by
  have drop : place.source.drop place.start = place.text ++ (place.trail ++ place.quote :: place.after) := by
    rw [source_eq, ← length_front, List.drop_left]
  have occurs : IsOccurrence place.source old (place.start, place.start + place.text.length) :=
    isOccurrence_iff.mpr ⟨place.text, spells, ⟨_, drop.symm⟩, rfl⟩
  obtain ⟨span, chosen, replaces⟩ := (replaceText_eq_ok_iff spells.worded).mp edited
  obtain rfl := chosen.occurs.eq_of_start occurs (replaces.start.symm.trans here)
  have accepted := chosen.accepted
  have modified := replaces.modified
  rw [string] at accepted modified
  obtain ⟨-, -, -, -, ⟨q, quotes⟩, -⟩ := contextOf?_eq_string_iff.mp accepted
  obtain ⟨rfl, enclosed⟩ := isEnclosed_of_inQuotes quotes
  obtain ⟨quote, front, -⟩ := quotes
  dsimp only at front modified
  have text : newText place.source old new html place.start .string =
      escaped place.around (freshText old new) := by
    rw [newText, front]
    exact escapeInString_eq quote _
  refine ⟨quote, enclosed, ?_⟩
  rw [modified, text, ← List.drop_drop, drop, List.drop_left, source_eq, ← length_front, List.take_left]
  simp [withValue]

end AttributePlace

/-! ### What a browser reads then -/

/-- Backslashes are read as they stand. -/
theorem decode_append_covers (refs : References) {k : Text} (covers : ∀ c ∈ k, c = '\\') (t : Text) :
    refs.decode (t ++ k) = refs.decode t ++ k := by
  induction k generalizing t with
  | nil => simp
  | cons c k ih =>
    obtain ⟨rfl, later⟩ := List.forall_mem_cons.mp covers
    have rest := ih later []
    rw [References.decode_append (by decide), ← List.nil_append k, rest]
    rfl

/-- The attribute behind the same ones has one value. -/
theorem value_eq_of_behind {r : Option (StartTag × Text)} {inner : StartTag} {front : List (Text × Text)}
    {key u value rest : Text}
    (same : (r.map fun r => (r.1.behind (front ++ [(key, u)]), r.2)) =
      some (inner.behind (front ++ [(key, value)]), rest)) : value = u := by
  obtain ⟨⟨inner', rest'⟩, -, same⟩ := Option.map_eq_some_iff.mp same
  have attributes := congrArg (fun r => r.1.attributes) same
  simp only [StartTag.behind, List.append_assoc, List.append_cancel_left_eq, List.singleton_append,
    List.cons.injEq, Prod.mk.injEq, true_and] at attributes
  exact attributes.1.symm

/-- A browser reads a new text in the place of the old one, and the rest of the tag as it was. -/
def AttributePlace.ReadsBack (place : AttributePlace) (refs : References) (tag : StartTag)
    (rest modified fresh : Text) : Prop :=
  ∃ value, StartTag.read? (modified.drop place.before.length) =
      some ({ tag with attributes := tag.attributes.set place.attributes.length (place.key, value) }, rest) ∧
    refs.decode value = refs.decode place.lead ++ fresh ++ refs.decode place.trail

/-- **What a browser reads** where a text in an attribute was replaced as a string: the new text, and the rest of
the tag as it was, exactly if the new text means itself there. -/
theorem replaceText_value_iff (place : AttributePlace) (refs : References) {old new : Text} {anchor? : Option Int}
    {patch : TextPatch} {tag : StartTag} {rest : Text} (spells : Spells (words old) place.text)
    (reads : StartTag.read? (place.source.drop place.before.length) = some (tag, rest))
    (edited : replaceText place.source old new anchor? true = .ok patch) (here : patch.start = place.start)
    (string : patch.context = .string) :
    place.ReadsBack refs tag rest patch.modified (freshText old new) ↔
      IsVerbatim refs place.quote place.around (freshText old new) := by
  obtain ⟨quote, enclosed, modified⟩ := AttributePlace.modified_eq spells edited here string
  rw [AttributePlace.source, AttributePlace.read?_withValue rfl place.inside] at reads
  obtain ⟨⟨inner, rest⟩, behind, same⟩ := Option.map_eq_some_iff.mp reads
  cases same
  -- the tag with another value is what is read behind it, with the other value in front
  have other : ∀ value : Text,
      ({ inner.behind (place.attributes ++ [(place.key, place.lead ++ place.text ++ place.trail)]) with
        attributes := (inner.behind (place.attributes ++
          [(place.key, place.lead ++ place.text ++ place.trail)])).attributes.set place.attributes.length
            (place.key, value) } : StartTag) = inner.behind (place.attributes ++ [(place.key, value)]) := by
    intro value
    simp [StartTag.behind]
  rw [isVerbatim_iff, modified, AttributePlace.ReadsBack]
  simp only [other]
  generalize freshText old new = fresh
  constructor
  · rintro ⟨value, read, decoded⟩
    by_cases ends : place.quote ∈ fresh
    · -- what is read stops at the first quote, and it does not go on like the new text
      obtain ⟨p, r, rfl, early⟩ := List.eq_append_cons_of_mem ends
      obtain ⟨k, s, split, covers, front⟩ := enclosed.value_ends early r
      rw [AttributePlace.read?_withValue (t := s ++ place.quote :: place.after) (by rw [split]; simp) front] at read
      have noCover : place.quote ≠ '\\' := isQuote_ne_backslash AttributePlace.isQuote_quote
      rw [value_eq_of_behind read, List.append_assoc, (enclosed.decode_parts quote refs _).1,
        decode_append_covers refs covers, List.append_assoc, List.append_cancel_left_eq, List.append_assoc,
        List.cons_append] at decoded
      exact absurd decoded (decode_escaped_append_ne quote covers noCover)
    · rw [AttributePlace.read?_withValue rfl (AttributePlace.not_mem_value ends)] at read
      rw [value_eq_of_behind read, (enclosed.decode_parts quote refs _).2, (enclosed.decode_parts quote refs _).1,
        List.append_left_inj, List.append_right_inj] at decoded
      exact ⟨ends, (decode_escaped_eq_iff quote).mp decoded⟩
  · rintro ⟨inside, right⟩
    refine ⟨place.lead ++ escaped place.around fresh ++ place.trail, ?_, ?_⟩
    · rw [AttributePlace.read?_withValue rfl (AttributePlace.not_mem_value inside), behind]
      rfl
    · rw [(enclosed.decode_parts quote refs _).2, (enclosed.decode_parts quote refs _).1,
        (decode_escaped_eq_iff quote).mpr right]

/-- The text of an image, in an attribute. -/
def logo : AttributePlace where
  before := []
  opening := "<img alt=".toList
  name := "img".toList
  attributes := []
  key := "alt".toList
  quote := '"'
  lead := []
  text := "Logo".toList
  trail := []
  after := ">".toList
  quotes := .inl rfl
  opens := by decide
  inside := by decide

/-- The tag of the image. -/
def logoTag : StartTag := ⟨"img".toList, [("alt".toList, "Logo".toList)], .gap⟩

/-- Words and an apostrophe are read back. -/
theorem logo_readsBack :
    Spells (words "Logo".toList) logo.text ∧
      StartTag.read? (logo.source.drop 0) = some (logoTag, []) ∧
      replaceText logo.source "Logo".toList "Ann's logo".toList none true =
        .ok ⟨"<img alt=\"Ann's logo\">".toList, 10, 20, .string⟩ ∧
      IsVerbatim .common '"' '"' "Ann's logo".toList ∧
      logo.ReadsBack .common logoTag [] "<img alt=\"Ann's logo\">".toList "Ann's logo".toList := by
  have spells : Spells (words "Logo".toList) logo.text := .last ⟨by decide, by decide⟩
  have reads : StartTag.read? (logo.source.drop 0) = some (logoTag, []) := by decide
  have edited : replaceText logo.source "Logo".toList "Ann's logo".toList none true =
      .ok ⟨"<img alt=\"Ann's logo\">".toList, 10, 20, .string⟩ := by decide +kernel
  have verbatim : IsVerbatim .common '"' '"' "Ann's logo".toList :=
    ⟨by decide, by decide, by decide, by decide, by decide, by decide⟩
  exact ⟨spells, reads, edited, verbatim,
    (replaceText_value_iff logo .common spells reads edited rfl rfl).mpr verbatim⟩

/-- What a browser reads when the text has quotes in it. -/
def brokenTag : StartTag :=
  ⟨"img".toList, [("alt".toList, "say \\".toList), ("hi\\\"\"".toList, [])], .key "hi\\\"\"".toList⟩

/-- Quotes are not: the value ends at the first one, and the rest of the text becomes an attribute. -/
theorem logo_breaksOut :
    replaceText logo.source "Logo".toList "say \"hi\"".toList none true =
        .ok ⟨"<img alt=\"say \\\"hi\\\"\">".toList, 10, 20, .string⟩ ∧
      StartTag.read? "<img alt=\"say \\\"hi\\\"\">".toList = some (brokenTag, []) ∧
      ¬ logo.ReadsBack .common logoTag [] "<img alt=\"say \\\"hi\\\"\">".toList "say \"hi\"".toList := by
  have read : StartTag.read? "<img alt=\"say \\\"hi\\\"\">".toList = some (brokenTag, []) := by decide
  refine ⟨by decide +kernel, read, ?_⟩
  rintro ⟨value, other, -⟩
  have attributes := congrArg (fun r => r.map fun r => r.1.attributes.length) (read.symm.trans other)
  cases attributes

end Retouch.Patch
