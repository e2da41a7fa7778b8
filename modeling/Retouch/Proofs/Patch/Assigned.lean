import Retouch.Patch.Styles
import Retouch.Proofs.Markup.Unquoted

/-!
# An attribute set to a link

The attribute of a tag that shows an image is set to its address. An address has only characters that may stand in
every kind of quotes. So it is read back from an attribute in quotes, and from a new one, and the rest of the tag
is as it was. A value without delimiters is replaced as it stands, and there the reader stops at the first slash.
It reads the address exactly if that has none; no characters at all are read exactly if the reader takes nothing
from what follows (`setLiteralAttribute_assigns_iff`).
-/

namespace Retouch.Patch

open Retouch.Text Retouch.Markup Retouch.Locate

/-! ### Links -/

/-- A character of a link: no quote, blank, brace, angle bracket or backslash. -/
def isLinkChar (c : Char) : Bool := !(isOpener c || isBlank c || c == '}' || c == '<' || c == '>' || c == '\\')

variable {source out name value : Text} {tag : Tag} {ps qs : List Piece} {q : Char}

/-- What a link has none of. -/
theorem isLinkChar_iff {c : Char} :
    isLinkChar c = true ↔ isOpener c = false ∧ isBlank c = false ∧ c ≠ '}' ∧ c ≠ '<' ∧ c ≠ '>' ∧ c ≠ '\\' := by
  simp [isLinkChar, and_assoc]

/-- A link may stand in every kind of quotes. -/
theorem isInside_link (quote : isQuote q = true) (link : ∀ c ∈ value, isLinkChar c = true) :
    IsInside (.quoted q) value := by
  induction value with
  | nil => exact isInside_nil quote
  | cons c value ih =>
    obtain ⟨plain, -, -, -, -, noSlash⟩ := isLinkChar_iff.mp (link c (List.mem_cons_self ..))
    have rest : ∀ d ∈ value, isLinkChar d = true := fun d mem => link d (List.mem_cons_of_mem _ mem)
    refine .plain ?_ noSlash (fun _ _ head => ?_) (ih rest)
    · rintro rfl
      cases plain.symm.trans (isOpener_of_isQuote quote)
    · cases rest _ (List.mem_of_head? head)

/-- A link has only characters of a tag. -/
theorem isInTag_link (link : ∀ c ∈ value, isLinkChar c = true) : ∀ c ∈ value, isInTag c = true := by
  intro c mem
  obtain ⟨plain, -, -, -, goes, -⟩ := isLinkChar_iff.mp (link c mem)
  simp [isInTag, plain, goes]

/-! ### The tag after an attribute was set -/

/-- An attribute of a tag has the value in the source after, and the other ones say what they said. -/
structure Assigns (source out : Text) (tag tag' : Tag) (name value : Text) : Prop where
  /-- The value of the attribute. -/
  value : (findAttribute? out tag' [name]).map (·.value out) = some value
  /-- The other attributes have the names and values that they had. -/
  others : attributesBeside [name] out tag' = attributesBeside [name] source tag

/-- The source after has another tag in the place of one, and is the same apart from that. -/
structure TakesPlace (source out : Text) (tag tag' : Tag) : Prop where
  /-- In the place of the tag, the other one is read. -/
  read : readTag? out tag.start = some tag'
  /-- What stands in front of it, -/
  before : out.take tag.start = source.take tag.start
  /-- and behind it. -/
  behind : out.drop (tag'.close + 1) = source.drop (tag.close + 1)

/-- A tag with other pieces stands in the place of the tag, if it is read there. -/
theorem takesPlace_relaid (laid : tag.HasLayout source ps)
    (again : readTag? (tag.withPieces source qs) tag.start = some (tag.relaid qs)) :
    TakesPlace source (tag.withPieces source qs) tag (tag.relaid qs) :=
  ⟨again, laid.take_start qs, laid.drop_relaid qs⟩

/-- Pieces that say the value assign it. -/
theorem Assigns.of_said {name' : Text} {form : AttributeForm} (laid : tag.HasLayout source ps)
    (read : readTag? source tag.start = some tag) (admits : tag.Admits source qs)
    (said : Says [name] qs ps (name', form, value)) :
    TakesPlace source (tag.withPieces source qs) tag (tag.relaid qs) ∧
      Assigns source (tag.withPieces source qs) tag (tag.relaid qs) name value := by
  obtain ⟨again, laid', -⟩ := laid.relaid read admits
  refine ⟨takesPlace_relaid laid again, ?_, ?_⟩
  · have view := findAttribute?_view laid' [name]
    rw [said.found] at view
    obtain ⟨b, found, spoken⟩ := Option.map_eq_some_iff.mp view
    rw [found, Option.map_some]
    exact congrArg (fun view => some view.2.2) spoken
  · rw [attributesBeside_eq laid', attributesBeside_eq laid]
    exact said.others

/-- Whether an attribute reads a link back as it stands: one without delimiters ends at a slash, and takes from what
follows if it is empty. -/
def Fits (source : Text) (a : Attribute) (value : Text) : Prop :=
  a.form = .unquoted → '/' ∉ value ∧ (value = [] → valueAhead? (source.drop a.valueStop) = some [])

/-- **A link is read back exactly if it fits the attribute.** When an attribute of a tidy tag is set to a link, a tag
is read in its place, what stands in front of it and behind it is the same, and the attribute has the value while
the others are as they were, exactly if it was not there, or stood in quotes, or the link fits a value without
delimiters. -/
theorem setLiteralAttribute_assigns_iff (read : readTag? source tag.start = some tag) (tidy : tag.IsTidy source)
    (nonempty : name ≠ []) (letters : ∀ c ∈ name, isAttributeChar c = true)
    (link : ∀ c ∈ value, isLinkChar c = true) (done : setLiteralAttribute source tag name value = .ok out) :
    ∃ tag', TakesPlace source out tag tag' ∧
      (Assigns source out tag tag' name value ↔
        ∀ a, findAttribute? source tag [name] = some a → Fits source a value) := by
  obtain ⟨ps, laid⟩ := tidy.exists_layout read
  unfold setLiteralAttribute at done
  cases found : findAttribute? source tag [name] with
  | none =>
    rw [found] at done
    obtain ⟨qs, admits, spliced, said⟩ := exists_inserted laid found (List.mem_singleton_self name) nonempty letters
      (isInside_link rfl link)
    obtain rfl : out = tag.withPieces source qs := (Except.ok.inj done).symm.trans spliced
    obtain ⟨stands, assigns⟩ := Assigns.of_said laid read admits said
    exact ⟨_, stands, fun _ => nofun, fun _ => assigns⟩
  | some a =>
    rw [found] at done
    dsimp only at done
    cases form : a.form with
    | bare | expression =>
      rw [Attribute.isLiteral, form, if_neg (by decide)] at done
      cases done
    | literal q inBraces =>
      rw [Attribute.isLiteral, form, if_pos rfl] at done
      obtain ⟨quote, -, exchange⟩ := exists_exchanged laid read found form
      obtain ⟨qs, admits, spliced, said⟩ := exchange value (isInside_link quote link)
      obtain rfl : out = tag.withPieces source qs := (Except.ok.inj done).symm.trans spliced
      obtain ⟨stands, assigns⟩ := Assigns.of_said laid read admits said
      refine ⟨_, stands, fun _ b same unquoted => ?_, fun _ => assigns⟩
      obtain rfl := Option.some.inj same
      cases form.symm.trans unquoted
    | unquoted =>
      rw [Attribute.isLiteral, form, if_pos rfl] at done
      obtain ⟨front, gap, lead, v, back, gives⟩ := exists_gives laid found (form ▸ nofun)
      obtain ⟨-, -, again⟩ := gives.readTag?_unquoted laid read (isInTag_link link)
      have spliced := gives.splice_unquoted laid form value
      obtain rfl : out = tag.withPieces source _ := (Except.ok.inj done).symm.trans spliced
      refine ⟨_, takesPlace_relaid laid again, fun assigns b same _ => ?_, fun fits => ?_⟩
      · -- what is read is what the reader takes from the link and what follows it
        obtain rfl := Option.some.inj same
        have taken := gives.value_unquoted laid read form (isInTag_link link) spliced again
        rw [assigns.value] at taken
        refine ⟨fun slash => ?_, fun empty => ?_⟩
        · exact valueAhead?_slash (fun c mem => (isLinkChar_iff.mp (link c mem)).imp id And.left) slash taken.symm
        · subst empty
          exact taken.symm
      · obtain ⟨noSlash, rest⟩ := fits a rfl form
        obtain ⟨qs, form', admits, spliced', said⟩ : ∃ qs form', tag.Admits source qs ∧
            splice source a.valueStart a.valueStop value = tag.withPieces source qs ∧
            Says [name] qs ps (a.name, form', value) := by
          by_cases empty : value = []
          · subst empty
            exact gives.exists_emptied laid read form (rest rfl)
          · have chars : ∀ c ∈ value, ValueText.isUnquotedChar c = true := by
              intro c mem
              obtain ⟨-, noBlank, -, -, goes, -⟩ := isLinkChar_iff.mp (link c mem)
              have noSlash : c ≠ '/' := fun slash => noSlash (slash ▸ mem)
              simp [ValueText.isUnquotedChar, noBlank, goes, noSlash]
            obtain ⟨qs, facts⟩ := gives.exists_unquoted laid read form empty (isInTag_link link) chars
            exact ⟨qs, a.form, facts⟩
        obtain ⟨stands, assigns⟩ := Assigns.of_said laid read admits said
        rw [← spliced', spliced] at stands assigns
        rwa [Option.some.inj (stands.read.symm.trans again)] at assigns

/-- An image whose address stands without quotes. -/
def logoImage : Text := "<img src=a.png alt=\"Logo\">".toList

/-- The tag as it is read. -/
def imageTag : Tag := ⟨0, 25, "img".toList⟩

/-- Another address in the same place. -/
def nextImage : Text := "<img src=b.png?v=2 alt=\"Logo\">".toList

/-- An address without a slash is read back. -/
theorem nextImage_assigns :
    readTag? logoImage imageTag.start = some imageTag ∧ imageTag.IsTidy logoImage ∧ "src".toList ≠ [] ∧
      (∀ c ∈ "src".toList, isAttributeChar c = true) ∧ (∀ c ∈ "b.png?v=2".toList, isLinkChar c = true) ∧
      setLiteralAttribute logoImage imageTag "src".toList "b.png?v=2".toList = .ok nextImage ∧
      ∃ tag', TakesPlace logoImage nextImage imageTag tag' ∧
        Assigns logoImage nextImage imageTag tag' "src".toList "b.png?v=2".toList := by
  have read : readTag? logoImage imageTag.start = some imageTag := by decide
  have tidy : imageTag.IsTidy logoImage := by decide
  have done : setLiteralAttribute logoImage imageTag "src".toList "b.png?v=2".toList = .ok nextImage := by rfl
  have letters : ∀ c ∈ "src".toList, isAttributeChar c = true := by decide
  have link : ∀ c ∈ "b.png?v=2".toList, isLinkChar c = true := by decide
  obtain ⟨tag', stands, fits⟩ := setLiteralAttribute_assigns_iff read tidy (by decide) letters link done
  refine ⟨read, tidy, by decide, letters, link, done, tag', stands, fits.mpr fun a _ _ => ⟨by decide, ?_⟩⟩
  exact fun empty => absurd empty (by decide)

/-- An address with slashes in the same place. -/
def slashedImage : Text := "<img src=/img/b.png alt=\"Logo\">".toList

/-- An address that starts with a slash is written and not read back. -/
theorem slashedImage_lost :
    readTag? logoImage imageTag.start = some imageTag ∧ imageTag.IsTidy logoImage ∧
      (∀ c ∈ "/img/b.png".toList, isLinkChar c = true) ∧
      setLiteralAttribute logoImage imageTag "src".toList "/img/b.png".toList = .ok slashedImage ∧
      ∃ tag', readTag? slashedImage imageTag.start = some tag' ∧
        (findAttribute? slashedImage tag' ["src".toList]).map (·.value slashedImage) = some [] ∧
        ¬ Assigns logoImage slashedImage imageTag tag' "src".toList "/img/b.png".toList := by
  have value : (findAttribute? slashedImage ⟨0, 30, "img".toList⟩ ["src".toList]).map (·.value slashedImage) =
      some [] := by decide
  refine ⟨by decide, by decide, by decide, rfl, ⟨0, 30, "img".toList⟩, by decide, value, fun assigns => ?_⟩
  cases value.symm.trans assigns.value

end Retouch.Patch
