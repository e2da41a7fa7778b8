import Retouch.Proofs.Patch.Rewritten
import Retouch.Proofs.Style.Declared

/-!
# Inline styles rewritten

A batch of changes to the inline style of a tag, where that is a string in quotes, writes a new text between
these quotes, or is refused as a whole. What is refused does not depend on the quotes. So a text may be written
that ends the attribute, and the tag is read with its new style exactly if the text stands inside of the quotes
(`applyStyleChanges_restyles_iff`): in a string of simple quotes, the name of a font in simple quotes does not
(`font_ends_style`).
-/

namespace Retouch.Style

open Retouch.Text Retouch.Markup

variable {P : Char → Prop} {t style : Text} {ds ds' : List Declaration} {changes : List StyleChange}
  {change : StyleChange} {q : Char}

/-! ### Characters of an inline style -/

/-- What is read from a text has its characters. -/
theorem readFrom_all {skip : Nat} (all : ∀ c ∈ t, P c) {d : Declaration}
    (mem : d ∈ Declaration.readFrom skip t) : (∀ c ∈ d.key, P c) ∧ ∀ c ∈ d.value, P c := by
  fun_induction Declaration.readFrom skip t with
  | case1 => cases mem
  | case2 _ _ _ ih => exact ih (List.forall_mem_cons.mp all).2 mem
  | case3 c rest first taken read ih =>
    rcases List.mem_cons.mp mem with rfl | later
    · obtain ⟨gap, span, more, shape, -, -, -, -, -, value, -⟩ := Declaration.at?_eq_some_iff.mp read
      rw [shape] at all
      obtain ⟨key, all⟩ := List.forall_mem_append.mp all
      obtain ⟨-, all⟩ := List.forall_mem_append.mp all
      obtain ⟨spans, -⟩ := List.forall_mem_append.mp (List.forall_mem_cons.mp all).2
      refine ⟨key, fun c mem => ?_⟩
      rw [value] at mem
      unfold Declaration.valueOf at mem
      split at mem
      · exact spans c (List.mem_of_mem_drop mem)
      · exact strip_all spans c mem
    · exact ih (List.forall_mem_cons.mp all).2 later
  | case4 _ _ _ ih => exact ih (List.forall_mem_cons.mp all).2 mem

/-- What is written has the characters of keys and values, and marks between them. -/
theorem write_all (marks : ∀ c ∈ [':', ';', ' '], P c)
    (all : ∀ d ∈ ds, (∀ c ∈ d.key, P c) ∧ ∀ c ∈ d.value, P c) : ∀ c ∈ Declaration.write ds, P c := by
  have colon := marks ':' (by decide)
  have blank := marks ' ' (by decide)
  refine join_all ?_ fun u mem => ?_
  · exact List.forall_mem_cons.mpr ⟨marks ';' (by decide), List.forall_mem_cons.mpr ⟨blank, nofun⟩⟩
  · obtain ⟨d, here, rfl⟩ := List.mem_map.mp mem
    obtain ⟨key, value⟩ := all d here
    exact List.forall_mem_append.mpr
      ⟨key, List.forall_mem_cons.mpr ⟨colon, List.forall_mem_cons.mpr ⟨blank, value⟩⟩⟩

/-- A change brings its key and its value. -/
theorem apply_all (key : ∀ c ∈ changedKey change, P c) (value : ∀ c ∈ freshValue change, P c)
    (applied : Declaration.apply ds change = .ok ds')
    (all : ∀ d ∈ ds, (∀ c ∈ d.key, P c) ∧ ∀ c ∈ d.value, P c) :
    ∀ d ∈ ds', (∀ c ∈ d.key, P c) ∧ ∀ c ∈ d.value, P c := by
  obtain ⟨-, edited⟩ := Declaration.apply_eq_ok_iff.mp applied
  intro d mem
  rcases edited.mem mem with old | new
  · exact all d old
  · unfold declared? at new
    split at new
    · cases new
    · cases new
      exact ⟨key, value⟩

/-- So does a batch. -/
theorem foldlM_apply_all (fresh : ∀ change ∈ changes, (∀ c ∈ changedKey change, P c) ∧ ∀ c ∈ freshValue change, P c)
    (applied : changes.foldlM Declaration.apply ds = .ok ds')
    (all : ∀ d ∈ ds, (∀ c ∈ d.key, P c) ∧ ∀ c ∈ d.value, P c) :
    ∀ d ∈ ds', (∀ c ∈ d.key, P c) ∧ ∀ c ∈ d.value, P c := by
  induction changes generalizing ds with
  | nil =>
    cases applied
    exact all
  | cons change changes ih =>
    obtain ⟨⟨key, value⟩, later⟩ := List.forall_mem_cons.mp fresh
    obtain ⟨ds'', first, rest⟩ := bind_eq_ok.mp applied
    exact ih later rest (apply_all key value first all)

/-- **An inline style after changes** has the characters that it had, those of the changes, and marks between
them. -/
theorem applyToStyleText_all (old : ∀ c ∈ t, P c) (marks : ∀ c ∈ [':', ';', ' '], P c)
    (fresh : ∀ change ∈ changes, (∀ c ∈ changedKey change, P c) ∧ ∀ c ∈ freshValue change, P c)
    (applied : applyToStyleText t changes = .ok style) : ∀ c ∈ style, P c := by
  obtain ⟨ds, folded, rfl⟩ := map_eq_ok.mp applied
  exact write_all marks (foldlM_apply_all fresh folded fun d mem => readFrom_all old mem)

/-! ### Names in letters, figures and hyphens -/

/-- A property whose name has letters, figures and hyphens. -/
def IsPlainProperty (property : String) : Prop := ∀ c ∈ property.toList, Declaration.isKeyChar c = true

instance (property : String) : Decidable (IsPlainProperty property) := decidableForallChar property.toList

/-- A capital becomes a small letter. -/
theorem isKeyChar_lowerChar {c d : Char} (capital : isCapital c = true) (mem : d ∈ lowerChar c) :
    Declaration.isKeyChar d = true := by
  have all : ∀ n ∈ List.range' 0x41 26, ∀ d ∈ lowerChar (Char.ofNat n), Declaration.isKeyChar d = true := by
    decide
  have bounds : 'A' ≤ c ∧ c ≤ 'Z' := by simpa [isCapital] using capital
  obtain ⟨first, last⟩ : 0x41 ≤ c.toNat ∧ c.toNat ≤ 0x5A := bounds
  exact all c.toNat (List.mem_range'_1.mpr ⟨first, by omega⟩) d (by rwa [Char.ofNat_toNat])

theorem kebabAfter_all (before : Option Char) (plain : ∀ c ∈ t, Declaration.isKeyChar c = true) :
    ∀ c ∈ kebabAfter before t, Declaration.isKeyChar c = true := by
  induction t generalizing before with
  | nil => nofun
  | cons c t ih =>
    obtain ⟨here, later⟩ := List.forall_mem_cons.mp plain
    refine List.forall_mem_append.mpr ⟨fun d mem => ?_, ih _ later⟩
    split at mem
    · rename_i capital
      rcases List.mem_cons.mp mem with rfl | mem
      · decide
      · exact isKeyChar_lowerChar (Bool.and_eq_true_iff.mp capital).1 mem
    · exact List.mem_singleton.mp mem ▸ here

/-- The key of a plain property is plain. -/
theorem changedKey_all (plain : IsPlainProperty change.property) :
    ∀ c ∈ changedKey change, Declaration.isKeyChar c = true := kebabAfter_all none (strip_all plain)

/-! ### Characters that stay inside of quotes -/

/-- A character that means nothing in a string of the quotes: it does not end it, covers nothing and opens no
block. -/
def isHarmless (q c : Char) : Bool := c != q && c != '\\' && (q != backQuote || c != '$')

/-- A text of such characters stands inside of the quotes. -/
theorem isInside_of_isHarmless (quote : isQuote q = true) (harmless : ∀ c ∈ t, isHarmless q c = true) :
    IsInside (.quoted q) t := by
  have passes : Passes q t := fun outer rest _ => by
    refine closeFrom_each (fun c mem rest => ?_) rest
    obtain ⟨⟨noQuote, noCover⟩, noBlock⟩ : (c ≠ q ∧ c ≠ '\\') ∧ (q = backQuote → c ≠ '$') := by
      simpa [isHarmless, or_iff_not_imp_left] using harmless c mem
    by_cases simple : q = backQuote
    · rw [closeFrom_quoted noCover fun dollar => absurd dollar (noBlock simple), if_neg (by simpa using noQuote)]
    · exact closeFrom_simple simple noQuote noCover outer rest
  exact passes.isInside quote

/-- Marks and plain names are harmless in all quotes. -/
theorem isHarmless_of_class {p : Char → Bool} {c : Char} (is : p c = true) (quote : isQuote q = true)
    (none : ['"', '\'', backQuote, '\\', '$'].any p = false) : isHarmless q c = true := by
  have other : ∀ d ∈ ['"', '\'', backQuote, '\\', '$'], c ≠ d := by
    rintro d mem rfl
    exact absurd (List.any_eq_true.mpr ⟨c, mem, is⟩) (by simp [none])
  have among : q = '"' ∨ q = '\'' ∨ q = backQuote := by simpa [isQuote, or_assoc] using quote
  have noQuote : c ≠ q := other q (by simpa using Or.imp_right (Or.imp_right .inl) among)
  simp [isHarmless, noQuote, other '\\' (by simp), other '$' (by simp)]

/-- **Changes of harmless values leave an inline style in its quotes.** -/
theorem applyToStyleText_inside (quote : isQuote q = true) (old : ∀ c ∈ t, isHarmless q c = true)
    (plain : ∀ change ∈ changes, IsPlainProperty change.property)
    (fresh : ∀ change ∈ changes, ∀ c ∈ freshValue change, isHarmless q c = true)
    (applied : applyToStyleText t changes = .ok style) : IsInside (.quoted q) style := by
  refine isInside_of_isHarmless quote (applyToStyleText_all old ?_ (fun change mem => ⟨?_, fresh change mem⟩) applied)
  · intro c mem
    exact isHarmless_of_class (p := [':', ';', ' '].contains) (by simpa using mem) quote (by decide)
  · exact fun c here => isHarmless_of_class (changedKey_all (plain change mem) c here) quote (by decide)

end Retouch.Style

namespace Retouch.Patch

open Retouch.Text Retouch.Markup Retouch.Locate Retouch.Style

variable {source : Text} {tag : Tag} {a : Attribute} {q : Char} {inBraces : Bool} {changes : List StyleChange}

/-! ### The inline style of a tag -/

/-- The names of the attribute that is an inline style. -/
def styleNames : List Text := AttributeTarget.names .style

/-- The place of an inline style in quotes is the value of the attribute. -/
theorem locationIn_style (styled : findAttribute? source tag styleNames = some a)
    (literal : a.form = .literal q inBraces) (strategy : Strategy) (html : Bool) (selector : String) :
    ∃ place, locationIn source tag strategy .style html selector = .ok place ∧ IsValuePlace source a place ∧
      place.quote = q := by
  change findAttribute? source tag (AttributeTarget.names .style) = some a at styled
  unfold locationIn
  rw [styled]
  dsimp only
  rw [literal]
  exact ⟨_, rfl, ⟨rfl, rfl, rfl, rfl⟩, rfl⟩

/-- An applied change of an inline style, in words. -/
def inlineWords (change : StyleChange) : String := change.property ++ ": " ++ valueWords change.newValue ++ " (inline)"

/-- Changes to an inline style in quotes: a new text in the place of the old one, or none. -/
theorem applyInlineChanges_quoted {place : Location} (value : IsValuePlace source a place)
    (quote : isQuote place.quote = true) (changes : List StyleChange) (html : Bool) :
    applyInlineChanges source place changes html =
      match applyToStyleText (a.value source) changes with
      | .ok style => ⟨splice source a.valueStart a.valueStop style, changes.map inlineWords, []⟩
      | .error e => failAll source changes e.message := by
  obtain ⟨kind, start, stop, current⟩ := value
  have noBrace : (place.quote == '{') = false := beq_false_of_ne (ne_of_class quote (by decide))
  unfold applyInlineChanges writeInline
  rw [kind, start, stop, current]
  simp only [noBrace, Bool.false_eq_true, if_false]
  cases applyToStyleText (a.value source) changes with
  | ok style => rfl
  | error e => rfl

/-- A batch of changes to the inline style of a tag is what becomes of them at its place. -/
theorem applyStyleChanges_inline {hints : Hints} {limits : SearchLimits} {html : Bool} {strategy : Strategy}
    {place : Location} (inline : ∀ change ∈ changes, change.usesInline = true) (some : changes ≠ [])
    (found : findTag? source hints limits = .some (tag, strategy))
    (located : locationIn source tag strategy .style html "" = .ok place) :
    ∃ patch, applyStyleChanges source changes hints limits html = .ok patch ∧
      patch.modified = (applyInlineChanges source place changes html).source ∧
      patch.applied = (applyInlineChanges source place changes html).applied ∧
      patch.failed = (applyInlineChanges source place changes html).failed := by
  have all : changes.filter (·.usesInline) = changes := List.filter_eq_self.mpr inline
  have none : changes.filter (fun c => !c.usesInline) = [] :=
    List.filter_eq_nil_iff.mpr fun c mem => by simp [inline c mem]
  have stage : inlineStage source tag.start strategy changes html hints.selector =
      .ok (applyInlineChanges source place changes html) := by
    unfold inlineStage
    rw [if_neg (by simpa using some), findTag?_read found]
    dsimp only
    rw [located]
  have located : findTag source hints limits = .ok (tag, strategy) := by rw [findTag, found]
  unfold applyStyleChanges
  rw [located, none, all]
  exact ⟨_, bind_eq_ok.mpr ⟨_, rfl, bind_eq_ok.mpr ⟨_, stage, rfl⟩⟩, rfl, rfl, rfl⟩

/-- A batch of changes to an inline style in quotes writes a new text between them, or is refused. -/
theorem applyStyleChanges_quoted {hints : Hints} {limits : SearchLimits} {strategy : Strategy} (html : Bool)
    (inline : ∀ change ∈ changes, change.usesInline = true) (some : changes ≠ [])
    (found : findTag? source hints limits = .some (tag, strategy))
    (styled : findAttribute? source tag styleNames = .some a) (literal : a.form = .literal q inBraces)
    (quote : isQuote q = true) :
    ∃ patch, applyStyleChanges source changes hints limits html = .ok patch ∧
      match applyToStyleText (a.value source) changes with
      | .error e => patch.modified = source ∧ patch.applied = [] ∧
          patch.failed = changes.map fun change => (change.property, e.message)
      | .ok style => patch.modified = splice source a.valueStart a.valueStop style ∧
          patch.applied = changes.map inlineWords ∧ patch.failed = [] := by
  obtain ⟨place, located, value, rfl⟩ := locationIn_style styled literal strategy html ""
  obtain ⟨patch, done, modified, applied, failed⟩ := applyStyleChanges_inline inline some found located
  rw [applyInlineChanges_quoted value quote] at modified applied failed
  refine ⟨patch, done, ?_⟩
  cases written : applyToStyleText (a.value source) changes with
  | error e =>
    rw [written] at modified applied failed
    exact ⟨modified, applied, failed⟩
  | ok style =>
    rw [written] at modified applied failed
    exact ⟨modified, applied, failed⟩

/-! ### The tag after changes to its inline style -/

/-- A patch after which a tag is read with a new inline style, and is the same apart from that. -/
structure StylePatch.Restyles (patch : StylePatch) (source : Text) (tag tag' : Tag) (a : Attribute)
    (style : Text) : Prop extends patch.Replaces source tag tag' where
  /-- The inline style stands in the quotes in which it stood, and it is the new text. -/
  value : (findAttribute? patch.modified tag' styleNames).map (·.view patch.modified) = some (a.name, a.form, style)
  /-- The other attributes have the names and values that they had. -/
  others : attributesBeside styleNames patch.modified tag' = attributesBeside styleNames source tag

/-- **A new inline style is read exactly if it stands inside of the quotes** of the old one. A batch of changes to
an inline style in quotes is refused as a whole and leaves the source as it is, or it is reported as applied. Then
the tag is read again with the new style, and apart from that as it was, exactly if the style stands inside of the
quotes; and it does if what comes together in it means nothing there. -/
theorem applyStyleChanges_restyles_iff {hints : Hints} {limits : SearchLimits} {strategy : Strategy} (html : Bool)
    (inline : ∀ change ∈ changes, change.usesInline = true) (some : changes ≠ [])
    (found : findTag? source hints limits = .some (tag, strategy)) (tidy : tag.IsTidy source)
    (styled : findAttribute? source tag styleNames = .some a) (literal : a.form = .literal q inBraces) :
    ∃ patch, applyStyleChanges source changes hints limits html = .ok patch ∧
      match applyToStyleText (a.value source) changes with
      | .error e => patch.modified = source ∧ patch.applied = [] ∧
          patch.failed = changes.map fun change => (change.property, e.message)
      | .ok style => patch.applied = changes.map inlineWords ∧ patch.failed = [] ∧
          ((∃ tag', patch.Restyles source tag tag' a style) ↔ IsInside (.quoted q) style) ∧
          ((∀ change ∈ changes, IsPlainProperty change.property) →
            (∀ c ∈ a.value source, isHarmless q c = true) →
            (∀ change ∈ changes, ∀ c ∈ freshValue change, isHarmless q c = true) →
            IsInside (.quoted q) style) := by
  obtain ⟨ps, laid⟩ := tidy.exists_layout (findTag?_read found)
  obtain ⟨quote, -, exchange⟩ := exists_exchanged laid (findTag?_read found) styled literal
  obtain ⟨patch, done, result⟩ := applyStyleChanges_quoted html inline some found styled literal quote
  refine ⟨patch, done, ?_⟩
  cases written : applyToStyleText (a.value source) changes with
  | error e =>
    rw [written] at result
    exact result
  | ok style =>
    rw [written] at result
    obtain ⟨modified, applied, failed⟩ := result
    refine ⟨applied, failed, ⟨?_, fun inside => ?_⟩,
      fun plain old fresh => applyToStyleText_inside quote old plain fresh written⟩
    · rintro ⟨tag', restyles⟩
      -- the value that is read is one that stands in quotes
      obtain ⟨b, again, view⟩ := Option.map_eq_some_iff.mp restyles.value
      obtain ⟨form, new⟩ : b.form = a.form ∧ b.value patch.modified = style :=
        ⟨congrArg (·.2.1) view, congrArg (·.2.2) view⟩
      obtain ⟨-, inside⟩ := isInside_value (List.mem_of_find?_eq_some again) (form.trans literal)
      exact new ▸ inside
    · obtain ⟨qs, admits, text, view⟩ := exchange style inside
      obtain ⟨_, found', edits⟩ := applyStyleChanges_edits done
      cases found.symm.trans found'
      obtain ⟨replaces, laid'⟩ := edits.replaces laid admits (modified.trans text)
      refine ⟨_, replaces, ?_, ?_⟩
      · rw [findAttribute?_view laid']
        exact view.found
      · rw [attributesBeside_eq laid', attributesBeside_eq laid]
        exact view.others

/-- A paragraph whose style stands in simple quotes. -/
def redLine : Text := "<p style='color: red' title=\"a > b\">Hi</p>".toList

/-- The tag as it is read. -/
def redTag : Tag := ⟨0, 35, ['p']⟩

/-- Its inline style. -/
def redStyle : Attribute := ⟨"style".toList, 3, 21, 10, 20, .literal '\'' false⟩

/-- Another colour, and no margin. -/
def colorChanges : List StyleChange := [⟨"color", "red", "blue", true⟩, ⟨"marginTop", "4px", "", true⟩]

/-- The tag is found, it is tidy, and the style is an attribute of it. -/
theorem redLine_found :
    findTag? redLine { line? := some 1 } {} = some (redTag, .lineNumber) ∧ redTag.IsTidy redLine ∧
      findAttribute? redLine redTag styleNames = some redStyle := by decide

/-- The colour changes in its quotes. -/
theorem redLine_restyles :
    ∃ patch, applyStyleChanges redLine colorChanges { line? := some 1 } {} true = .ok patch ∧
      (∀ change ∈ colorChanges, change.usesInline = true) ∧ colorChanges ≠ [] ∧
      findTag? redLine { line? := some 1 } {} = some (redTag, .lineNumber) ∧ redTag.IsTidy redLine ∧
      findAttribute? redLine redTag styleNames = some redStyle ∧ redStyle.form = .literal '\'' false ∧
      ∃ tag', patch.Restyles redLine redTag tag' redStyle "color: blue".toList := by
  obtain ⟨found, tidy, styled⟩ := redLine_found
  have inline : ∀ change ∈ colorChanges, change.usesInline = true := by decide
  have written : applyToStyleText (redStyle.value redLine) colorChanges = .ok "color: blue".toList := by decide
  obtain ⟨patch, done, result⟩ := applyStyleChanges_restyles_iff true inline (by decide) found tidy styled rfl
  rw [written] at result
  obtain ⟨-, -, read, harmless⟩ := result
  exact ⟨patch, done, inline, by decide, found, tidy, styled, rfl,
    read.mpr (harmless (by decide) (by decide) (by decide))⟩

/-- A font whose name stands in simple quotes. -/
def fontChanges : List StyleChange := [⟨"fontFamily", "", "'Arial'", true⟩]

/-- The line with the font. -/
def fontLine : Text := "<p style='color: red; font-family: 'Arial'' title=\"a > b\">Hi</p>".toList

/-- The name of a font in simple quotes ends an inline style in such quotes, and the change is reported as
applied. -/
theorem font_ends_style :
    ∃ patch, applyStyleChanges redLine fontChanges { line? := some 1 } {} true = .ok patch ∧
      (∀ change ∈ fontChanges, change.usesInline = true ∧ IsPlainProperty change.property) ∧
      findTag? redLine { line? := some 1 } {} = some (redTag, .lineNumber) ∧ redTag.IsTidy redLine ∧
      findAttribute? redLine redTag styleNames = some redStyle ∧
      applyToStyleText (redStyle.value redLine) fontChanges = .ok "color: red; font-family: 'Arial'".toList ∧
      patch.modified = fontLine ∧ patch.applied = fontChanges.map inlineWords ∧ patch.failed = [] ∧
      ∀ tag', ¬ patch.Restyles redLine redTag tag' redStyle "color: red; font-family: 'Arial'".toList := by
  obtain ⟨found, tidy, styled⟩ := redLine_found
  have written : applyToStyleText (redStyle.value redLine) fontChanges =
      .ok "color: red; font-family: 'Arial'".toList := by decide
  have inline : ∀ change ∈ fontChanges, change.usesInline = true := by decide
  obtain ⟨patch, done, result⟩ := applyStyleChanges_quoted true inline (by decide) found styled rfl rfl
  rw [written] at result
  obtain ⟨modified, applied, failed⟩ := result
  have line : patch.modified = fontLine := by
    rw [modified]
    decide
  refine ⟨patch, done, by decide, found, tidy, styled, written, line, applied, failed, ?_⟩
  rintro tag' ⟨⟨-, read, -⟩, value, -⟩
  rw [line] at read value
  -- the style that is read ends where the name of the font begins
  have again : readTag? fontLine redTag.start = some ⟨0, 57, ['p']⟩ := by decide
  obtain rfl : ⟨0, 57, ['p']⟩ = tag' := Option.some.inj (again.symm.trans read)
  revert value
  decide

end Retouch.Patch
