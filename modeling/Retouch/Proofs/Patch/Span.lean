import Retouch.Patch.Styles
import Retouch.Proofs.Locate.Found
import Retouch.Proofs.Outcome

/-!
# Where style changes are written

Values of attributes stand behind the name of their tag, and so do new attributes. Whatever is written
there, the source in front of the tag stays (`applyStyleChanges_edits`); and a batch that changes its
tag leaves a tag in its place (`StylePatch.Edits.changed`).
-/

namespace Retouch.Markup

open Retouch.Text

/-! ### Values stand behind their tag's name -/

theorem readValue?_first {k : Nat} {t : Text} {form : AttributeForm} {first last stop : Nat}
    (read : readValue? k t = some (form, first, last, stop)) : k ≤ first := by
  unfold readValue? at read
  split at read
  · split at read
    · obtain ⟨n, -, eq⟩ := Option.map_eq_some_iff.mp read
      cases eq
      omega
    · split at read
      · obtain ⟨⟨close, inner⟩, -, eq⟩ := Option.map_eq_some_iff.mp read
        cases inner with
        | none => cases eq; omega
        | some span => cases eq; omega
      · cases read
        omega
  · cases read
    omega

theorem readAttribute?_valueStart {j : Nat} {t : Text} {a : Attribute}
    (read : readAttribute? j t = some a) : j ≤ a.valueStart := by
  unfold readAttribute? at read
  dsimp only at read
  split at read
  · obtain ⟨⟨form, first, last, stop⟩, value, rfl⟩ := Option.map_eq_some_iff.mp read
    have := readValue?_first value
    show j ≤ first
    omega
  · cases read
    exact Nat.le_add_right _ _

theorem attributesFrom_valueStart {limit skip j : Nat} {t : Text} {a : Attribute}
    (mem : a ∈ attributesFrom limit skip j t) : j ≤ a.valueStart := by
  fun_induction attributesFrom limit skip j t
  case case1 | case3 | case6 | case8 => cases mem
  case case2 ih | case4 ih | case5 ih | case9 ih => exact Nat.le_of_succ_le (ih mem)
  case case7 read ih =>
    obtain rfl | later := List.mem_cons.mp mem
    · exact readAttribute?_valueStart read
    · exact Nat.le_of_succ_le (ih later)

/-- A value that is found in a tag stands behind the name of the tag. -/
theorem findAttribute?_valueStart {source : Text} {tag : Tag} {names : List Text} {a : Attribute}
    (found : findAttribute? source tag names = some a) : tag.nameStop ≤ a.valueStart :=
  attributesFrom_valueStart (List.mem_of_find?_eq_some found)

end Retouch.Markup

namespace Retouch.Patch

open Retouch.Text Retouch.Markup Retouch.Locate

/-! ### The source in front of a tag -/

/-- What stands before a place in front of the replaced characters stays. -/
theorem take_splice_of_le {t : Text} {i start : Nat} (stop : Nat) (new : Text) (le : i ≤ start)
    (within : i ≤ t.length) : (splice t start stop new).take i = t.take i := by
  have head : i ≤ (t.take start).length := by
    rw [List.length_take]
    omega
  rw [splice, List.append_assoc, List.take_append_of_le_length head, List.take_take,
    Nat.min_eq_left le]

/-- The place of an attribute stands behind the name of its tag. -/
theorem locationIn_start {source : Text} {tag : Tag} {strategy : Strategy} {target : AttributeTarget}
    {html : Bool} {selector : String} {place : Location}
    (located : locationIn source tag strategy target html selector = .ok place) :
    tag.start ≤ place.start := by
  have name : tag.start ≤ tag.nameStop := by
    unfold Tag.nameStop
    omega
  unfold locationIn at located
  split at located
  · cases located
    exact name
  · rename_i a found
    have value := findAttribute?_valueStart found
    dsimp only at located
    split at located
    all_goals cases located
    all_goals exact Nat.le_trans name value

theorem applyClassChanges_before {source : Text} {place : Location} {i : Nat} (le : i ≤ place.start)
    (within : i ≤ source.length) (changes : List StyleChange) :
    (applyClassChanges source place changes).source.take i = source.take i := by
  unfold applyClassChanges
  dsimp only
  split
  · rfl
  · split
    · split
      · rfl
      · exact take_splice_of_le _ _ le within
    · exact take_splice_of_le _ _ le within

theorem writeInline_before {source written : Text} {place : Location} {changes : List StyleChange}
    {html : Bool} {i : Nat} (le : i ≤ place.start) (within : i ≤ source.length)
    (done : writeInline source place changes html = .ok written) :
    written.take i = source.take i := by
  unfold writeInline at done
  split at done
  · split at done
    all_goals
      obtain ⟨style, -, done⟩ := bind_eq_ok.mp done
      cases done
      split
      · rfl
      · exact take_splice_of_le _ _ le within
  · dsimp only at done
    split at done
    all_goals
      obtain ⟨style, -, done⟩ := bind_eq_ok.mp done
      cases done
      exact take_splice_of_le _ _ le within

theorem applyInlineChanges_before {source : Text} {place : Location} {i : Nat} (le : i ≤ place.start)
    (within : i ≤ source.length) (changes : List StyleChange) (html : Bool) :
    (applyInlineChanges source place changes html).source.take i = source.take i := by
  unfold applyInlineChanges
  split
  · rename_i written done
    exact writeInline_before le within done
  · rfl

/-! ### A batch -/

theorem classStage_before {source : Text} {tag : Tag} (within : tag.start ≤ source.length)
    (strategy : Strategy) (changes : List StyleChange) (html : Bool) :
    (classStage source tag strategy changes html).1.source.take tag.start =
      source.take tag.start := by
  unfold classStage
  split
  · rfl
  · split
    · rename_i place located
      exact applyClassChanges_before (locationIn_start located) within changes
    · rfl

theorem inlineStage_before {source : Text} {start : Nat} {strategy : Strategy}
    {changes : List StyleChange} {html : Bool} {selector : String} {outcome : Outcome}
    (done : inlineStage source start strategy changes html selector = .ok outcome) :
    outcome.source.take start = source.take start := by
  unfold inlineStage at done
  split at done
  · cases done
    rfl
  · split at done
    · cases done
    · rename_i tag read
      have starts := start_of_readTag? read
      obtain ⟨le, lt, -, -⟩ := readTag?_span read
      split at done
      · rename_i place located
        cases done
        refine applyInlineChanges_before ?_ (by omega) changes html
        rw [← starts]
        exact locationIn_start located
      · cases done
        rfl

/-- What a batch of changes does to a source: it finds a tag, leaves what stands before the tag, and
keeps the text of the tag before and after; if no tag can be read any more, the text after counts as
the text before. -/
structure StylePatch.Edits (patch : StylePatch) (source : Text) (tag : Tag) : Prop where
  /-- The tag was read from the source. -/
  read : IsRead source tag
  /-- The text before is that of the tag. -/
  tagBefore : patch.tagBefore = tag.text source
  /-- What stands before the tag stays. -/
  before : patch.modified.take tag.start = source.take tag.start
  /-- The text after is that of the tag that is read in the same place. -/
  tagAfter : ∀ tag', readTag? patch.modified tag.start = some tag' →
    patch.tagAfter = tag'.text patch.modified
  /-- Without a tag in that place, the text after counts as the text before. -/
  unread : readTag? patch.modified tag.start = none → patch.tagAfter = patch.tagBefore

/-- **Changes stay behind the start of their tag.** -/
theorem applyStyleChanges_edits {source : Text} {changes : List StyleChange} {hints : Hints}
    {limits : SearchLimits} {html : Bool} {patch : StylePatch}
    (done : applyStyleChanges source changes hints limits html = .ok patch) :
    ∃ tag, findTag? source hints limits = some (tag, patch.strategy) ∧ patch.Edits source tag := by
  unfold applyStyleChanges at done
  obtain ⟨⟨tag, strategy⟩, found, done⟩ := bind_eq_ok.mp done
  obtain ⟨second, inline, done⟩ := bind_eq_ok.mp done
  have located : findTag? source hints limits = some (tag, strategy) := by
    unfold findTag at found
    split at found
    · cases found
      assumption
    · cases found
  have read := findTag?_read located
  obtain ⟨le, lt, -, -⟩ := readTag?_span read
  cases done
  refine ⟨tag, located, read, rfl, ?_, ?_, ?_⟩
  · exact (inlineStage_before inline).trans
      (classStage_before (by omega) strategy _ html)
  · intro tag' again
    dsimp only at again ⊢
    rw [again]
  · intro gone
    dsimp only at gone ⊢
    rw [gone]

/-- A batch that changes its tag leaves a tag in its place, with the text after; before and after,
these are texts of tags. -/
theorem StylePatch.Edits.changed {patch : StylePatch} {source : Text} {tag : Tag}
    (edits : patch.Edits source tag) (changed : patch.changed = true) :
    IsTagText patch.tagBefore ∧ IsTagText patch.tagAfter ∧ patch.tagBefore ≠ patch.tagAfter ∧
      patch.tagBefore <+: source.drop tag.start ∧
      patch.tagAfter <+: patch.modified.drop tag.start := by
  have differ : patch.tagBefore ≠ patch.tagAfter := by simpa [StylePatch.changed] using changed
  obtain ⟨-, -, -, tagText⟩ := readTag?_span edits.read
  cases again : readTag? patch.modified tag.start with
  | none => exact absurd (edits.unread again).symm differ
  | some tag' =>
    obtain ⟨-, -, -, tagText'⟩ := readTag?_span again
    have starts := start_of_readTag? again
    refine ⟨edits.tagBefore ▸ tagText, edits.tagAfter tag' again ▸ tagText', differ, ?_, ?_⟩
    · rw [edits.tagBefore]
      exact text_prefix tag
    · rw [edits.tagAfter tag' again, ← starts]
      exact text_prefix tag'

end Retouch.Patch
