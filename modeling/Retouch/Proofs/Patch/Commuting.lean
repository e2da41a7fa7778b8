import Retouch.Proofs.Patch.Inverted

/-!
# Changes in either order

Two changes of different rules are made one after the other. The class of each stands where the first one
of its rule stood, and takes the others of its rule out, with the blanks before them; classes of the other
rule are neither. So the order does not matter as long as one of the two has a place to take
(`Utility.place_comm`). Where none has, both classes come behind the last token, and the order in which they
do is that of the changes (`applyBoth_comm`).
-/

namespace Retouch.Style

open Retouch.Text

/-! ### Classes put among tokens -/

/-- The tokens with the class in its place; `started` says that a token stands before them. -/
def Utility.place (w : Utility) (started : Bool) (tokens : List ClassToken) : List ClassToken :=
  replaceFrom (belongs w.rule) w.token false started none tokens

/-- The tokens without those of the class's rule. -/
def Utility.clear (w : Utility) (tokens : List ClassToken) : List ClassToken :=
  tokens.filter fun token => !isHit (belongs w.rule) token.text

section Place

variable {w w' : Utility} {started : Bool} {token : ClassToken} {tokens rest : List ClassToken}

/-- Without a token of its rule, a class comes last, behind one blank if there is any token before. -/
theorem Utility.place_of_none (holds : w.Holds)
    (none : ∀ token ∈ tokens, isHit (belongs w.rule) token.text = false) :
    w.place started tokens =
      tokens ++ [⟨if started || !tokens.isEmpty then [' '] else [], w.token⟩] :=
  replaceFrom_last holds.whole.1 none started

theorem Utility.place_nil (holds : w.Holds) :
    w.place started [] = [⟨if started then [' '] else [], w.token⟩] := by
  rw [place_of_none holds (List.forall_mem_nil _), List.isEmpty_nil, Bool.not_true, Bool.or_false,
    List.nil_append]

/-- A class takes the place of the first token of its rule, and the blanks before it. -/
theorem Utility.place_cons_of_hit (holds : w.Holds) (hit : isHit (belongs w.rule) token.text = true) :
    w.place started (token :: rest) = ⟨token.lead, w.token⟩ :: w.clear rest :=
  replaceFrom_first holds.whole.1 (List.forall_mem_nil _) hit started

/-- Other tokens before it stay. -/
theorem Utility.place_cons_of_other (other : isHit (belongs w.rule) token.text = false) :
    w.place started (token :: rest) = token :: w.place true rest := by
  have other' : ¬(isEditable token.text && belongs w.rule token.text) = true :=
    Bool.eq_false_iff.mp other
  rw [place, replaceFrom, if_neg other', Option.getD_none]
  rfl

theorem Utility.clear_cons_of_hit (hit : isHit (belongs w.rule) token.text = true) :
    w.clear (token :: rest) = w.clear rest := List.filter_cons_of_neg (by simp [hit])

theorem Utility.clear_cons_of_other (other : isHit (belongs w.rule) token.text = false) :
    w.clear (token :: rest) = token :: w.clear rest := List.filter_cons_of_pos (by simp [other])

/-- The tokens of one rule are left out before or after the class of another one is put among them. -/
theorem Utility.clear_place (holds : w.Holds) (holds' : w'.Holds) (differ : w.rule ≠ w'.rule) :
    w.clear (w'.place true tokens) = w'.place true (w.clear tokens) := by
  have apart {u : Text} := isHit_apart (u := u) holds'.listed holds.listed differ.symm
  -- the class that is put is of the other rule, so it is not left out itself
  have new := apart holds'.hit
  induction tokens with
  | nil =>
    rw [place_nil holds', clear_cons_of_other new]
    exact (place_nil holds').symm
  | cons token rest ih =>
    by_cases hit' : isHit (belongs w'.rule) token.text = true
    · have other := apart hit'
      have clears : w.clear (w'.clear rest) = w'.clear (w.clear rest) := List.filter_comm ..
      rw [place_cons_of_hit holds' hit', clear_cons_of_other new, clear_cons_of_other other,
        place_cons_of_hit holds' hit', clears]
    · have other' := Bool.eq_false_iff.mpr hit'
      rw [place_cons_of_other other']
      by_cases hit : isHit (belongs w.rule) token.text = true
      · rw [clear_cons_of_hit hit, clear_cons_of_hit hit, ih]
      · have other := Bool.eq_false_iff.mpr hit
        rw [clear_cons_of_other other, clear_cons_of_other other, place_cons_of_other other', ih]

/-- The first token is the place of one of two classes. -/
theorem Utility.place_comm_of_hit (holds : w.Holds) (holds' : w'.Holds) (differ : w.rule ≠ w'.rule)
    (hit : isHit (belongs w.rule) token.text = true) :
    w'.place started (w.place started (token :: rest)) = w.place started (w'.place started (token :: rest)) := by
  have apart {u : Text} := isHit_apart (u := u) holds.listed holds'.listed differ
  have new : isHit (belongs w'.rule) (ClassToken.mk token.lead w.token).text = false := apart holds.hit
  rw [place_cons_of_hit holds hit, place_cons_of_other new, place_cons_of_other (apart hit),
    place_cons_of_hit holds hit, clear_place holds holds' differ]

/-- **Classes in either order**: where one of two classes of different rules has a place to take, it does not
matter which one is put first. -/
theorem Utility.place_comm (holds : w.Holds) (holds' : w'.Holds) (differ : w.rule ≠ w'.rule)
    (some : ∃ token ∈ tokens,
      isHit (belongs w.rule) token.text = true ∨ isHit (belongs w'.rule) token.text = true) :
    w'.place started (w.place started tokens) = w.place started (w'.place started tokens) := by
  induction tokens generalizing started with
  | nil => simp at some
  | cons token rest ih =>
    by_cases hit : isHit (belongs w.rule) token.text = true
    · exact place_comm_of_hit holds holds' differ hit
    by_cases hit' : isHit (belongs w'.rule) token.text = true
    · exact (place_comm_of_hit holds' holds differ.symm hit').symm
    have other := Bool.eq_false_iff.mpr hit
    have other' := Bool.eq_false_iff.mpr hit'
    have later : ∃ token ∈ rest,
        isHit (belongs w.rule) token.text = true ∨ isHit (belongs w'.rule) token.text = true := by
      simpa [hit, hit'] using some
    rw [place_cons_of_other other, place_cons_of_other other', place_cons_of_other other',
      place_cons_of_other other, ih later]

end Place

/-! ### Two changes -/

/-- The class list with a token behind the last one, and one blank between them. -/
def ClassList.concat (list : ClassList) (new : Text) : ClassList :=
  ⟨list.tokens ++ [⟨if list.tokens.isEmpty then [] else [' '], new⟩], list.trailing⟩

/-- The class text after one change and then another one. -/
def applyBoth (classes : Text) (first second : StyleChange) : Except ConversionError Text :=
  (applyToClasses classes first).bind fun between => (applyToClasses between.1 second).map (·.1)

section Changes

variable {classes : Text} {first second : StyleChange} {w w' : Utility}

/-- Two changes put two classes in their places, and the text between them is read as it was put together. -/
theorem applyBoth_eq (closed : segmentsClose classes = true) (holds : w.Holds)
    (written : utilityFor first.property first.newValue = .ok w)
    (written' : utilityFor second.property second.newValue = .ok w') :
    applyBoth classes first second =
      .ok (ClassList.text ⟨w'.place false (w.place false (ClassList.read classes).tokens),
        (ClassList.read classes).trailing⟩) := by
  have between : ClassList.read (replaceTokens classes (belongs w.rule) w.token) =
      ⟨w.place false (ClassList.read classes).tokens, (ClassList.read classes).trailing⟩ :=
    read_replaceTokens (.inr ⟨holds.whole, .inl (whole_of_segmentsClose closed)⟩)
  have after : replaceTokens (replaceTokens classes (belongs w.rule) w.token) (belongs w'.rule) w'.token =
      ClassList.text ⟨w'.place false (w.place false (ClassList.read classes).tokens),
        (ClassList.read classes).trailing⟩ := by
    rw [replaceTokens, between]
    rfl
  rw [applyBoth, applyToClasses_of_utilityFor written, Except.bind, applyToClasses_of_utilityFor written',
    Except.map, after]

/-- Two classes without a place to take come last, in the order of the changes. -/
theorem place_place_of_none (holds : w.Holds) (holds' : w'.Holds) (differ : w.rule ≠ w'.rule) (list : ClassList)
    (none : ∀ token ∈ list.tokens,
      isHit (belongs w.rule) token.text = false ∧ isHit (belongs w'.rule) token.text = false) :
    (⟨w'.place false (w.place false list.tokens), list.trailing⟩ : ClassList) =
      (list.concat w.token).concat w'.token := by
  have new := isHit_apart holds.listed holds'.listed differ holds.hit
  have here := @Utility.place_of_none w false _ holds fun token mem => (none token mem).1
  rw [here, Utility.place_of_none holds']
  · simp [ClassList.concat]
  · intro token mem
    obtain mem | mem := List.mem_append.mp mem
    · exact (none token mem).2
    · rw [List.mem_singleton.mp mem]
      exact new

/-- **Two changes in either order**: changes of different rules, whose classes are ones of their rules, can
be made in both orders. If the class text has an editable class of one of the rules, the results are the
same to the letter. If it has none, the two classes come last in the order of the changes, each behind one
blank if a token stands before it, and that is all the difference there is. -/
theorem applyBoth_comm (closed : segmentsClose classes = true)
    (written : utilityFor first.property first.newValue = .ok w)
    (written' : utilityFor second.property second.newValue = .ok w') (differ : w.rule ≠ w'.rule)
    (own : belongs w.rule w.token = true) (own' : belongs w'.rule w'.token = true) :
    ∃ after after',
      applyBoth classes first second = .ok after ∧ applyBoth classes second first = .ok after' ∧
      ((∃ token ∈ editableTokens classes, belongs w.rule token = true ∨ belongs w'.rule token = true) →
        after = after') ∧
      ((∀ token ∈ editableTokens classes, belongs w.rule token = false ∧ belongs w'.rule token = false) →
        after = (((ClassList.read classes).concat w.token).concat w'.token).text ∧
        after' = (((ClassList.read classes).concat w'.token).concat w.token).text) := by
  have holds := holds_of_utilityFor written own
  have holds' := holds_of_utilityFor written' own'
  refine ⟨_, _, applyBoth_eq closed holds written written', applyBoth_eq closed holds' written' written,
    fun some => ?_, fun none => ?_⟩
  · obtain ⟨u, mem, hit⟩ := some
    obtain ⟨inTexts, editable⟩ := List.mem_filter.mp mem
    obtain ⟨token, listed, rfl⟩ := List.mem_map.mp inTexts
    have comm := @Utility.place_comm w w' false _ holds holds' differ
      ⟨token, listed, by rwa [isHit, isHit, editable, Bool.true_and, Bool.true_and]⟩
    rw [comm]
  · have unhit : ∀ token ∈ (ClassList.read classes).tokens,
        isHit (belongs w.rule) token.text = false ∧ isHit (belongs w'.rule) token.text = false := by
      intro token mem
      rw [isHit, isHit]
      cases editable : isEditable token.text with
      | false => exact ⟨rfl, rfl⟩
      | true => exact none _ (List.mem_filter.mpr ⟨List.mem_map_of_mem (f := (·.text)) mem, editable⟩)
    rw [place_place_of_none holds holds' differ _ unhit,
      place_place_of_none holds' holds differ.symm _ fun token mem => (unhit token mem).symm]
    exact ⟨rfl, rfl⟩

/-- A size and a colour: next to a padding and a size, the order does not matter; next to a padding alone,
each order puts its second class last. -/
theorem applyBoth_comm_size :
    let size : StyleChange := ⟨"fontSize", "", "18px", false⟩
    let color : StyleChange := ⟨"color", "", "#123456", false⟩
    applyBoth "p-4 text-sm ".toList size color = applyBoth "p-4 text-sm ".toList color size ∧
      applyBoth "p-4 ".toList size color = .ok "p-4 text-lg text-[#123456] ".toList ∧
      applyBoth "p-4 ".toList color size = .ok "p-4 text-[#123456] text-lg ".toList := by
  intro size color
  have written : utilityFor size.property size.newValue =
      .ok ⟨"text-lg".toList, ⟨"text", .fontSize⟩⟩ := by decide
  have written' : utilityFor color.property color.newValue =
      .ok ⟨"text-[#123456]".toList, ⟨"text", .color⟩⟩ := by decide
  have differ : (⟨"text", .fontSize⟩ : Rule) ≠ ⟨"text", .color⟩ := by decide
  have own : belongs ⟨"text", .fontSize⟩ "text-lg".toList = true := by decide +kernel
  have own' : belongs ⟨"text", .color⟩ "text-[#123456]".toList = true := by decide +kernel
  obtain ⟨after, after', first, second, same, -⟩ :=
    @applyBoth_comm "p-4 text-sm ".toList size color _ _ (by decide) written written' differ own own'
  obtain ⟨behind, behind', first', second', -, last⟩ :=
    @applyBoth_comm "p-4 ".toList size color _ _ (by decide) written written' differ own own'
  obtain ⟨sizeFirst, colorFirst⟩ := last (by decide +kernel)
  refine ⟨?_, ?_, ?_⟩
  · rw [first, second, same ⟨"text-sm".toList, by decide, .inl (by decide +kernel)⟩]
  · rw [first', sizeFirst]
    decide
  · rw [second', colorFirst]
    decide

end Changes

end Retouch.Style
