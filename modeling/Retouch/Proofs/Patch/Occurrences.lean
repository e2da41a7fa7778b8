import Mathlib.Data.Set.Card
import Retouch.Patch.Replacement
import Retouch.Proofs.Locate.Wording

/-!
# Which occurrence of a text is replaced

A text occurs wherever its words stand in the source, however many blanks are between them
(`IsOccurrence`), and the places that are searched are just these, each of them once (`mem_wordPlaces_iff`,
`pairwise_wordPlaces`). The anchor puts them in an order (`NoLater`). The replacement takes the first one in
this order that is prose or a string; it fails, for one of two reasons, if there is none
(`replaceText_outcome`).
-/

namespace Retouch

open Retouch.Text Retouch.Markup Retouch.Locate

/-- The text stands nowhere, or there is no text. -/
def TextError.IsNotFound : TextError → Prop
  | .nothingToFind | .missing _ => True
  | .onlyCode _ _ => False

namespace Patch

/-! ### Occurrences -/

/-- A span of the source that starts and ends with no blank, and whose words are those of a text. -/
structure IsOccurrence (source old : Text) (span : Nat × Nat) : Prop where
  /-- The span lies in the source. -/
  within : span.1 < span.2 ∧ span.2 ≤ source.length
  /-- Its first character is no blank. -/
  first : ∃ c, source[span.1]? = some c ∧ isBlank c = false
  /-- Its last character is no blank. -/
  last : ∃ c, source[span.2 - 1]? = some c ∧ isBlank c = false
  /-- Its words are those of the text. -/
  words : words (slice source span.1 span.2) = words old

variable {source old : Text}

/-- A span is an occurrence if it spells the words of the text. -/
theorem isOccurrence_iff {a b : Nat} :
    IsOccurrence source old (a, b) ↔ ∃ u, Spells (words old) u ∧ u <+: source.drop a ∧ b = a + u.length := by
  constructor
  · rintro ⟨⟨lt, le⟩, first, last, same⟩
    dsimp only at lt le first last same
    have cut : slice source a b = (source.drop a).take (b - a) := List.drop_take ..
    have length : (slice source a b).length = b - a := by
      rw [cut, List.length_take_of_le (by rw [List.length_drop]; omega)]
    have char : ∀ i < b - a, (slice source a b)[i]? = source[a + i]? := by
      intro i small
      rw [cut, List.getElem?_take_of_lt small, List.getElem?_drop]
    refine ⟨slice source a b, spells_iff.mpr ⟨same, ?_, ?_⟩, cut ▸ List.take_prefix .., by omega⟩
    · rwa [List.head?_eq_getElem?, char 0 (by omega), Nat.add_zero]
    · rwa [List.getLast?_eq_getElem?, length, char _ (by omega), show a + (b - a - 1) = b - 1 by omega]
  · rintro ⟨u, spells, ⟨rest, here⟩, rfl⟩
    have pos := List.length_pos_iff.mpr spells.ne_nil
    have length := congrArg List.length here
    rw [List.length_append, List.length_drop] at length
    have char : ∀ i < u.length, source[a + i]? = u[i]? := by
      intro i small
      rw [← List.getElem?_drop, ← here, List.getElem?_append_left small]
    have inside : slice source a (a + u.length) = u := by
      rw [slice, List.drop_take, ← here, Nat.add_sub_cancel_left, List.take_left]
    refine ⟨⟨by dsimp only; omega, by dsimp only; omega⟩, ?_, ?_, by rw [inside, spells.words_eq]⟩
    · have first := spells.exists_head
      rwa [List.head?_eq_getElem?, ← char 0 pos] at first
    · have last := spells.exists_getLast
      rwa [List.getLast?_eq_getElem?, ← char _ (by omega),
        show a + (u.length - 1) = a + u.length - 1 by omega] at last

/-! ### The places that are searched -/

theorem mem_wordPlacesFrom_iff {ws : List Text} {i : Nat} {t : Text} {span : Nat × Nat} :
    span ∈ wordPlacesFrom ws i t ↔
      ∃ k n, k < t.length ∧ matchWords? ws (t.drop k) = some n ∧ span = (i + k, i + k + n) := by
  induction t generalizing i with
  | nil => simp [wordPlacesFrom]
  | cons c rest ih =>
    -- the place is here, or it is one of the rest
    have later : (∃ k n, k < rest.length ∧ matchWords? ws (rest.drop k) = some n ∧
        span = (i + 1 + k, i + 1 + k + n)) ↔ ∃ k n, k + 1 < (c :: rest).length ∧
          matchWords? ws ((c :: rest).drop (k + 1)) = some n ∧ span = (i + (k + 1), i + (k + 1) + n) := by
      simp only [List.length_cons, List.drop_succ_cons, Nat.add_lt_add_iff_right, Nat.add_assoc,
        Nat.add_comm 1]
    rw [wordPlacesFrom, ← Nat.or_exists_add_one, ← later, ← ih]
    cases found : matchWords? ws (c :: rest) with
    | none => simp [found]
    | some n => simp [found, List.mem_cons]

/-- The places come in the order in which they start, each of them once. -/
theorem pairwise_wordPlacesFrom (ws : List Text) (i : Nat) (t : Text) :
    (wordPlacesFrom ws i t).Pairwise fun a b => a.1 < b.1 := by
  induction t generalizing i with
  | nil => exact List.Pairwise.nil
  | cons c rest ih =>
    rw [wordPlacesFrom]
    split
    · refine List.Pairwise.cons (fun b mem => ?_) (ih (i + 1))
      obtain ⟨k, n, -, -, rfl⟩ := mem_wordPlacesFrom_iff.mp mem
      dsimp only
      omega
    · exact ih (i + 1)

theorem pairwise_wordPlaces (source old : Text) : (wordPlaces source old).Pairwise fun a b => a.1 < b.1 :=
  pairwise_wordPlacesFrom ..

/-- **What is searched are the occurrences.** -/
theorem mem_wordPlaces_iff (worded : words old ≠ []) {span : Nat × Nat} :
    span ∈ wordPlaces source old ↔ IsOccurrence source old span := by
  have unbroken := (spells_strip worded).unbroken
  obtain ⟨a, b⟩ := span
  rw [wordPlaces, mem_wordPlacesFrom_iff, isOccurrence_iff]
  constructor
  · rintro ⟨k, n, -, found, eq⟩
    obtain ⟨u, spells, stands, rfl⟩ := (matchWords?_eq_some_iff worded unbroken).mp found
    rw [Nat.zero_add] at eq
    cases eq
    exact ⟨u, spells, stands, rfl⟩
  · rintro ⟨u, spells, stands, rfl⟩
    have length := stands.length_le
    have pos := List.length_pos_iff.mpr spells.ne_nil
    rw [List.length_drop] at length
    exact ⟨a, u.length, by omega, (matchWords?_eq_some_iff worded unbroken).mpr ⟨u, spells, stands, rfl⟩,
      by rw [Nat.zero_add]⟩

/-- There are as many occurrences as places. -/
theorem encard_occurrences (worded : words old ≠ []) :
    {span | IsOccurrence source old span}.encard = (wordPlaces source old).length := by
  have nodup : (wordPlaces source old).Nodup :=
    (pairwise_wordPlaces source old).imp fun {a b} lt eq => absurd (congrArg Prod.fst eq) (Nat.ne_of_lt lt)
  have same : {span | IsOccurrence source old span} = ((wordPlaces source old).toFinset : Set (Nat × Nat)) := by
    ext span
    rw [Set.mem_ofPred_eq, ← mem_wordPlaces_iff worded, Finset.mem_coe, List.mem_toFinset]
  rw [same, Set.encard_coe_eq_coe_finsetCard, List.toFinset_card_of_nodup nodup]

/-- No two occurrences start at one offset. -/
theorem IsOccurrence.eq_of_start {s t : Nat × Nat} (first : IsOccurrence source old s)
    (second : IsOccurrence source old t) (same : s.1 = t.1) : s = t := by
  obtain ⟨a, b⟩ := s
  obtain ⟨a', b'⟩ := t
  cases same
  obtain ⟨u, spells, ⟨rest, here⟩, rfl⟩ := isOccurrence_iff.mp first
  obtain ⟨u', spells', ⟨rest', here'⟩, rfl⟩ := isOccurrence_iff.mp second
  have found := matchWords?_append spells rest
  rw [here, ← here', matchWords?_append spells' rest'] at found
  rw [Option.some.inj found]

/-! ### The order of the search -/

/-- The search from the anchor on comes to offset `i` no later than to offset `j`: the offsets from the
anchor on come first, then those before it, both in their order. -/
def NoLater (anchor? : Option Int) (i j : Nat) : Prop :=
  match anchor? with
  | none => i ≤ j
  | some anchor => if anchor ≤ j then anchor ≤ i ∧ i ≤ j else anchor ≤ i ∨ i ≤ j

theorem NoLater.refl (anchor? : Option Int) (i : Nat) : NoLater anchor? i i := by
  cases anchor? with
  | none => exact Nat.le_refl i
  | some anchor =>
    simp only [NoLater]
    split
    · exact ⟨‹_›, Nat.le_refl i⟩
    · exact .inr (Nat.le_refl i)

theorem NoLater.antisymm {anchor? : Option Int} {i j : Nat} (first : NoLater anchor? i j)
    (second : NoLater anchor? j i) : i = j := by
  cases anchor? with
  | none => exact Nat.le_antisymm first second
  | some anchor =>
    simp only [NoLater] at first second
    split at first <;> split at second <;> omega

variable {anchor? : Option Int} {spans : List (Nat × Nat)}

theorem mem_anchorFirst_iff {span : Nat × Nat} : span ∈ anchorFirst anchor? spans ↔ span ∈ spans := by
  cases anchor? with
  | none => rfl
  | some anchor =>
    simp only [anchorFirst, List.mem_append, List.mem_filter, decide_eq_true_eq, ← and_or_left]
    exact and_iff_left (le_or_gt anchor span.1)

/-- Spans in their order are searched in the order that the anchor gives them. -/
theorem pairwise_anchorFirst (anchor? : Option Int) (sorted : spans.Pairwise fun a b => a.1 < b.1) :
    (anchorFirst anchor? spans).Pairwise fun a b => NoLater anchor? a.1 b.1 := by
  cases anchor? with
  | none => exact sorted.imp fun lt => Nat.le_of_lt lt
  | some anchor =>
    refine List.pairwise_append.mpr ⟨?_, ?_, ?_⟩
    · refine (sorted.filter _).imp_of_mem fun {a b} left right lt => ?_
      simp only [List.mem_filter, decide_eq_true_eq] at left right
      simp only [NoLater, if_pos right.2]
      exact ⟨left.2, Nat.le_of_lt lt⟩
    · refine (sorted.filter _).imp_of_mem fun {a b} left right lt => ?_
      simp only [List.mem_filter, decide_eq_true_eq] at left right
      simp only [NoLater, if_neg (Int.not_le.mpr right.2)]
      exact .inr (Nat.le_of_lt lt)
    · intro a left b right
      simp only [List.mem_filter, decide_eq_true_eq] at left right
      simp only [NoLater, if_neg (Int.not_le.mpr right.2)]
      exact .inl left.2

/-- In a list that keeps an order, what is found is the first that there is to find. -/
theorem first_of_findSome? {α β : Type} {r : α → α → Prop} (refl : ∀ a, r a a) {l : List α}
    (sorted : l.Pairwise r) {f : α → Option β} {b : β} (found : l.findSome? f = some b) :
    ∃ a ∈ l, f a = some b ∧ ∀ other ∈ l, (f other).isSome = true → r a other := by
  obtain ⟨before, a, behind, rfl, here, none⟩ := List.findSome?_eq_some_iff.mp found
  obtain ⟨-, later, -⟩ := List.pairwise_append.mp sorted
  refine ⟨a, by simp, here, fun other mem some => ?_⟩
  rcases List.mem_append.mp mem with early | late
  · rw [none other early] at some
    cases some
  · rcases List.mem_cons.mp late with rfl | late
    · exact refl _
    · exact (List.pairwise_cons.mp later).1 other late

/-! ### The replacement -/

/-- Of the occurrences that do not look like code, the span is the first one in the order that the anchor
gives them. -/
structure IsFirstAccepted (source old : Text) (anchor? : Option Int) (span : Nat × Nat)
    (context : TextContext) : Prop where
  /-- It is an occurrence. -/
  occurs : IsOccurrence source old span
  /-- It is prose or a string. -/
  accepted : contextOf? source span.1 span.2 = some context
  /-- No other one comes before it. -/
  first : ∀ other, IsOccurrence source old other → (contextOf? source other.1 other.2).isSome = true →
    NoLater anchor? span.1 other.1

/-- There is only one such span. -/
theorem IsFirstAccepted.unique {s t : Nat × Nat} {context context' : TextContext}
    (one : IsFirstAccepted source old anchor? s context)
    (other : IsFirstAccepted source old anchor? t context') : s = t ∧ context = context' := by
  have before := one.first t other.occurs (by rw [other.accepted]; rfl)
  have behind := other.first s one.occurs (by rw [one.accepted]; rfl)
  obtain rfl := one.occurs.eq_of_start other.occurs (before.antisymm behind)
  exact ⟨rfl, Option.some.inj (one.accepted.symm.trans other.accepted)⟩

/-- The patch puts a text in place of a span: outside of the span the source is as it was, and the offsets
of the patch are where the text starts and ends. -/
structure TextPatch.Replaces (patch : TextPatch) (source : Text) (span : Nat × Nat) (new : Text) : Prop where
  /-- What stands before and behind the span is as it was. -/
  modified : patch.modified = source.take span.1 ++ new ++ source.drop span.2
  /-- The text starts where the span does. -/
  start : patch.start = span.1
  /-- It ends where it is over. -/
  stop : patch.stop = span.1 + new.length

/-- The new text as it is written in its context. -/
def newText (source old new : Text) (html : Bool) (start : Nat) (context : TextContext) : Text :=
  escapeFor (if strip old == old then new else strip new) context
    (match context with
      | .string => (charBefore? source start).toList
      | .markup => ['"']) html

/-- The patch that the span gives, if it is prose or a string. -/
def patchAt? (source old new : Text) (html : Bool) (span : Nat × Nat) : Option TextPatch :=
  (contextOf? source span.1 span.2).map fun context =>
    let text := newText source old new html span.1 context
    ⟨splice source span.1 span.2 text, span.1, span.1 + text.length, context⟩

theorem patchAt?_eq_some_iff {new : Text} {html : Bool} {span : Nat × Nat} {patch : TextPatch} :
    patchAt? source old new html span = some patch ↔
      contextOf? source span.1 span.2 = some patch.context ∧
        patch.Replaces source span (newText source old new html span.1 patch.context) := by
  constructor
  · intro found
    obtain ⟨context, accepted, rfl⟩ := Option.map_eq_some_iff.mp found
    exact ⟨accepted, rfl, rfl, rfl⟩
  · rintro ⟨accepted, modified, start, stop⟩
    obtain ⟨text, first, last, context⟩ := patch
    dsimp only at accepted modified start stop
    rw [patchAt?, accepted, modified, start, stop]
    rfl

/-- What the replacement comes to. -/
theorem replaceText_eq (worded : words old ≠ []) (new : Text) (anchor? : Option Int) (html : Bool) :
    replaceText source old new anchor? html =
      if (wordPlaces source old).isEmpty then .error (.missing (String.ofList (strip old)))
      else match (anchorFirst anchor? (wordPlaces source old)).findSome? (patchAt? source old new html) with
        | some patch => .ok patch
        | none => .error (.onlyCode (String.ofList (strip old)) (wordPlaces source old).length) := by
  have filled : (strip old).isEmpty = false := by
    have := (spells_strip worded).ne_nil
    simpa using this
  have places : wordPlaces source (strip old) = wordPlaces source old := by
    rw [wordPlaces, wordPlaces, words_strip]
  unfold replaceText
  simp only [filled, places, Bool.false_eq_true, if_false]
  rfl

section

variable (worded : words old ≠ [])

include worded

/-- There is no place to search if there is no occurrence. -/
theorem isEmpty_wordPlaces_iff :
    (wordPlaces source old).isEmpty = true ↔ ∀ span, ¬ IsOccurrence source old span := by
  simp only [List.isEmpty_iff, List.eq_nil_iff_forall_not_mem, mem_wordPlaces_iff worded]

/-- The search finds nothing if every occurrence looks like code. -/
theorem findSome?_patchAt?_eq_none_iff {new : Text} {html : Bool} :
    (anchorFirst anchor? (wordPlaces source old)).findSome? (patchAt? source old new html) = none ↔
      ∀ span, IsOccurrence source old span → contextOf? source span.1 span.2 = none := by
  simp only [List.findSome?_eq_none_iff, mem_anchorFirst_iff, mem_wordPlaces_iff worded, patchAt?,
    Option.map_eq_none_iff]

/-- What the search finds is the patch of the first occurrence that does not look like code. -/
theorem findSome?_patchAt?_eq_some_iff {new : Text} {html : Bool} {patch : TextPatch} :
    (anchorFirst anchor? (wordPlaces source old)).findSome? (patchAt? source old new html) = some patch ↔
      ∃ span, IsFirstAccepted source old anchor? span patch.context ∧
        patch.Replaces source span (newText source old new html span.1 patch.context) := by
  have first : ∀ {patch}, (anchorFirst anchor? (wordPlaces source old)).findSome?
      (patchAt? source old new html) = some patch → ∃ span,
        IsFirstAccepted source old anchor? span patch.context ∧
          patch.Replaces source span (newText source old new html span.1 patch.context) := by
    intro patch found
    have sorted := pairwise_anchorFirst anchor? (pairwise_wordPlaces source old)
    obtain ⟨span, mem, here, before⟩ := first_of_findSome? (fun span => .refl anchor? span.1) sorted found
    obtain ⟨accepted, replaces⟩ := patchAt?_eq_some_iff.mp here
    refine ⟨span, ⟨?_, accepted, fun other occurs some => before other ?_ ?_⟩, replaces⟩
    · exact (mem_wordPlaces_iff worded).mp (mem_anchorFirst_iff.mp mem)
    · exact mem_anchorFirst_iff.mpr ((mem_wordPlaces_iff worded).mpr occurs)
    · rwa [patchAt?, Option.isSome_map]
  refine ⟨first, ?_⟩
  rintro ⟨span, chosen, replaces⟩
  cases found : (anchorFirst anchor? (wordPlaces source old)).findSome? (patchAt? source old new html) with
  | none =>
    have refused := (findSome?_patchAt?_eq_none_iff worded).mp found span chosen.occurs
    cases chosen.accepted.symm.trans refused
  | some other =>
    -- there is only one such occurrence, so the patch that is found is its patch
    obtain ⟨span', chosen', replaces'⟩ := first found
    obtain ⟨rfl, same⟩ := chosen.unique chosen'
    have here := patchAt?_eq_some_iff.mpr ⟨chosen.accepted, replaces⟩
    rw [← here, patchAt?_eq_some_iff.mpr ⟨chosen'.accepted, replaces'⟩]

/-- Something is replaced exactly where there is a first occurrence that does not look like code. -/
theorem replaceText_eq_ok_iff {new : Text} {html : Bool} {patch : TextPatch} :
    replaceText source old new anchor? html = .ok patch ↔
      ∃ span, IsFirstAccepted source old anchor? span patch.context ∧
        patch.Replaces source span (newText source old new html span.1 patch.context) := by
  rw [replaceText_eq worded, ← findSome?_patchAt?_eq_some_iff worded]
  cases wordPlaces source old with
  | nil =>
    have none : anchorFirst anchor? [] = [] := by cases anchor? <;> rfl
    simp [none]
  | cons first rest =>
    cases (anchorFirst anchor? (first :: rest)).findSome? (patchAt? source old new html) <;> simp

/-- Where the text occurs and does not look like code, something is replaced. -/
theorem exists_patch {span : Nat × Nat} {context : TextContext} (occurs : IsOccurrence source old span)
    (accepted : contextOf? source span.1 span.2 = some context) (new : Text) (anchor? : Option Int) (html : Bool) :
    ∃ patch, replaceText source old new anchor? html = .ok patch := by
  cases found : (anchorFirst anchor? (wordPlaces source old)).findSome? (patchAt? source old new html) with
  | none =>
    have refused := (findSome?_patchAt?_eq_none_iff worded).mp found span occurs
    cases accepted.symm.trans refused
  | some patch =>
    exact ⟨patch, (replaceText_eq_ok_iff worded).mpr ((findSome?_patchAt?_eq_some_iff worded).mp found)⟩

/-- An occurrence that does not look like code is replaced if the anchor is where it starts. -/
theorem replaceText_of_occurs {span : Nat × Nat} {context : TextContext} (occurs : IsOccurrence source old span)
    (accepted : contextOf? source span.1 span.2 = some context) (new : Text) (html : Bool) :
    ∃ patch, replaceText source old new (some span.1) html = .ok patch ∧ patch.context = context ∧
      patch.start = span.1 := by
  refine ⟨⟨source.take span.1 ++ newText source old new html span.1 context ++ source.drop span.2, span.1,
    span.1 + (newText source old new html span.1 context).length, context⟩, ?_, rfl, rfl⟩
  refine (replaceText_eq_ok_iff worded).mpr ⟨span, ⟨occurs, accepted, fun other _ _ => ?_⟩, ⟨rfl, rfl, rfl⟩⟩
  simp only [NoLater]
  split <;> omega

/-- **Which occurrence is replaced**: a text with at least one word is not found if it occurs nowhere; it is
refused, with the number of its occurrences, if it occurs but each occurrence looks like code; otherwise one
occurrence is replaced, the first one from the anchor on that does not look like code, or the first one
before it if there is none from it on. -/
theorem replaceText_outcome (new : Text) (anchor? : Option Int) (html : Bool) :
    ((∃ e, replaceText source old new anchor? html = .error e ∧ e.IsNotFound) ↔
        ∀ span, ¬ IsOccurrence source old span) ∧
      (∀ n : Nat, (∃ needle, replaceText source old new anchor? html = .error (.onlyCode needle n)) ↔
        0 < n ∧ {span | IsOccurrence source old span}.encard = n ∧
          ∀ span, IsOccurrence source old span → contextOf? source span.1 span.2 = none) ∧
      ∀ patch, replaceText source old new anchor? html = .ok patch ↔
        ∃ span, IsFirstAccepted source old anchor? span patch.context ∧
          patch.Replaces source span (newText source old new html span.1 patch.context) := by
  have number : ∀ n : Nat, {span | IsOccurrence source old span}.encard = n ↔
      (wordPlaces source old).length = n := fun n => by rw [encard_occurrences worded, Nat.cast_inj]
  have refused : (anchorFirst anchor? (wordPlaces source old)).findSome? (patchAt? source old new html) =
      none ↔ ∀ span, IsOccurrence source old span → contextOf? source span.1 span.2 = none :=
    findSome?_patchAt?_eq_none_iff worded
  rw [replaceText_eq worded, ← isEmpty_wordPlaces_iff worded, ← refused]
  simp only [number, ← findSome?_patchAt?_eq_some_iff worded]
  cases places : wordPlaces source old with
  | nil =>
    have none : anchorFirst anchor? [] = [] := by cases anchor? <;> rfl
    simp +contextual [TextError.IsNotFound, none, Nat.ne_of_lt]
  | cons first rest =>
    cases (anchorFirst anchor? (first :: rest)).findSome? (patchAt? source old new html) with
    | none => simp +contextual [TextError.IsNotFound, eq_comm, iff_def]
    | some patch => simp [TextError.IsNotFound]

end

/-- A text that is replaced has words. -/
theorem words_ne_nil_of_replaceText {new : Text} {html : Bool} {patch : TextPatch}
    (replaced : replaceText source old new anchor? html = .ok patch) : words old ≠ [] := by
  refine words_ne_nil fun empty => ?_
  unfold replaceText at replaced
  simp [empty] at replaced

/-- Two elements with the same text. -/
def twins : Text := "<h1>Hello</h1><p>Hello</p>".toList

/-- The second of them with another one. -/
def greetedTwins : TextPatch := ⟨"<h1>Hello</h1><p>Hi</p>".toList, 17, 19, .markup⟩

/-- From the second element on, it is the second text that is replaced. -/
theorem twins_second_replaced :
    words "Hello".toList ≠ [] ∧
      replaceText twins "Hello".toList "Hi".toList (some 14) false = .ok greetedTwins ∧
      ∃ span, IsFirstAccepted twins "Hello".toList (some 14) span .markup ∧
        greetedTwins.Replaces twins span "Hi".toList := by
  have worded : words "Hello".toList ≠ [] := by decide
  have replaced : replaceText twins "Hello".toList "Hi".toList (some 14) false = .ok greetedTwins := by
    decide +kernel
  exact ⟨worded, replaced, ((replaceText_outcome worded "Hi".toList (some 14) false).2.2 _).mp replaced⟩

end Patch

end Retouch
