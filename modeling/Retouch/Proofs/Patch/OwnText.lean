import Retouch.Proofs.Locate.Found
import Retouch.Proofs.Patch.Context
import Retouch.Proofs.Patch.Occurrences

/-!
# The text of an element

The text that stands right behind the tag of an element is always taken for prose (`IsOwnText.exists_span`), so
a search from the tag on finds it at the latest. It finds it only if no place in the tag itself is taken for a
string with the same words, as the value of a title or a label is (`replaceText_ownText_iff`).
-/

namespace Retouch.Patch

open Retouch.Text Retouch.Markup Retouch.Locate

/-- The text stands between the tag of an element and the next angle bracket. -/
structure IsOwnText (source : Text) (tag : Tag) (t : Text) : Prop where
  /-- The tag is read from the source. -/
  read : IsRead source tag
  /-- The text stands behind it, up to a bracket. -/
  stands : ∃ rest, source.drop (tag.close + 1) = t ++ '<' :: rest
  /-- There is no bracket in the text. -/
  inside : '<' ∉ t

variable {source old t : Text} {tag : Tag}

/-- A tag ends with a bracket. -/
theorem getElem?_close (read : IsRead source tag) : source[tag.close]? = some '>' := by
  unfold IsRead readTag? at read
  split at read
  · rename_i c rest here
    split at read
    · obtain ⟨n, closed, same⟩ := Option.map_eq_some_iff.mp read
      have pos := closeFrom_pos (by simp) closed
      have last : (c :: rest)[n - 1]? = some (Opened.closer .tag) := getElem?_closeFrom rfl closed
      have close : tag.start + n = tag.close := congrArg Tag.close same
      rw [← close, ← List.getElem?_drop, here, List.getElem?_cons, if_neg (by omega), last]
      rfl
    · cases read
  · cases read

/-- **The text of an element is prose**: it is an occurrence of each text with the same words, behind the bracket of
the tag. -/
theorem IsOwnText.exists_span (own : IsOwnText source tag t) (same : words t = words old) (worded : words old ≠ []) :
    ∃ lead trail, t = lead ++ (strip t ++ trail) ∧ (∀ c ∈ lead, isBlank c = true) ∧
      (∀ c ∈ trail, isBlank c = true) ∧
      IsOccurrence source old (tag.close + 1 + lead.length, tag.close + 1 + lead.length + (strip t).length) ∧
      IsBehind source tag.close (tag.close + 1 + lead.length) ∧
      contextOf? source (tag.close + 1 + lead.length) (tag.close + 1 + lead.length + (strip t).length) =
        some .markup := by
  obtain ⟨read, ⟨rest, stands⟩, -⟩ := own
  obtain ⟨lead, trail, shape, front, back⟩ := exists_strip t
  have spells := spells_strip (same ▸ worded)
  generalize strip t = u at shape spells ⊢
  rw [shape, List.append_assoc] at stands
  have here : source.drop (tag.close + 1 + lead.length) = u ++ (trail ++ '<' :: rest) := by
    rw [← List.drop_drop, stands, List.drop_left, List.append_assoc]
  have behind : IsBehind source tag.close (tag.close + 1 + lead.length) := by
    refine ⟨getElem?_close read, by omega, ?_⟩
    rwa [slice, List.drop_take, stands, Nat.add_sub_cancel_left, List.take_left]
  refine ⟨lead, trail, shape, front, back, isOccurrence_iff.mpr ⟨u, same ▸ spells, ⟨_, here.symm⟩, rfl⟩, behind, ?_⟩
  refine (contextOf?_behind_iff behind).mpr (not_goesOn fun c next => ?_)
  rw [← List.getElem?_drop, here, List.getElem?_append_right (Nat.le_refl _), Nat.sub_self] at next
  cases trail with
  | nil => exact .inr (Option.some.inj next).symm
  | cons d trail => exact .inl (back c (Option.some.inj next ▸ List.mem_cons_self ..))

/-- No occurrence starts in the blanks in front of a place behind a bracket. -/
theorem IsBehind.le_of_occurs {k i : Nat} {span : Nat × Nat} (behind : IsBehind source k i)
    (occurs : IsOccurrence source old span) (later : k < span.1) : i ≤ span.1 := by
  by_contra early
  obtain ⟨c, first, filled⟩ := occurs.first
  have char : (slice source (k + 1) i)[span.1 - (k + 1)]? = some c := by
    rw [slice, List.getElem?_drop, List.getElem?_take_of_lt (by omega), ← first]
    congr 1
    omega
  cases (behind.blank c (List.mem_of_getElem? char)).symm.trans filled

/-! ### From the tag on -/

section

variable (own : IsOwnText source tag t) (same : words t = words old) {new : Text} {html : Bool}

include own same

/-- What is replaced stands behind the tag if nothing in the tag is prose or a string. -/
theorem replacedBehind_iff :
    (∃ patch, replaceText source old new (some tag.start) html = .ok patch ∧ tag.close < patch.start) ↔
      words old ≠ [] ∧ ∀ span, IsOccurrence source old span → tag.start ≤ span.1 → span.1 ≤ tag.close →
        contextOf? source span.1 span.2 = none := by
  have ordered := (readTag?_span own.read).1
  constructor
  · rintro ⟨patch, replaced, later⟩
    have worded := words_ne_nil_of_replaceText replaced
    obtain ⟨span, chosen, replaces⟩ := (replaceText_eq_ok_iff worded).mp replaced
    refine ⟨worded, fun other occurs le within => ?_⟩
    by_contra accepted
    have first := chosen.first other occurs (Option.isSome_iff_ne_none.mpr accepted)
    rw [NoLater, if_pos (by omega)] at first
    rw [replaces.start] at later
    omega
  · rintro ⟨worded, none⟩
    obtain ⟨lead, trail, -, -, -, occurs, behind, accepted⟩ := own.exists_span same worded
    obtain ⟨patch, replaced⟩ := exists_patch worded occurs accepted new (some tag.start) html
    obtain ⟨span, chosen, replaces⟩ := (replaceText_eq_ok_iff worded).mp replaced
    refine ⟨patch, replaced, ?_⟩
    have first := chosen.first _ occurs (by rw [accepted]; rfl)
    rw [NoLater, if_pos (by dsimp only; omega)] at first
    by_contra early
    rw [replaces.start] at early
    cases chosen.accepted.symm.trans (none span chosen.occurs (by omega) (by omega))

/-- What is replaced stands in the tag, or it is the text of the element. -/
theorem replaced_span {patch : TextPatch} (replaced : replaceText source old new (some tag.start) html = .ok patch) :
    tag.start ≤ patch.start ∧ (tag.close < patch.start → patch.context = .markup ∧
      ∃ lead trail, t = lead ++ (strip t ++ trail) ∧ (∀ c ∈ lead, isBlank c = true) ∧
        (∀ c ∈ trail, isBlank c = true) ∧
        patch.Replaces source (tag.close + 1 + lead.length, tag.close + 1 + lead.length + (strip t).length)
          (newText source old new html (tag.close + 1 + lead.length) .markup)) := by
  have ordered := (readTag?_span own.read).1
  have worded := words_ne_nil_of_replaceText replaced
  obtain ⟨lead, trail, shape, front, back, occurs, behind, accepted⟩ := own.exists_span same worded
  obtain ⟨span, chosen, replaces⟩ := (replaceText_eq_ok_iff worded).mp replaced
  have first := chosen.first _ occurs (by rw [accepted]; rfl)
  rw [NoLater, if_pos (by dsimp only; omega)] at first
  rw [replaces.start]
  refine ⟨by omega, fun later => ?_⟩
  -- only blanks are in between, so the occurrence is the text of the element
  have starts := Nat.le_antisymm first.2 (behind.le_of_occurs chosen.occurs later)
  obtain rfl := chosen.occurs.eq_of_start occurs starts
  have context := Option.some.inj (chosen.accepted.symm.trans accepted)
  exact ⟨context, lead, trail, shape, front, back, context ▸ replaces⟩

end

/-- An attribute of the tag that holds prose has the words of the text as its value. -/
inductive HoldsProse (source : Text) (tag : Tag) (old : Text) : Prop
  /-- A blank, the name of the attribute, an equals sign and the words in quotes; no colon stands behind them. -/
  | intro {before name u after c q} (shape : source = before ++ c :: (name ++ ['=']) ++ q :: (u ++ q :: after))
    (blank : isBlank c = true) (prose : String.ofList name ∈ proseAttributes) (quote : isQuote q = true)
    (spells : Spells (words old) u) (noKey : after.head? ≠ some ':') (behind : tag.start ≤ before.length)
    (within : before.length + name.length + 3 ≤ tag.close)

/-- It is a string in the tag. -/
theorem HoldsProse.exists_string (holds : HoldsProse source tag old) :
    ∃ span, words old ≠ [] ∧ IsOccurrence source old span ∧ tag.start ≤ span.1 ∧ span.1 ≤ tag.close ∧
      contextOf? source span.1 span.2 = some .string := by
  obtain @⟨before, name, u, after, c, q, rfl, blank, prose, quote, spells, noKey, behind, within⟩ := holds
  have length : (before ++ c :: (name ++ ['='])).length = before.length + name.length + 2 := by
    simp
    omega
  refine ⟨(_, _), spells.worded, isOccurrence_iff.mpr ⟨u, spells, ⟨q :: after, ?_⟩, rfl⟩, ?_, ?_,
    contextOf?_proseAttribute prose blank quote noKey⟩
  · rw [← List.drop_drop, List.drop_left]
    rfl
  · dsimp only
    omega
  · dsimp only
    omega

/-- **When the text of an element is replaced**, the search being from its tag on: exactly if it has words and no
place in the tag with the same words is prose or a string, and then it is the text behind the tag up to the blanks
around it. What is replaced otherwise stands in the tag, as it does if an attribute that holds prose has the same
words. -/
theorem replaceText_ownText_iff (own : IsOwnText source tag t) (same : words t = words old) (new : Text)
    (html : Bool) :
    ((∃ patch, replaceText source old new (some tag.start) html = .ok patch ∧ tag.close < patch.start) ↔
      words old ≠ [] ∧ ∀ span, IsOccurrence source old span → tag.start ≤ span.1 → span.1 ≤ tag.close →
        contextOf? source span.1 span.2 = none) ∧
    (∀ patch, replaceText source old new (some tag.start) html = .ok patch →
      tag.start ≤ patch.start ∧ (tag.close < patch.start → patch.context = .markup ∧
        ∃ lead trail, t = lead ++ (strip t ++ trail) ∧ (∀ c ∈ lead, isBlank c = true) ∧
          (∀ c ∈ trail, isBlank c = true) ∧
          patch.Replaces source (tag.close + 1 + lead.length, tag.close + 1 + lead.length + (strip t).length)
            (newText source old new html (tag.close + 1 + lead.length) .markup))) ∧
    (HoldsProse source tag old →
      ∃ patch, replaceText source old new (some tag.start) html = .ok patch ∧ patch.start ≤ tag.close) := by
  refine ⟨replacedBehind_iff own same, fun patch replaced => replaced_span own same replaced, fun holds => ?_⟩
  obtain ⟨span, worded, occurs, behind, within, string⟩ := holds.exists_string
  obtain ⟨patch, replaced⟩ := exists_patch worded occurs string new (some tag.start) html
  refine ⟨patch, replaced, Nat.le_of_not_lt fun later => ?_⟩
  have none := ((replacedBehind_iff own same).mp ⟨patch, replaced, later⟩).2 span occurs behind within
  cases string.symm.trans none

/-- A greeting with a title. -/
def titled : Text := "<p title=\"Hello there\" id=\"Hello\">\n  Hello\n</p>".toList

/-- Neither more words nor an attribute that holds no prose comes before the text of the element. -/
theorem titled_ownText :
    IsOwnText titled ⟨0, 33, ['p']⟩ "\n  Hello\n".toList ∧ words "\n  Hello\n".toList = words "Hello".toList ∧
      replaceText titled "Hello".toList "Hi".toList (some 0) false =
        .ok ⟨"<p title=\"Hello there\" id=\"Hello\">\n  Hi\n</p>".toList, 37, 39, .markup⟩ ∧
      ∀ span, IsOccurrence titled "Hello".toList span → 0 ≤ span.1 → span.1 ≤ 33 →
        contextOf? titled span.1 span.2 = none := by
  have own : IsOwnText titled ⟨0, 33, ['p']⟩ "\n  Hello\n".toList :=
    ⟨by unfold IsRead; decide, ⟨"/p>".toList, by decide⟩, by decide⟩
  have same : words "\n  Hello\n".toList = words "Hello".toList := by decide
  have replaced : replaceText titled "Hello".toList "Hi".toList (some 0) false =
      .ok ⟨"<p title=\"Hello there\" id=\"Hello\">\n  Hi\n</p>".toList, 37, 39, .markup⟩ := by decide
  exact ⟨own, same, replaced,
    ((replaceText_ownText_iff own same "Hi".toList false).1.mp ⟨_, replaced, by decide⟩).2⟩

/-- A greeting with a title in the same words. -/
def doubled : Text := "<p title=\"Hello\">Hello</p>".toList

/-- The title is replaced, and the text of the element stays as it is. -/
theorem doubled_title_replaced :
    IsOwnText doubled ⟨0, 16, ['p']⟩ "Hello".toList ∧
      replaceText doubled "Hello".toList "Hi".toList (some 0) false =
        .ok ⟨"<p title=\"Hi\">Hello</p>".toList, 10, 12, .string⟩ ∧
      ¬ ∃ patch, replaceText doubled "Hello".toList "Hi".toList (some 0) false = .ok patch ∧ 16 < patch.start := by
  have replaced : replaceText doubled "Hello".toList "Hi".toList (some 0) false =
      .ok ⟨"<p title=\"Hi\">Hello</p>".toList, 10, 12, .string⟩ := by decide
  refine ⟨⟨by unfold IsRead; decide, ⟨"/p>".toList, by decide⟩, by decide⟩, replaced, ?_⟩
  rintro ⟨patch, other, later⟩
  cases replaced.symm.trans other
  exact absurd later (by decide)

end Retouch.Patch
