import Retouch.Backend.Journal
import Retouch.Proofs.Locate.Found

/-!
# Where the journal swaps tags

To take an edit back, the journal puts the text of the tag before the edit where it finds the text
after. It may find it in more than one place. This module shows that only one of them is right: a
source comes back exactly if the swap is made at the tag that was edited, and nothing behind that tag
was moved (`splice_restores_iff`). The reason is that texts of tags overlap badly: if two of them
stood in two places each, one of them would go on with the other (`prefix_of_two_places`).
-/

namespace Retouch

open Retouch.Text Retouch.Markup Retouch.Locate

/-! ### Texts that overlap themselves -/

section Overlap

variable {α : Type}

/-- Of two texts that repeat the same beginning, the shorter one is the beginning of the longer one. -/
theorem prefix_of_repeats {u s t : List α} (some : u ≠ []) (hs : s <+: u ++ s) (ht : t <+: u ++ t)
    (le : s.length ≤ t.length) : s <+: t := by
  have shift : ∀ (l : List α), l <+: u ++ l → ∀ k < l.length, (u ++ l)[k]? = l[k]? := by
    intro l hl k hk
    rw [List.prefix_iff_getElem?.mp hl k hk, List.getElem?_eq_getElem hk]
  have agree : ∀ k < s.length, s[k]? = t[k]? := by
    intro k
    induction k using Nat.strongRecOn with
    | ind k ih =>
      intro hk
      rw [← shift s hs k hk, ← shift t ht k (by omega)]
      by_cases inside : k < u.length
      · rw [List.getElem?_append_left inside, List.getElem?_append_left inside]
      · have pos := List.length_pos_iff.mpr some
        rw [List.getElem?_append_right (by omega), List.getElem?_append_right (by omega)]
        exact ih (k - u.length) (by omega) (by omega)
  refine List.prefix_iff_getElem?.mpr fun k hk => ?_
  rw [← agree k hk, List.getElem?_eq_getElem hk]

/-- Two texts that stand in the same two places of two sources, which agree up to the second place:
one of them is the beginning of the other. -/
theorem prefix_of_two_places {a b x y : List α} {i j : Nat} (lt : i < j) (within : j ≤ x.length)
    (ai : a <+: x.drop i) (aj : a <+: x.drop j) (bi : b <+: y.drop i) (bj : b <+: y.drop j)
    (agree : x.take j = y.take j) : a <+: b ∨ b <+: a := by
  have split : ∀ l : List α, l.drop i = (l.take j).drop i ++ l.drop j := by
    intro l
    have rest : l.drop j = (l.drop i).drop (j - i) := by
      rw [List.drop_drop]
      congr 1
      omega
    rw [List.drop_take, rest, List.take_append_drop]
  have repeats : ∀ {c l : List α}, c <+: l.drop i → c <+: l.drop j →
      c <+: (l.take j).drop i ++ c := by
    rintro c l hi ⟨r, hr⟩
    rw [split l, ← hr, ← List.append_assoc] at hi
    exact List.prefix_of_prefix_length_le hi (List.prefix_append _ _) (by simp)
  have some : (x.take j).drop i ≠ [] := by
    rw [← List.length_pos_iff, List.length_drop, List.length_take_of_le within]
    omega
  have ra := repeats ai aj
  have rb := repeats bi bj
  rw [← agree] at rb
  obtain le | le := Nat.le_total a.length b.length
  · exact Or.inl (prefix_of_repeats some ra rb le)
  · exact Or.inr (prefix_of_repeats some rb ra le)

end Overlap

/-! ### The place of a swap -/

/-- A text around another one that stands in it. -/
theorem around_prefix {t current : Text} {i : Nat} (stands : current <+: t.drop i) :
    t.take i ++ current ++ t.drop (i + current.length) = t := by
  obtain ⟨r, eq⟩ := stands
  have rest : t.drop (i + current.length) = r := by
    rw [← List.drop_drop, ← eq, List.drop_left]
  rw [rest, List.append_assoc, eq, List.take_append_drop]

/-- **Where a swap restores.** An edit turned a tag of `source`, which starts at `start` and reads
`before`, into one that reads `after`. To put `before` for `after` at some place of the result gives
`source` back exactly if that place is the start of the tag, and the same text stands behind it. -/
theorem splice_restores_iff {source modified before after : Text} {start place : Nat}
    (tagBefore : IsTagText before) (tagAfter : IsTagText after) (differ : before ≠ after)
    (stood : before <+: source.drop start) (stands : after <+: modified.drop start)
    (untouched : modified.take start = source.take start) (found : after <+: modified.drop place) :
    splice modified place (place + after.length) before = source ↔
      place = start ∧ modified.drop (start + after.length) = source.drop (start + before.length) := by
  have inside : ∀ {t u : Text} {i : Nat}, u ≠ [] → u <+: t.drop i → i ≤ t.length := by
    intro t u i filled le
    have := le.length_le
    have := List.length_pos_iff.mpr filled
    rw [List.length_drop] at *
    omega
  have placeIn := inside tagAfter.ne_nil found
  have startIn := inside tagAfter.ne_nil stands
  -- neither text goes on with the other
  have apart : ¬ (after <+: before ∨ before <+: after) := by
    rintro (le | le)
    · exact differ (tagAfter.eq_of_prefix tagBefore le).symm
    · exact differ (tagBefore.eq_of_prefix tagAfter le)
  constructor
  · intro restored
    have head : source.take place = modified.take place := by
      rw [← restored]
      exact take_splice _ _ placeIn
    have again : before <+: source.drop place := by
      rw [← restored, splice, List.append_assoc, List.drop_left' (List.length_take_of_le placeIn)]
      exact List.prefix_append _ _
    obtain lt | rfl | gt := Nat.lt_trichotomy place start
    · exact absurd (prefix_of_two_places lt startIn found stands again stood untouched) apart
    · refine ⟨rfl, ?_⟩
      rw [← drop_splice _ before placeIn, restored]
    · exact absurd (prefix_of_two_places gt placeIn stands found stood again head.symm) apart
  · rintro ⟨rfl, rest⟩
    rw [splice, rest, untouched]
    exact around_prefix stood

namespace Journal

/-- The place where the journal swaps a text: the tag that the hints lead to if it reads so, otherwise
the only place where the text stands. -/
def swapPlace? (source current : Text) (hints : Hints) (limits : SearchLimits) : Option Nat :=
  match ((findTag? source hints limits).map (·.1)).filter fun tag => tag.text source == current with
  | some tag => some tag.start
  | none => if countFrom current 0 source == 1 then Text.find? current source else none

/-- A text stands where it is found. -/
theorem find?_prefix {needle t : Text} {i : Nat} (found : Text.find? needle t = some i) :
    needle <+: t.drop i := by
  induction t generalizing i with
  | nil =>
    unfold Text.find? at found
    split at found
    · rename_i empty
      rw [List.isEmpty_iff.mp empty]
      exact List.nil_prefix
    · cases found
  | cons c rest ih =>
    unfold Text.find? at found
    split at found
    · rename_i here
      cases found
      exact List.isPrefixOf_iff_prefix.mp here
    · obtain ⟨j, later, rfl⟩ := Option.map_eq_some_iff.mp found
      exact ih later

/-- Where the journal swaps a text, that text stands. -/
theorem swapPlace?_prefix {source current : Text} {hints : Hints} {limits : SearchLimits} {i : Nat}
    (place : swapPlace? source current hints limits = some i) : current <+: source.drop i := by
  unfold swapPlace? at place
  split at place
  · rename_i tag chosen
    cases place
    rw [← eq_of_beq (Option.filter_eq_some_iff.mp chosen).2]
    exact text_prefix tag
  · split at place
    · exact find?_prefix place
    · cases place

/-- The journal swaps texts at that place and nowhere else. -/
theorem swap?_eq (source current wanted : Text) (hints : Hints) (limits : SearchLimits) :
    swap? source current wanted hints limits = (swapPlace? source current hints limits).map fun i =>
      splice source i (i + current.length) wanted := by
  unfold swap? swapPlace?
  dsimp only
  cases chosen : ((findTag? source hints limits).map (·.1)).filter fun tag =>
      tag.text source == current with
  | none =>
    dsimp only
    split <;> rfl
  | some tag =>
    obtain ⟨located, reads⟩ := Option.filter_eq_some_iff.mp chosen
    obtain ⟨⟨tag', strategy⟩, found, rfl⟩ := Option.map_eq_some_iff.mp located
    have length := length_text (findTag?_read found)
    rw [eq_of_beq reads] at length
    simp only [Option.map_some]
    rw [length]

/-! ### What the journal remembers -/

/-- A record is remembered, unless nothing is. -/
theorem get?_record (j : Journal) (id : String) (r : EditRecord) :
    (j.record id r).get? id = if j.capacity = 0 then none else some r := by
  unfold get? record
  dsimp only
  have absent : ∀ n, Table.get? ((Table.erase j.records id).drop n) id = none := by
    intro n
    refine List.lookup_eq_none_iff.mpr fun e he => ?_
    have other : e.1 ≠ id := by simpa using (List.mem_filter.mp (List.mem_of_mem_drop he)).2
    exact bne_iff_ne.mpr other.symm
  split
  · rename_i none
    rw [none, Nat.sub_zero, List.drop_length]
    rfl
  · rename_i some
    rw [List.drop_append_of_le_length (by rw [List.length_append, List.length_singleton]; omega)]
    unfold Table.get?
    rw [List.lookup_append]
    have := absent ((Table.erase j.records id ++ [(id, r)]).length - j.capacity)
    unfold Table.get? at this
    rw [this]
    simp

end Journal

end Retouch
