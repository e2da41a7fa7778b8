import Mathlib.Data.List.TakeWhile
import Retouch.Backend.Answer
import Retouch.Proofs.Locate.Found

/-!
# The place of a tag in its file

A tag is told to an editor by the line and the column of its first character. The two are counted back
from the tag, the search for them counts forward over the lines, and it reads a column in two ways, from
one and from zero. Both lead back to the tag: counted from zero, the first way to read a column points
right in front of the tag, and no tag opens with two angle brackets (`Backend.position_leadsTo`).
-/

namespace Retouch

open Retouch.Text Retouch.Markup Retouch.Locate

/-! ### The line of an offset -/

namespace Markup

/-- Lines that end are passed over. -/
theorem lineFrom?_append (i : Nat) {p : Text} (ended : p = [] ∨ p.getLast? = some '\n') (t : Text) :
    lineFrom? i (p.count '\n') (p ++ t) = lineFrom? (i + p.length) 0 t := by
  induction p generalizing i with
  | nil => rfl
  | cons c p ih =>
    have rest : p = [] ∨ p.getLast? = some '\n' := by
      cases p with
      | nil => exact Or.inl rfl
      | cons d p => simpa using ended
    have shift : i + (c :: p).length = i + 1 + p.length := by
      rw [List.length_cons]
      omega
    rw [shift, ← ih (i + 1) rest, List.cons_append]
    by_cases feed : c = '\n'
    · subst feed
      rw [List.count_cons_self, lineFrom?, if_pos (beq_self_eq_true _)]
    · -- the line of this character ends later on, so there is one more to pass over
      have later : '\n' ∈ p := by
        obtain ended | ended := ended
        · cases ended
        · obtain empty | last := rest
          · rw [empty, List.getLast?_singleton] at ended
            exact absurd (Option.some.inj ended) feed
          · exact List.mem_of_getLast? last
      obtain ⟨n, count⟩ := Nat.exists_eq_succ_of_ne_zero
        (Nat.pos_iff_ne_zero.mp (List.count_pos_iff.mpr later))
      rw [List.count_cons_of_ne feed, count, lineFrom?, if_neg (by simpa using feed)]

/-- The line of a character that ends no line: it starts as many characters before as the column says,
and does not end before the character. -/
theorem lineSpan?_lineOf {source : Text} {i : Nat} {c : Char} (here : source[i]? = some c)
    (plain : c ≠ '\n') :
    ∃ first last, lineSpan? source (lineOf source i) = some (first, last) ∧
      first + ((source.take i).reverse.takeWhile (· != '\n')).length = i ∧ i < last := by
  have within : i < source.length := (List.getElem?_eq_some_iff.mp here).1
  have rest : source.drop i = c :: source.drop (i + 1) := by
    rw [List.drop_eq_getElem_cons within, (List.getElem?_eq_some_iff.mp here).2]
  -- the text before the character: lines that end, and the beginning of its own line
  have before := List.takeWhile_append_dropWhile (p := (· != '\n')) (l := (source.take i).reverse)
  generalize lineBack : (source.take i).reverse.takeWhile (· != '\n') = line at before ⊢
  generalize linesBack : (source.take i).reverse.dropWhile (· != '\n') = lines at before
  have noFeed : ∀ d ∈ line, (d != '\n') = true := by
    rw [← lineBack]
    exact fun d mem => List.mem_takeWhile_imp (p := (· != '\n')) mem
  have ended : lines.reverse = [] ∨ lines.reverse.getLast? = some '\n' := by
    cases lines with
    | nil => exact Or.inl rfl
    | cons d lines =>
      have stop := List.head?_dropWhile_not (· != '\n') (source.take i).reverse
      rw [linesBack] at stop
      refine Or.inr ?_
      rw [List.getLast?_reverse, List.head?_cons]
      simpa using stop
  have split : source.take i = lines.reverse ++ line.reverse := by
    rw [← List.reverse_append, before, List.reverse_reverse]
  have length : lines.length + line.length = i := by
    have := congrArg List.length split
    rw [List.length_take_of_le (Nat.le_of_lt within), List.length_append, List.length_reverse,
      List.length_reverse] at this
    exact this.symm
  have count : (source.take i).count '\n' = lines.reverse.count '\n' := by
    rw [split, List.count_append, Nat.add_eq_left]
    refine List.count_eq_zero.mpr fun mem => ?_
    exact absurd (noFeed '\n' (List.mem_reverse.mp mem)) (by decide)
  have whole : source = lines.reverse ++ (line.reverse ++ c :: source.drop (i + 1)) := by
    rw [← List.append_assoc, ← split, ← rest, List.take_append_drop]
  refine ⟨lines.length,
    lines.length + ((line.reverse ++ c :: source.drop (i + 1)).takeWhile (· != '\n')).length, ?_,
    length, ?_⟩
  · unfold lineSpan? lineOf
    rw [if_neg (by omega), count,
      show (((lines.reverse.count '\n' + 1 : Nat) : Int) - 1).toNat = lines.reverse.count '\n' by omega]
    conv_lhs => rw [whole]
    rw [lineFrom?_append 0 ended, List.length_reverse, Nat.zero_add, lineFrom?]
  · have noFeed' : ∀ d ∈ line.reverse, (d != '\n') = true :=
      fun d mem => noFeed d (List.mem_reverse.mp mem)
    rw [List.takeWhile_append_of_pos noFeed', List.takeWhile_cons_of_pos (by simpa using plain),
      List.length_append, List.length_reverse, List.length_cons]
    omega

end Markup

/-! ### Two ways to read a column -/

namespace Locate

variable {source : Text} {tag : Tag}

/-- No tag is read right in front of an angle bracket: a name starts with a letter. -/
theorem readTag?_before_bracket {i : Nat} (bracket : source[i + 1]? = some '<') :
    readTag? source i = none := by
  unfold readTag?
  split
  · rename_i c rest here
    have second : c = '<' := by
      rw [← List.getElem?_drop, here] at bracket
      exact Option.some.inj bracket
    have noLetter : isLetter '<' = false := by decide
    rw [second, opensTag, noLetter, Bool.false_and, Bool.false_and, if_neg Bool.false_ne_true]
  · rfl

/-- A column counted from one is read as the offset that it means. -/
theorem tagAtColumn?_fromOne {first last column : Nat} (read : IsRead source tag)
    (place : first + column = tag.start + 1) (counted : column ≠ 0) (within : tag.start < last) :
    tagAtColumn? source first last column = some tag := by
  unfold tagAtColumn?
  rw [List.findSome?_cons, show (first + column - 1 : Int) = tag.start by omega,
    if_pos (by simp; omega), Int.toNat_natCast, read]

/-- A column counted from zero is first read as the offset in front of the one that it means, where no
tag is read if one is read at that one. -/
theorem tagAtColumn?_fromZero {first last column : Nat} (read : IsRead source tag)
    (place : first + column = tag.start) (positive : column ≠ 0) (within : tag.start < last) :
    tagAtColumn? source first last column = some tag := by
  have bracket : source[tag.start - 1 + 1]? = some '<' := by
    rw [Nat.sub_add_cancel (by omega)]
    exact getElem?_of_readTag? read
  have tooEarly : readTag? source (tag.start - 1) = none := readTag?_before_bracket bracket
  unfold tagAtColumn?
  rw [List.findSome?_cons, show (first + column - 1 : Int) = (tag.start - 1 : Nat) by omega,
    if_pos (by simp; omega), Int.toNat_natCast, tooEarly, List.findSome?_cons,
    show (first + column : Int) = tag.start by omega, if_pos (by simp; omega), Int.toNat_natCast, read]

/-- A line and a column lead to a tag: hints that give them find it by them, whatever else the hints
say. -/
def LeadsTo (source : Text) (limits : SearchLimits) (line column : Nat) (tag : Tag) : Prop :=
  ∀ hints : Hints, hints.line? = some (line : Int) → hints.column? = some (column : Int) →
    findTag? source hints limits = some (tag, .lineNumber)

/-- A column of a line leads to the tag that is read there, since the line is the first thing tried. -/
theorem leadsTo_of_tagAtColumn? {line column first last : Nat} (limits : SearchLimits)
    (numbered : line ≠ 0) (counted : column ≠ 0) (span : lineSpan? source line = some (first, last))
    (atColumn : tagAtColumn? source first last column = some tag) :
    LeadsTo source limits line column tag := by
  intro hints hasLine hasColumn
  have lineGiven : ((line : Int) == 0) = false := beq_false_of_ne (by omega)
  have columnGiven : ((column : Int) == 0) = false := beq_false_of_ne (by omega)
  have found : byStrategy .lineNumber source hints limits = some tag := by
    show byLine source hints limits = some tag
    unfold byLine
    rw [hasLine, hasColumn]
    dsimp only
    rw [lineGiven, span, columnGiven]
    dsimp only
    rw [if_neg Bool.false_ne_true, if_neg Bool.false_ne_true, atColumn]
  unfold findTag? Strategy.all
  rw [List.findSome?_cons, found]
  rfl

end Locate

/-- Hints that point to an offset by its line and its column, each counted from one. -/
structure Hints.PointsTo (hints : Hints) (source : Text) (i : Nat) : Prop where
  /-- The line. -/
  line : hints.line? = some ((Backend.lineAndColumn source i).1 : Int)
  /-- The column. -/
  column : hints.column? = some ((Backend.lineAndColumn source i).2 : Int)

/-- A tag is found where the hints point, whatever else they say. -/
theorem Hints.PointsTo.findTag? {hints : Hints} {source : Text} {tag : Tag}
    (points : hints.PointsTo source tag.start) (read : IsRead source tag) (limits : SearchLimits) :
    findTag? source hints limits = some (tag, .lineNumber) := by
  obtain ⟨first, last, span, place, within⟩ := lineSpan?_lineOf (getElem?_of_readTag? read) (by decide)
  refine leadsTo_of_tagAtColumn? limits (Nat.succ_ne_zero _) (Nat.succ_ne_zero _) span ?_ hints
    points.line points.column
  exact tagAtColumn?_fromOne read (congrArg (· + 1) place) (Nat.succ_ne_zero _) within

/-! ### The place that the backend tells -/

namespace Backend

variable {σ : Type} [Storage σ]

/-- A question for the place of an element whose tag is found is answered by the line and the column of
that tag. -/
theorem answerCode_of_findTag? {b : Backend σ} {r : CodeQuery} {path : String} {source : Text}
    {tag : Tag} {strategy : Strategy}
    (resolved : b.resolve r.path? r.position?
      (Hints.ofPosition r.selector r.position? r.text? r.classes?) = .ok (path, source))
    (found : findTag? source (Hints.ofPosition r.selector r.position? r.text? r.classes?)
      b.settings.search = some (tag, strategy)) :
    b.answerCode r = {
      success := true, selector := r.selector, path? := some path,
      line? := some (lineAndColumn source tag.start).1,
      column? := some (lineAndColumn source tag.start).2 } := by
  unfold answerCode
  dsimp only
  rw [resolved]
  dsimp only
  rw [found]

/-- **The place told for a tag leads back to it.** Any tag that is read from a source starts in a line,
which has as many lines before it as there are line feeds before the tag, and at a column, which is
counted from one. A question for an element that is found to be this tag is answered with this line and
this column; and with them the tag is found by its line, whatever else the hints and the limits say. It
is still found when the column is counted from zero, unless it is zero then, which stands for no column. -/
theorem position_leadsTo {source : Text} {i : Nat} {tag : Tag} (read : readTag? source i = some tag) :
    ∃ line column first last,
      line = (source.take tag.start).count '\n' + 1 ∧
      lineSpan? source line = some (first, last) ∧ first ≤ tag.start ∧ tag.start < last ∧
      column = tag.start - first + 1 ∧
      (∀ (b : Backend σ) (r : CodeQuery) (path : String) (strategy : Strategy),
        b.resolve r.path? r.position?
          (Hints.ofPosition r.selector r.position? r.text? r.classes?) = .ok (path, source) →
        findTag? source (Hints.ofPosition r.selector r.position? r.text? r.classes?)
          b.settings.search = some (tag, strategy) →
        b.answerCode r = {
          success := true, selector := r.selector, path? := some path, line? := some line,
          column? := some column }) ∧
      ∀ limits : SearchLimits,
        LeadsTo source limits line column tag ∧
        (column - 1 ≠ 0 → LeadsTo source limits line (column - 1) tag) := by
  have read := isRead_of_readTag? read
  obtain ⟨first, last, span, place, within⟩ := lineSpan?_lineOf (getElem?_of_readTag? read) (by decide)
  have column : (lineAndColumn source tag.start).2 = tag.start - first + 1 := by
    unfold lineAndColumn
    dsimp only
    omega
  refine ⟨lineOf source tag.start, tag.start - first + 1, first, last, rfl, span, by omega, within, rfl,
    ?_, fun limits => ⟨?_, ?_⟩⟩
  · intro b r path strategy resolved found
    rw [answerCode_of_findTag? resolved found, column]
    rfl
  · exact leadsTo_of_tagAtColumn? limits (Nat.succ_ne_zero _) (Nat.succ_ne_zero _) span
      (tagAtColumn?_fromOne read (by omega) (Nat.succ_ne_zero _) within)
  · intro positive
    exact leadsTo_of_tagAtColumn? limits (Nat.succ_ne_zero _) positive span
      (tagAtColumn?_fromZero read (by omega) positive within)

/-- An indented tag on the second line, asked for by its id. -/
def indented : Backend Memory where
  store := { sources := [("a.tsx", "<p>\n  <b id=\"x\">y</b>\n</p>".toList)] }

/-- The answer is line 2 and column 3. The tag is found there, and at column 2 as well, which is the
same place counted from zero. -/
theorem indented_leadsTo :
    let source := "<p>\n  <b id=\"x\">y</b>\n</p>".toList
    readTag? source 6 = some ⟨6, 15, ['b']⟩ ∧
      indented.answerCode { selector := "#x", path? := some "a.tsx" } = {
        success := true, selector := "#x", path? := some "a.tsx", line? := some 2, column? := some 3 } ∧
      LeadsTo source {} 2 3 ⟨6, 15, ['b']⟩ ∧ LeadsTo source {} 2 2 ⟨6, 15, ['b']⟩ := by
  intro source
  have read : readTag? source 6 = some ⟨6, 15, ['b']⟩ := by decide +kernel
  obtain ⟨line, column, first, last, counted, span, -, -, rfl, told, leads⟩ :=
    @position_leadsTo Memory _ _ _ _ read
  have second : line = 2 := counted.trans (by decide +kernel)
  subst second
  have spanned : lineSpan? source 2 = some (4, 21) := by decide +kernel
  obtain ⟨rfl, rfl⟩ := Prod.mk.inj (Option.some.inj (spanned.symm.trans span))
  have answered := told indented { selector := "#x", path? := some "a.tsx" } "a.tsx" .selectorId
    (by decide +kernel) (by decide +kernel)
  exact ⟨read, answered, (leads {}).1, (leads {}).2 (by decide)⟩

end Backend

end Retouch
