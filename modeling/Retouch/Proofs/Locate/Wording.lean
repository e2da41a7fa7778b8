import Retouch.Locate.Strategy
import Retouch.Proofs.Markup.Value
import Retouch.Proofs.Text

/-!
# Words with blanks between them

A text is split into words at its blanks (`words_append_blank`). Words are spelled by a text that is made
of just these words with blanks between them (`Spells`): it starts and ends with no blank, and its words are
these (`spells_iff`). The search for words takes such a text from the start of another one, and nothing
else (`matchWords?_eq_some_iff`).
-/

namespace Retouch.Text

open Retouch.Markup

/-! ### Words -/

/-- A piece of at least one character, none of them a blank. -/
def IsUnbroken (w : Text) : Prop := w ≠ [] ∧ ∀ c ∈ w, isBlank c = false

theorem wordsFrom_append_blank {c : Char} (blank : isBlank c = true) (word s t : Text) :
    wordsFrom word (s ++ c :: t) = wordsFrom word s ++ words t := by
  induction s generalizing word with
  | nil =>
    simp only [List.nil_append, wordsFrom, if_pos blank]
    split <;> rfl
  | cons d s ih =>
    rw [List.cons_append, wordsFrom, wordsFrom]
    split
    · split
      · exact ih []
      · rw [ih [], List.cons_append]
    · exact ih (d :: word)

/-- **Words end at blanks**: the words of a text with a blank in it are those on both sides of it. -/
theorem words_append_blank {c : Char} (blank : isBlank c = true) (s t : Text) :
    words (s ++ c :: t) = words s ++ words t :=
  wordsFrom_append_blank blank [] s t

theorem words_unbroken {w : Text} (unbroken : IsUnbroken w) : words w = [w] := by
  obtain ⟨some, filled⟩ := unbroken
  have all : ∀ {word t : Text}, (∀ c ∈ t, isBlank c = false) → word ≠ [] ∨ t ≠ [] →
      wordsFrom word t = [word.reverse ++ t] := by
    intro word t filled some
    induction t generalizing word with
    | nil => simp [wordsFrom, some.resolve_right (absurd rfl)]
    | cons c t ih =>
      obtain ⟨here, later⟩ := List.forall_mem_cons.mp filled
      rw [wordsFrom, if_neg (by simp [here]), ih later (.inl (List.cons_ne_nil c word))]
      simp
  exact all filled (.inr some)

/-- Blanks in front belong to no word. -/
theorem words_blanks_append {gap : Text} (blank : ∀ c ∈ gap, isBlank c = true) (t : Text) :
    words (gap ++ t) = words t := by
  induction gap with
  | nil => rfl
  | cons c gap ih =>
    obtain ⟨here, later⟩ := List.forall_mem_cons.mp blank
    exact (words_append_blank here [] (gap ++ t)).trans (ih later)

/-- Neither do blanks behind. -/
theorem words_append_blanks {gap : Text} (blank : ∀ c ∈ gap, isBlank c = true) (t : Text) :
    words (t ++ gap) = words t := by
  cases gap with
  | nil => rw [List.append_nil]
  | cons c gap =>
    obtain ⟨here, later⟩ := List.forall_mem_cons.mp blank
    have none := words_blanks_append later []
    rw [List.append_nil] at none
    rw [words_append_blank here, none]
    exact List.append_nil _

/-- The words of a text are those between the blanks around it. -/
theorem words_strip (t : Text) : words (strip t) = words t := by
  obtain ⟨before, behind, eq, front, back⟩ := exists_strip t
  conv_rhs => rw [eq, words_blanks_append front, words_append_blanks back]

/-! ### Words that a text spells -/

/-- The text is made of the words, with blanks between them. -/
inductive Spells : List Text → Text → Prop
  /-- The last word. -/
  | last {w} (unbroken : IsUnbroken w) : Spells [w] w
  /-- A word, blanks and more words. -/
  | next {w ws gap u} (unbroken : IsUnbroken w) (some : gap ≠ []) (blank : ∀ c ∈ gap, isBlank c = true)
    (more : Spells ws u) : Spells (w :: ws) (w ++ (gap ++ u))

namespace Spells

variable {ws : List Text} {u : Text}

theorem words_eq (spells : Spells ws u) : words u = ws := by
  induction spells with
  | last unbroken => exact words_unbroken unbroken
  | next unbroken some blank more ih =>
    obtain ⟨c, gap, rfl⟩ := List.exists_cons_of_ne_nil some
    obtain ⟨here, later⟩ := List.forall_mem_cons.mp blank
    rw [List.cons_append, words_append_blank here, words_unbroken unbroken, words_blanks_append later, ih]
    rfl

theorem unbroken (spells : Spells ws u) : ∀ w ∈ ws, IsUnbroken w := by
  induction spells with
  | last unbroken => exact List.forall_mem_singleton.mpr unbroken
  | next unbroken _ _ _ ih => exact List.forall_mem_cons.mpr ⟨unbroken, ih⟩

/-- It starts with the first word. -/
theorem exists_head (spells : Spells ws u) : ∃ c, u.head? = some c ∧ isBlank c = false := by
  have head : ∀ {w : Text}, IsUnbroken w → ∀ t, ∃ c, (w ++ t).head? = some c ∧ isBlank c = false := by
    rintro w ⟨some, filled⟩ t
    obtain ⟨c, w, rfl⟩ := List.exists_cons_of_ne_nil some
    exact ⟨c, rfl, filled c (List.mem_cons_self ..)⟩
  cases spells with
  | last unbroken => simpa using head unbroken []
  | next unbroken => exact head unbroken _

/-- It ends with the last one. -/
theorem exists_getLast (spells : Spells ws u) : ∃ c, u.getLast? = some c ∧ isBlank c = false := by
  induction spells with
  | last unbroken =>
    obtain ⟨some, filled⟩ := unbroken
    exact ⟨_, List.getLast?_eq_some_getLast some, filled _ (List.getLast_mem some)⟩
  | next _ _ _ _ ih =>
    obtain ⟨c, last, filled⟩ := ih
    exact ⟨c, by simp [List.getLast?_append, last], filled⟩

theorem ne_nil (spells : Spells ws u) : u ≠ [] := by
  rintro rfl
  obtain ⟨c, head, -⟩ := spells.exists_head
  cases head

/-- There is at least one word. -/
theorem worded (spells : Spells ws u) : ws ≠ [] := by
  rintro rfl
  cases spells

end Spells

/-- A text that starts and ends with no blank spells its words. -/
theorem spells_words {u : Text} (first : ∃ c, u.head? = some c ∧ isBlank c = false)
    (last : ∃ c, u.getLast? = some c ∧ isBlank c = false) : Spells (words u) u := by
  induction length : u.length using Nat.strong_induction_on generalizing u with
  | _ n ih =>
    obtain ⟨w, rest, rfl, run, stops⟩ := exists_run (fun c => !isBlank c) u
    have filled : ∀ c ∈ w, isBlank c = false := fun c mem => by simpa using run c mem
    have some : w ≠ [] := by
      rintro rfl
      obtain ⟨c, head, filled⟩ := first
      simpa [filled] using stops c head
    obtain ⟨gap, u, rfl, blank, starts⟩ := exists_run isBlank rest
    by_cases empty : gap ++ u = []
    · rw [empty, List.append_nil, words_unbroken ⟨some, filled⟩]
      exact .last ⟨some, filled⟩
    have gapped : gap ≠ [] := by
      rintro rfl
      obtain ⟨c, u, rfl⟩ := List.exists_cons_of_ne_nil empty
      simpa [starts c rfl] using stops c rfl
    -- what ends with no blank does not end in the gap
    have more : u ≠ [] := by
      rintro rfl
      obtain ⟨c, last, filled⟩ := last
      rw [List.append_nil, List.getLast?_append_of_ne_nil _ gapped] at last
      rw [blank c (List.mem_of_getLast? last)] at filled
      cases filled
    have spells : Spells (words u) u := by
      refine ih u.length ?_ ?_ ?_ rfl
      · have := List.length_pos_iff.mpr some
        rw [← length, List.length_append, List.length_append]
        omega
      · exact ⟨_, List.head?_eq_some_head more, starts _ (List.head?_eq_some_head more)⟩
      · rwa [List.getLast?_append_of_ne_nil _ empty, List.getLast?_append_of_ne_nil _ more] at last
    have whole : Spells (w :: words u) (w ++ (gap ++ u)) := .next ⟨some, filled⟩ gapped blank spells
    rwa [whole.words_eq]

/-- **Words are spelled** by a text that starts and ends with no blank and has just these words. -/
theorem spells_iff {ws : List Text} {u : Text} :
    Spells ws u ↔ words u = ws ∧ (∃ c, u.head? = some c ∧ isBlank c = false) ∧
      ∃ c, u.getLast? = some c ∧ isBlank c = false := by
  constructor
  · intro spells
    exact ⟨spells.words_eq, spells.exists_head, spells.exists_getLast⟩
  · rintro ⟨rfl, first, last⟩
    exact spells_words first last

/-- What is between the blanks around a text spells its words. -/
theorem spells_of_filled {t : Text} (filled : strip t ≠ []) : Spells (words t) (strip t) := by
  have first := List.head?_eq_some_head filled
  have last := List.getLast?_eq_some_getLast filled
  rw [← words_strip]
  exact spells_words ⟨_, first, head?_strip t _ first⟩ ⟨_, last, getLast?_strip t _ last⟩

/-- A text has words if there is anything between the blanks around it. -/
theorem words_ne_nil {t : Text} (filled : strip t ≠ []) : words t ≠ [] := (spells_of_filled filled).worded

/-- What is between the blanks around a text spells its words, if it has any. -/
theorem spells_strip {t : Text} (some : words t ≠ []) : Spells (words t) (strip t) := by
  refine spells_of_filled fun empty => ?_
  rw [← words_strip, empty] at some
  exact some rfl

end Retouch.Text

namespace Retouch.Locate

open Retouch.Text Retouch.Markup

/-! ### The search for words -/

variable {ws : List Text} {t : Text} {n : Nat}

theorem matchWords?_cons {word : Text} {more : List Text} (some : more ≠ []) (t : Text) :
    matchWords? (word :: more) t = (dropHead? word t).bind fun rest =>
      let gap := (rest.takeWhile isBlank).length
      if gap == 0 then none else (matchWords? more (rest.drop gap)).map (word.length + gap + ·) := by
  obtain ⟨next, more, rfl⟩ := List.exists_cons_of_ne_nil some
  rfl

/-- What spells the words at the start of a text is taken. -/
theorem matchWords?_append {u : Text} (spells : Spells ws u) (rest : Text) :
    matchWords? ws (u ++ rest) = some u.length := by
  induction spells with
  | last unbroken => rw [matchWords?, dropHead?_append, Option.map_some]
  | @next w ws gap u unbroken some blank more ih =>
    have many : ws ≠ [] := by rintro rfl; cases more
    have stops : ∀ c, (u ++ rest).head? = Option.some c → isBlank c = false := by
      intro c head
      obtain ⟨d, first, filled⟩ := more.exists_head
      rw [List.head?_append, first] at head
      cases head
      exact filled
    have gapped : (gap.length == 0) = false := beq_false_of_ne fun none => some (List.length_eq_zero_iff.mp none)
    rw [List.append_assoc, List.append_assoc, matchWords?_cons many, dropHead?_append, Option.bind_some]
    dsimp only
    rw [takeWhile_run blank stops, gapped, if_neg Bool.false_ne_true, List.drop_left, ih, Option.map_some,
      List.length_append, List.length_append, Nat.add_assoc]

/-- **The search takes what spells the words** at the start of a text, and nothing else. -/
theorem matchWords?_eq_some_iff (some : ws ≠ []) (unbroken : ∀ w ∈ ws, IsUnbroken w) :
    matchWords? ws t = Option.some n ↔ ∃ u, Spells ws u ∧ u <+: t ∧ u.length = n := by
  constructor
  · intro found
    induction ws generalizing t n with
    | nil => exact absurd rfl some
    | cons word more ih =>
      obtain ⟨here, later⟩ := List.forall_mem_cons.mp unbroken
      by_cases single : more = []
      · subst single
        obtain ⟨rest, dropped, rfl⟩ := Option.map_eq_some_iff.mp found
        rw [dropHead?_eq_some dropped]
        exact ⟨word, .last here, List.prefix_append .., rfl⟩
      · rw [matchWords?_cons single] at found
        obtain ⟨rest, dropped, found⟩ := Option.bind_eq_some_iff.mp found
        dsimp only at found
        split at found
        · cases found
        · rename_i gapped
          obtain ⟨m, others, rfl⟩ := Option.map_eq_some_iff.mp found
          obtain ⟨u, spells, ⟨behind, shape⟩, rfl⟩ := ih single later others
          have split : rest = rest.takeWhile isBlank ++ (u ++ behind) := by
            rw [shape, drop_length_takeWhile, List.takeWhile_append_dropWhile]
          refine ⟨word ++ (rest.takeWhile isBlank ++ u), ?_, ⟨behind, ?_⟩, ?_⟩
          · refine .next here (fun empty => gapped (by simp [empty])) (fun c mem => ?_) spells
            exact List.mem_takeWhile_imp mem
          · rw [dropHead?_eq_some dropped, List.append_assoc, List.append_assoc, ← split]
          · simp only [List.length_append, Nat.add_assoc]
  · rintro ⟨u, spells, ⟨rest, rfl⟩, rfl⟩
    exact matchWords?_append spells rest

end Retouch.Locate
