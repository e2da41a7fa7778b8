import Mathlib.Data.List.TakeWhile
import Retouch.Text.Basic

/-!
# Texts taken apart

What a text is that was cut, stripped (`exists_strip`) or split: the pieces put together again are the
text. Whether a word occurs in it is decided from its start on (`has_cons`).
-/

namespace Retouch.Text

/-- What is said of every character of a text is decided character by character, and not over all
characters there are. -/
instance decidableForallChar {p : Char → Prop} [DecidablePred p] (t : List Char) : Decidable (∀ c ∈ t, p c) :=
  List.decidableBAll p t

/-- So is what is said of a character that may be missing. -/
instance decidableForallOptional {p : Char → Prop} [DecidablePred p] (c? : Option Char) :
    Decidable (∀ c ∈ c?, p c) := Option.decidableForallMem c?

/-- What holds of every blank is settled by their codes. -/
theorem forall_isBlank {P : Char → Prop} (all : ∀ n ∈ blankCodes, P (Char.ofNat n)) {c : Char}
    (blank : isBlank c = true) : P c :=
  Char.ofNat_toNat c ▸ all _ (List.contains_iff_mem.mp blank)

/-- What a text starts with is in it. -/
theorem dropHead?_eq_some {head t rest : Text} (dropped : dropHead? head t = some rest) :
    t = head ++ rest := by
  fun_induction dropHead? head t with
  | case1 t => simpa using dropped
  | case2 => cases dropped
  | case3 h head c t same ih => rw [ih dropped, eq_of_beq same, List.cons_append]
  | case4 => cases dropped

/-- What a text is put before is dropped again. -/
theorem dropHead?_append (head rest : Text) : dropHead? head (head ++ rest) = some rest := by
  induction head with
  | nil => rfl
  | cons c head ih => rw [List.cons_append, dropHead?, if_pos (beq_self_eq_true c), ih]

/-- What stands behind the character at an offset. -/
theorem drop_behind {source rest : Text} {c : Char} {j : Nat} (here : source.drop j = c :: rest) :
    source.drop (j + 1) = rest := by
  rw [← List.drop_drop, here]
  rfl

/-! ### Blanks around a text -/

/-- A text is what is left of it without the blanks in front, and these blanks. -/
theorem exists_stripStart (t : Text) :
    ∃ before, t = before ++ stripStart t ∧ ∀ c ∈ before, isBlank c = true :=
  ⟨t.takeWhile isBlank, List.takeWhile_append_dropWhile.symm, fun _ mem => List.mem_takeWhile_imp mem⟩

/-- A text is what is left of it without the blanks behind, and these blanks. -/
theorem exists_stripEnd (t : Text) :
    ∃ behind, t = stripEnd t ++ behind ∧ ∀ c ∈ behind, isBlank c = true := by
  refine ⟨(t.reverse.takeWhile isBlank).reverse, ?_, fun _ mem =>
    List.mem_takeWhile_imp (List.mem_reverse.mp mem)⟩
  rw [stripEnd, ← List.reverse_append, List.takeWhile_append_dropWhile, List.reverse_reverse]

/-- A text is what is between blanks, and the blanks around it. -/
theorem exists_strip (t : Text) : ∃ before behind, t = before ++ (strip t ++ behind) ∧
    (∀ c ∈ before, isBlank c = true) ∧ ∀ c ∈ behind, isBlank c = true := by
  obtain ⟨before, start, front⟩ := exists_stripStart t
  obtain ⟨behind, last, back⟩ := exists_stripEnd (stripStart t)
  refine ⟨before, behind, ?_, front, back⟩
  rw [strip, ← last, ← start]

/-- A text without blanks is all there is between blanks. -/
theorem strip_eq_self {t : Text} (filled : ∀ c ∈ t, isBlank c = false) : strip t = t := by
  have start : ∀ {t : Text}, (∀ c ∈ t, isBlank c = false) → t.dropWhile isBlank = t := by
    intro t filled
    cases t with
    | nil => rfl
    | cons c rest => simp [filled c (List.mem_cons_self ..)]
  unfold strip stripEnd stripStart
  rw [start filled, start, List.reverse_reverse]
  exact fun c mem => filled c (List.mem_reverse.mp mem)

/-- There is nothing between blanks. -/
theorem strip_of_isBlankText {t : Text} (blank : isBlankText t = true) : strip t = [] := by
  have start : stripStart t = [] := by
    induction t with
    | nil => rfl
    | cons c t ih =>
      obtain ⟨here, later⟩ := List.forall_mem_cons.mp (List.all_eq_true.mp blank)
      rw [stripStart, List.dropWhile_cons_of_pos here]
      exact ih (List.all_eq_true.mpr later)
  rw [strip, start]
  rfl

/-- A text that starts and ends with no blank is all there is between blanks. -/
theorem strip_of_ends {t : Text} (first : ∀ c ∈ t.head?, isBlank c = false)
    (last : ∀ c ∈ t.getLast?, isBlank c = false) : strip t = t := by
  have start : ∀ {u : Text}, (∀ c ∈ u.head?, isBlank c = false) → u.dropWhile isBlank = u := by
    intro u first
    cases u with
    | nil => rfl
    | cons c u => rw [List.dropWhile_cons_of_neg (by simp [first c rfl])]
  rw [strip, stripStart, start first, stripEnd, start (by rwa [List.head?_reverse]), List.reverse_reverse]

/-- What is between blanks starts with none. -/
theorem head?_strip (t : Text) : ∀ c ∈ (strip t).head?, isBlank c = false := by
  intro c head
  have stop := List.head?_dropWhile_not isBlank t
  obtain ⟨behind, whole, -⟩ := exists_stripEnd (stripStart t)
  have first : (stripStart t).head? = some c := by
    rw [whole, List.head?_append, show (stripEnd (stripStart t)).head? = some c from head]
    rfl
  rw [show t.dropWhile isBlank = stripStart t from rfl, first] at stop
  simpa using stop

/-- What is between blanks ends with none. -/
theorem getLast?_strip (t : Text) : ∀ c ∈ (strip t).getLast?, isBlank c = false := by
  intro c last
  have stop := List.head?_dropWhile_not isBlank (stripStart t).reverse
  rw [strip, stripEnd, List.getLast?_reverse] at last
  rw [last] at stop
  simpa using stop

/-- There are no blanks around what is between blanks. -/
theorem strip_strip (t : Text) : strip (strip t) = strip t :=
  strip_of_ends (head?_strip t) (getLast?_strip t)

/-- A text that does not end with a line feed stays. -/
theorem dropFinalBreak_of_getLast? {t : Text} (last : t.getLast? ≠ some '\n') : dropFinalBreak t = t :=
  if_neg (by simpa using last)

/-- A text is what is left of it, perhaps with a line feed behind. -/
theorem eq_dropFinalBreak (t : Text) : t = dropFinalBreak t ∨ t = dropFinalBreak t ++ ['\n'] := by
  unfold dropFinalBreak
  split
  · rename_i last
    obtain ⟨start, rfl⟩ := List.getLast?_eq_some_iff.mp (eq_of_beq last)
    exact .inr (by rw [List.dropLast_concat])
  · exact .inl rfl

/-- The line feed that is dropped is the last of several characters. -/
theorem dropFinalBreak_cons {t : Text} (some : t ≠ []) (c : Char) :
    dropFinalBreak (c :: t) = c :: dropFinalBreak t := by
  obtain ⟨start, last, rfl⟩ := List.eq_nil_or_concat t |>.resolve_left some
  unfold dropFinalBreak
  rw [List.concat_eq_append, ← List.cons_append, List.getLast?_concat, List.getLast?_concat,
    List.dropLast_concat, List.dropLast_concat]
  split <;> rfl

/-! ### Words in a text -/

theorem startsWith_nil (t : Text) : startsWith t [] = true := List.isPrefixOf_nil_left ..

theorem startsWith_cons (c d : Char) (t w : Text) :
    startsWith (c :: t) (d :: w) = (d == c && startsWith t w) := rfl

theorem has_cons (c : Char) (t w : Text) : has (c :: t) w = (startsWith (c :: t) w || has t w) := by
  rw [has, Text.find?]
  split
  · rename_i starts
    rw [starts]
    rfl
  · rename_i starts
    rw [Bool.eq_false_iff.mpr starts, Option.isSome_map, Bool.false_or]
    rfl

theorem has_nil {w : Text} (some : w ≠ []) : has [] w = false := by
  cases w with
  | nil => exact absurd rfl some
  | cons => rfl

/-! ### Pieces between separators -/

theorem splitFrom_ne_nil (sep : Char) (piece t : Text) : splitFrom sep piece t ≠ [] := by
  fun_induction splitFrom sep piece t with
  | case1 => nofun
  | case2 => nofun
  | case3 _ _ _ _ ih => exact ih

theorem join_cons {sep piece : Text} {pieces : List Text} (some : pieces ≠ []) :
    join sep (piece :: pieces) = piece ++ sep ++ join sep pieces := by
  cases pieces with
  | nil => exact absurd rfl some
  | cons => rfl

theorem join_splitFrom (sep : Char) (piece t : Text) :
    join [sep] (splitFrom sep piece t) = piece.reverse ++ t := by
  fun_induction splitFrom sep piece t with
  | case1 => simp [join]
  | case2 piece c rest same ih =>
    rw [join_cons (splitFrom_ne_nil sep [] rest), ih, ← eq_of_beq same]
    simp
  | case3 piece c rest _ ih => rw [ih, List.reverse_cons, List.append_assoc, List.singleton_append]

/-- What was read before belongs to the first piece. -/
theorem splitFrom_eq (sep : Char) (piece t : Text) :
    splitFrom sep piece t = (splitOn sep t).modifyHead (piece.reverse ++ ·) := by
  rw [splitOn]
  induction t generalizing piece with
  | nil => simp [splitFrom]
  | cons c t ih =>
    rw [splitFrom, splitFrom]
    split
    · simp
    · rw [ih (c :: piece), ih [c], List.modifyHead_modifyHead]
      simp [Function.comp_def]

/-- A text without separators is one piece. -/
theorem splitFrom_eq_self {sep : Char} {t : Text} (none : sep ∉ t) (piece : Text) :
    splitFrom sep piece t = [piece.reverse ++ t] := by
  induction t generalizing piece with
  | nil => rw [splitFrom, List.append_nil]
  | cons c t ih =>
    obtain ⟨here, later⟩ := not_or.mp (mt List.mem_cons.mpr none)
    rw [splitFrom, if_neg (by simpa using Ne.symm here), ih later, List.reverse_cons, List.append_assoc,
      List.singleton_append]

/-- The pieces between separators, put together again. -/
theorem join_splitOn (sep : Char) (t : Text) : join [sep] (splitOn sep t) = t :=
  join_splitFrom sep [] t

theorem splitFrom_append {sep : Char} {t : Text} (none : sep ∉ t) (piece rest : Text) :
    splitFrom sep piece (t ++ sep :: rest) = (piece.reverse ++ t) :: splitFrom sep [] rest := by
  induction t generalizing piece with
  | nil => rw [List.nil_append, splitFrom, if_pos (beq_self_eq_true sep), List.append_nil]
  | cons c t ih =>
    obtain ⟨here, later⟩ := not_or.mp (mt List.mem_cons.mpr none)
    rw [List.cons_append, splitFrom, if_neg (by simpa using Ne.symm here), ih later, List.reverse_cons,
      List.append_assoc, List.singleton_append]

/-- Pieces without separators are what the text put together of them is split into. -/
theorem splitOn_join {sep : Char} {pieces : List Text} (some : pieces ≠ [])
    (none : ∀ piece ∈ pieces, sep ∉ piece) :
    splitOn sep (join [sep] pieces) = pieces := by
  induction pieces with
  | nil => exact absurd rfl some
  | cons piece more ih =>
    obtain ⟨here, later⟩ := List.forall_mem_cons.mp none
    cases more with
    | nil => rw [join, splitOn, splitFrom_eq_self here, List.reverse_nil, List.nil_append]
    | cons next more =>
      rw [join_cons (List.cons_ne_nil _ _), splitOn, List.append_assoc, List.singleton_append,
        splitFrom_append here, List.reverse_nil, List.nil_append]
      exact congrArg _ (ih (List.cons_ne_nil _ _) later)

end Retouch.Text
