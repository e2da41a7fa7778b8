import Retouch.Proofs.Patch.Escaping

/-!
# Texts that mean themselves

A browser knows references and no backslashes, so it reads back what is written in a string only if nothing
was covered there and no reference stands in it (`Reads.compare`). It cannot come out right by accident: a
backslash stays ahead of the text that it was put into, and a reference leaves something behind. Nothing is
covered in a text that has no backslash, no quote and, by the kind of the quotes, no hole or no line feed
(`escaped_eq_self_iff`).
-/

namespace Retouch.Patch

open Retouch.Text Retouch.Markup

variable {refs : References} {q : Char}

/-! ### What a browser reads in a string -/

/-- A text, and what a browser reads where it stands in a string in the given quotes. -/
inductive Reads (refs : References) (q : Char) : Text → Text → Prop
  /-- Nothing. -/
  | nil : Reads refs q [] []
  /-- A reference stands for something else. -/
  | reference {name value t u} (run : ∀ c ∈ name, isReferenceChar c = true)
    (known : refs.value? name = some value) (rest : Reads refs q t u) :
    Reads refs q (References.written name ++ t) (value ++ u)
  /-- A covered character has a backslash in front of it. -/
  | covered {c t u} (covered : isCovered q c t = true) (rest : Reads refs q t u) :
    Reads refs q (c :: t) ('\\' :: letterOf c :: u)
  /-- Another character is itself. -/
  | plain {c t u} (plain : isCovered q c t = false) (none : refs.at? (c :: t) = none)
    (rest : Reads refs q t u) : Reads refs q (c :: t) (c :: u)

section

variable (quote : isQuote q = true)

include quote

/-- Characters of references are not covered. -/
theorem isCovered_of_reference {c : Char} (part : isReferenceChar c = true ∨ c = '&' ∨ c = ';') (t : Text) :
    isCovered q c t = false := by
  have others : ∀ d ∈ ['\\', '$', '\n', '"', '\'', backQuote],
      ¬(isReferenceChar d = true ∨ d = '&' ∨ d = ';') := by decide
  have other : ∀ d ∈ ['\\', '$', '\n', '"', '\'', backQuote], c ≠ d := by
    rintro d listed rfl
    exact others c listed part
  have noQuote : c ≠ q := by
    rcases isQuote_cases quote with rfl | rfl | rfl <;> exact other _ (by simp)
  simp [isCovered, noQuote, other]

/-- A reference is written as it stands. -/
theorem escaped_reference {name : Text} (run : ∀ c ∈ name, isReferenceChar c = true) (t : Text) :
    escaped q (References.written name ++ t) = References.written name ++ escaped q t := by
  have tail : ∀ {s : Text}, (∀ c ∈ s, isReferenceChar c = true) →
      escaped q (s ++ ';' :: t) = s ++ ';' :: escaped q t := by
    intro s run
    induction s with
    | nil => exact escaped_plain (isCovered_of_reference quote (.inr (.inr rfl)) t)
    | cons c s ih =>
      obtain ⟨here, later⟩ := List.forall_mem_cons.mp run
      rw [List.cons_append, escaped_plain (isCovered_of_reference quote (.inl here) _), ih later,
        List.cons_append]
  have shape : References.written name ++ t = '&' :: (name ++ ';' :: t) := by simp [References.written]
  rw [shape, escaped_plain (isCovered_of_reference quote (.inr (.inl rfl)) _), tail run]
  simp [References.written]

/-- No reference comes to stand where there was none. -/
theorem at?_escaped (t : Text) : refs.at? ('&' :: escaped q t) = refs.at? ('&' :: t) := by
  have same : (escaped q t).takeWhile isReferenceChar = t.takeWhile isReferenceChar ∧
      (((escaped q t).dropWhile isReferenceChar).head? = some ';' ↔
        (t.dropWhile isReferenceChar).head? = some ';') := by
    induction t with
    | nil => exact ⟨rfl, Iff.rfl⟩
    | cons c t ih =>
      by_cases part : isReferenceChar c = true
      · rw [escaped_plain (isCovered_of_reference quote (.inl part) t)]
        simpa [part] using ih
      · by_cases covered : isCovered q c t = true
        · have noEnd : c ≠ ';' := by
            rintro rfl
            cases covered.symm.trans (isCovered_of_reference quote (.inr (.inr rfl)) t)
          have cover : isReferenceChar '\\' = false := by decide
          rw [escaped_covered covered]
          simp [part, cover, noEnd]
        · rw [escaped_plain (Bool.eq_false_iff.mpr covered)]
          simp [part]
  simp only [References.at?, same]

/-- **What a browser reads** where a text stands in a string. -/
theorem reads_decode (refs : References) (t : Text) : Reads refs q t (refs.decode (escaped q t)) := by
  induction length : t.length using Nat.strong_induction_on generalizing t with
  | _ n ih =>
    cases t with
    | nil => exact .nil
    | cons c t =>
      have rest := ih t.length (by rw [← length]; exact Nat.lt_succ_self _) t rfl
      rcases References.decode_cases refs c t with ⟨name, value, behind, shape, run, known, -⟩ | ⟨none, -⟩
      · have shorter : behind.length < n := by
          rw [← length, shape]
          simp only [References.written, List.cons_append, List.append_assoc, List.length_cons,
            List.length_append]
          omega
        rw [shape, escaped_reference quote run, References.decode_written run known]
        exact .reference run known (ih _ shorter behind rfl)
      · by_cases covered : isCovered q c t = true
        · have noStart : letterOf c ≠ '&' := by
            rcases letterOf_cases quote covered with ⟨-, letter, -⟩ | ⟨letter, -, which⟩
            · rw [letter]
              decide
            · rw [letter]
              rintro rfl
              cases covered.symm.trans (isCovered_of_reference quote (.inr (.inl rfl)) t)
          rw [escaped_covered covered, References.decode_cons (References.at?_of_ne (by decide) _),
            References.decode_cons (References.at?_of_ne noStart _)]
          exact .covered covered rest
        · have plain := Bool.eq_false_iff.mpr covered
          have none' : refs.at? (c :: escaped q t) = Option.none := by
            by_cases start : c = '&'
            · subst start
              rwa [at?_escaped quote]
            · exact References.at?_of_ne start _
          rw [escaped_plain plain, References.decode_cons none']
          exact .plain plain none rest

end

/-! ### What does not come out right by accident -/

/-- A reference is longer than what it stands for, so some of it is left over. -/
theorem left_of_reference {name value w s r : Text} (run : ∀ c ∈ name, isReferenceChar c = true)
    (known : refs.value? name = some value) (bare : '\\' ∉ w)
    (same : value ++ s = w ++ (References.written name ++ r)) : ∃ w', w' ≠ [] ∧ '\\' ∉ w' ∧ s = w' ++ r := by
  have shorter := refs.shorter known
  rw [← List.append_assoc] at same
  rcases List.append_eq_append_iff.mp same with ⟨w', whole, rest⟩ | ⟨_, whole, -⟩
  · have length := congrArg List.length whole
    refine ⟨w', ?_, fun mem => ?_, rest⟩
    · rintro rfl
      simp [References.written] at length
      omega
    · have listed : '\\' ∈ w ++ References.written name := whole ▸ List.mem_append_right _ mem
      rcases List.mem_append.mp listed with early | late
      · exact bare early
      · have part : '\\' ∈ name := by simpa [References.written] using late
        exact absurd (run _ part) (by decide)
  · have length := congrArg List.length whole
    simp [References.written] at length
    omega

namespace Reads

variable {t u w y z : Text}

/-- Backslashes that are ahead of the text stay ahead. -/
theorem ahead (reads : Reads refs q t u) (some : w ≠ []) (covers : ∀ c ∈ w, c = '\\')
    (same : w ++ (u ++ y) = t ++ z) : ∃ w', w' ≠ [] ∧ (∀ c ∈ w', c = '\\') ∧ z = w' ++ y := by
  induction reads generalizing w with
  | nil => exact ⟨w, some, covers, same.symm⟩
  | reference =>
    obtain ⟨c, w, rfl⟩ := List.exists_cons_of_ne_nil some
    obtain ⟨rfl, -⟩ := List.cons.inj same
    exact absurd (covers _ (List.mem_cons_self ..)) (by decide)
  | @covered c t u _ _ ih =>
    obtain ⟨d, w, rfl⟩ := List.exists_cons_of_ne_nil some
    obtain ⟨rfl, same⟩ := List.cons.inj same
    obtain ⟨rfl, covers⟩ := List.forall_mem_cons.mp covers
    -- the backslash and the one that it covers take the place of the one that is over
    refine ih (w := w ++ ['\\', '\\']) (by simp) ?_ (by simpa [letterOf] using same)
    simpa [or_imp, forall_and] using covers
  | plain plain =>
    obtain ⟨d, w, rfl⟩ := List.exists_cons_of_ne_nil some
    obtain ⟨rfl, -⟩ := List.cons.inj same
    exact absurd (covers _ (List.mem_cons_self ..)) (plain_cases plain).1

/-- What is left behind the text stays behind. -/
theorem behind (reads : Reads refs q t u) (some : w ≠ []) (bare : '\\' ∉ w)
    (same : u ++ y = w ++ (t ++ z)) : ∃ w', w' ≠ [] ∧ '\\' ∉ w' ∧ y = w' ++ z := by
  induction reads generalizing w with
  | nil => exact ⟨w, some, bare, same⟩
  | reference run known _ ih =>
    rw [List.append_assoc, List.append_assoc] at same
    obtain ⟨w', some, bare, same⟩ := left_of_reference run known bare same
    exact ih some bare same
  | covered =>
    obtain ⟨c, w, rfl⟩ := List.exists_cons_of_ne_nil some
    obtain ⟨rfl, -⟩ := List.cons.inj same
    exact absurd (List.mem_cons_self ..) bare
  | @plain c t u plain _ _ ih =>
    obtain ⟨d, w, rfl⟩ := List.exists_cons_of_ne_nil some
    obtain ⟨rfl, same⟩ := List.cons.inj same
    have noCover := (plain_cases plain).1
    refine ih (w := w ++ [c]) (by simp) (fun mem => ?_) (by simpa using same)
    rcases List.mem_append.mp mem with early | late
    · exact bare (List.mem_cons_of_mem _ early)
    · exact noCover (List.mem_singleton.mp late).symm

/-- **Nothing comes out right by accident**: what is read goes on like the text only if it is the text as it
stands; otherwise a backslash is ahead of it, or something other than a backslash is left over. -/
theorem compare (reads : Reads refs q t u) (same : u ++ y = t ++ z) :
    (escaped q t = t ∧ refs.IsFree t ∧ y = z) ∨ (∃ w, w ≠ [] ∧ (∀ c ∈ w, c = '\\') ∧ z = w ++ y) ∨
      ∃ w, w ≠ [] ∧ '\\' ∉ w ∧ y = w ++ z := by
  induction reads with
  | nil => exact .inl ⟨rfl, fun k lt => absurd lt (Nat.not_lt_zero k), same⟩
  | reference run known rest =>
    rw [List.append_assoc, List.append_assoc] at same
    obtain ⟨w, some, bare, same⟩ := left_of_reference run known (w := []) List.not_mem_nil same
    exact .inr (.inr (rest.behind some bare same))
  | @covered c t u covered rest =>
    obtain ⟨rfl, same⟩ := List.cons.inj same
    exact .inr (.inl (rest.ahead (w := ['\\']) (by simp) (by simp) same))
  | plain plain none _ ih =>
    obtain ⟨-, same⟩ := List.cons.inj same
    refine (ih same).imp_left ?_
    rintro ⟨bare, free, rest⟩
    exact ⟨by rw [escaped_plain plain, bare], References.isFree_cons_iff.mpr ⟨none, free⟩, rest⟩

end Reads

section

variable (quote : isQuote q = true)

include quote

/-- **What comes out right** is a text that stands as it is and has no reference in it. -/
theorem decode_escaped_eq_iff {t : Text} : refs.decode (escaped q t) = t ↔ escaped q t = t ∧ refs.IsFree t := by
  constructor
  · intro same
    have compared := (reads_decode quote refs t).compare (y := []) (z := []) (by simpa using same)
    rcases compared with ⟨bare, free, -⟩ | ⟨w, some, -, none⟩ | ⟨w, some, -, none⟩
    · exact ⟨bare, free⟩
    · simp [some] at none
    · simp [some] at none
  · rintro ⟨bare, free⟩
    rw [bare, free.decode_eq]

/-- With nothing but backslashes behind it, what is read does not go on like the text. -/
theorem decode_escaped_append_ne {t k z : Text} {d : Char} (covers : ∀ c ∈ k, c = '\\') (other : d ≠ '\\') :
    refs.decode (escaped q t) ++ k ≠ t ++ d :: z := by
  intro same
  rcases (reads_decode quote refs t).compare same with
    ⟨-, -, rfl⟩ | ⟨w, some, more, behind⟩ | ⟨w, -, -, rfl⟩
  · exact other (covers d (List.mem_cons_self ..))
  · obtain ⟨c, w, rfl⟩ := List.exists_cons_of_ne_nil some
    obtain ⟨rfl, -⟩ := List.cons.inj behind
    exact other (more d (List.mem_cons_self ..))
  · exact other (covers d (by simp))

end

/-! ### Texts that stand as they are -/

/-- Nothing is taken away from a text. -/
theorem length_le_length_escaped (q : Char) (t : Text) : t.length ≤ (escaped q t).length := by
  induction t with
  | nil => exact Nat.le_refl _
  | cons c t ih =>
    rw [escaped]
    split <;> simp only [List.length_cons] <;> omega

/-- The characters that are covered. -/
theorem isCovered_iff {c : Char} {t : Text} :
    isCovered q c t = true ↔
      c = '\\' ∨ c = q ∨ q = backQuote ∧ c = '$' ∧ t.head? = some '{' ∨ q ≠ backQuote ∧ c = '\n' := by
  by_cases back : q = backQuote <;> simp [isCovered, back, or_assoc]

/-- **A text stands as it is** in a string if there is nothing in it to cover. -/
theorem escaped_eq_self_iff {t : Text} :
    escaped q t = t ↔
      '\\' ∉ t ∧ q ∉ t ∧ (q = backQuote → ¬ ['$', '{'] <:+: t) ∧ (q ≠ backQuote → '\n' ∉ t) := by
  induction t with
  | nil => simp [escaped]
  | cons c t ih =>
    have hole : ['$', '{'] <:+: c :: t ↔ (c = '$' ∧ t.head? = some '{') ∨ ['$', '{'] <:+: t := by
      rw [List.infix_cons_iff, List.cons_prefix_cons, List.singleton_prefix_iff_head?_eq_some, eq_comm]
    by_cases covered : isCovered q c t = true
    · refine iff_of_false (fun same => ?_) ?_
      · have length := congrArg List.length same
        have kept := length_le_length_escaped q t
        rw [escaped_covered covered] at length
        simp only [List.length_cons] at length
        omega
      · rw [hole]
        rcases isCovered_iff.mp covered with rfl | rfl | ⟨rfl, here⟩ | ⟨other, rfl⟩
        · simp
        · simp
        · simp [here]
        · simp [other]
    · have others := mt isCovered_iff.mpr covered
      simp only [not_or, not_and] at others
      obtain ⟨noCover, goes, noHole, noFeed⟩ := others
      rw [escaped_plain (Bool.eq_false_iff.mpr covered), List.cons_inj_right, ih, hole]
      simp only [List.mem_cons, not_or, Ne.symm noCover, Ne.symm goes, not_false_eq_true, true_and]
      grind

/-- What is covered in a text does not depend on what stands behind it, unless a brace does. -/
theorem escaped_append {t : Text} (noBrace : t.head? ≠ some '{') (s : Text) :
    escaped q (s ++ t) = escaped q s ++ escaped q t := by
  induction s with
  | nil => rfl
  | cons c s ih =>
    have same : isCovered q c (s ++ t) = isCovered q c s := by
      cases s with
      | nil =>
        have noBrace' : (t.head? == some '{') = false := by simpa using noBrace
        simp [isCovered, noBrace']
      | cons => rfl
    rw [List.cons_append, escaped, escaped, same, ih]
    split <;> rfl

/-- The characters that come into a text are backslashes and letters. -/
theorem mem_of_mem_escaped {d : Char} {t : Text} (mem : d ∈ escaped q t) : d = '\\' ∨ d = 'n' ∨ d ∈ t := by
  induction t with
  | nil => cases mem
  | cons c t ih =>
    have letter : letterOf c = 'n' ∨ letterOf c = c := by
      unfold letterOf
      split <;> simp
    rw [escaped] at mem
    split at mem <;> grind

end Retouch.Patch
