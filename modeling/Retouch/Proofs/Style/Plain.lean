import Mathlib.Data.List.Basic
import Retouch.Proofs.Outcome
import Retouch.Proofs.Style.Quoting
import Retouch.Proofs.Table
import Retouch.Style.Utility

/-!
# Utility classes are plain

No class that a change of style puts into a class list holds a quote, a backslash or a brace
(`utilityFor_plain`): named steps are plain words, and values in square brackets are refused if they
hold one of these. So a class list stands in its quotes as before, whatever changes are folded into it
(`applyToClasses_inside`).
-/

namespace Retouch.Style

open Retouch.Text Retouch.Markup

/-! ### Characters of a text that is tidied up -/

section Characters

variable {P : Char → Prop} {t : Text}

theorem strip_all (all : ∀ c ∈ t, P c) : ∀ c ∈ strip t, P c := by
  intro c mem
  have mem := List.mem_reverse.mp mem
  have mem := List.mem_reverse.mp ((List.dropWhile_sublist _).subset mem)
  exact all c ((List.dropWhile_sublist _).subset mem)

theorem stripStart_all (all : ∀ c ∈ t, P c) : ∀ c ∈ stripStart t, P c :=
  fun c mem => all c ((List.dropWhile_sublist _).subset mem)

theorem stripEnd_all (all : ∀ c ∈ t, P c) : ∀ c ∈ stripEnd t, P c :=
  fun c mem => all c (List.mem_reverse.mp ((List.dropWhile_sublist _).subset (List.mem_reverse.mp mem)))

theorem squeezeFrom_all {filler : Char} (fill : P filler) (all : ∀ c ∈ t, P c) (afterBlank : Bool) :
    ∀ c ∈ squeezeFrom filler afterBlank t, P c := by
  induction t generalizing afterBlank with
  | nil => nofun
  | cons c t ih =>
    have rest : ∀ d ∈ t, P d := fun d mem => all d (List.mem_cons_of_mem _ mem)
    unfold squeezeFrom
    split
    · split
      · exact ih rest true
      · exact List.forall_mem_cons.mpr ⟨fill, ih rest true⟩
    · exact List.forall_mem_cons.mpr ⟨all c (List.mem_cons_self ..), ih rest false⟩

theorem splitFrom_all {sep : Char} {piece : Text} (read : ∀ c ∈ piece, P c) (all : ∀ c ∈ t, P c) :
    ∀ u ∈ splitFrom sep piece t, ∀ c ∈ u, P c := by
  have reversed : ∀ c ∈ piece.reverse, P c := fun c mem => read c (List.mem_reverse.mp mem)
  induction t generalizing piece with
  | nil => exact fun u mem => List.mem_singleton.mp mem ▸ reversed
  | cons c t ih =>
    obtain ⟨here, rest⟩ := List.forall_mem_cons.mp all
    unfold splitFrom
    split
    · exact List.forall_mem_cons.mpr ⟨reversed, ih nofun rest nofun⟩
    · have read' : ∀ d ∈ c :: piece, P d := List.forall_mem_cons.mpr ⟨here, read⟩
      exact ih read' rest fun d mem => read' d (List.mem_reverse.mp mem)

theorem join_all {sep : Text} {pieces : List Text} (between : ∀ c ∈ sep, P c)
    (all : ∀ u ∈ pieces, ∀ c ∈ u, P c) : ∀ c ∈ join sep pieces, P c := by
  fun_induction join sep pieces with
  | case1 => nofun
  | case2 piece => exact all piece (List.mem_singleton.mpr rfl)
  | case3 piece rest _ ih =>
    obtain ⟨here, later⟩ := List.forall_mem_cons.mp all
    intro c mem
    obtain mem | mem := List.mem_append.mp mem
    · exact (List.mem_append.mp mem).elim (here c) (between c)
    · exact ih later c mem

theorem tightenRest_all {pieces : List Text} (all : ∀ u ∈ pieces, ∀ c ∈ u, P c) :
    ∀ u ∈ tightenCommas.tightenRest pieces, ∀ c ∈ u, P c := by
  fun_induction tightenCommas.tightenRest pieces with
  | case1 => nofun
  | case2 last =>
    rintro u mem
    exact List.mem_singleton.mp mem ▸ stripStart_all (all last (List.mem_singleton.mpr rfl))
  | case3 piece rest _ ih =>
    obtain ⟨here, later⟩ := List.forall_mem_cons.mp all
    exact List.forall_mem_cons.mpr ⟨strip_all here, ih later⟩

/-- A text whose commas are tightened has no other characters. -/
theorem tightenCommas_all (comma : P ',') (all : ∀ c ∈ t, P c) : ∀ c ∈ tightenCommas t, P c := by
  refine join_all (fun c mem => List.mem_singleton.mp mem ▸ comma) ?_
  have pieces : ∀ u ∈ splitOn ',' t, ∀ c ∈ u, P c := splitFrom_all nofun all
  unfold tightenCommas.tighten
  split
  · nofun
  · rename_i only single
    exact fun u mem => List.mem_singleton.mp mem ▸ pieces only (single ▸ List.mem_singleton.mpr rfl)
  · rename_i first rest _ split
    rw [split] at pieces
    obtain ⟨here, later⟩ := List.forall_mem_cons.mp pieces
    exact List.forall_mem_cons.mpr ⟨stripEnd_all here, tightenRest_all later⟩

end Characters

/-! ### Utility classes -/

/-- A character is plain if it is of a class that holds no opener and no backslash. -/
theorem isPlain_of_class {p : Char → Bool} {c : Char} (is : p c = true)
    (none : ['"', '\'', backQuote, '{'].any p = false) (covers : p '\\' = false) :
    isPlain c = true := by
  rw [isPlain, isOpener_of_class is none, beq_false_of_ne (ne_of_class is covers)]
  rfl

/-- A text of plain characters. -/
def PlainText (t : Text) : Prop := ∀ c ∈ t, isPlain c = true

instance (t : Text) : Decidable (PlainText t) :=
  decidable_of_iff (t.all isPlain = true) List.all_eq_true

theorem PlainText.nil : PlainText [] := fun _ mem => by cases mem

theorem PlainText.ite {b : Bool} {t : Text} (ht : PlainText t) : PlainText (if b then t else []) := by
  cases b with
  | false => exact .nil
  | true => exact ht

theorem PlainText.append {t u : Text} (ht : PlainText t) (hu : PlainText u) : PlainText (t ++ u) :=
  fun c mem => (List.mem_append.mp mem).elim (ht c) (hu c)

theorem PlainText.cons {c : Char} {t : Text} (hc : isPlain c = true) (ht : PlainText t) :
    PlainText (c :: t) := List.forall_mem_cons.mpr ⟨hc, ht⟩

/-- A value in square brackets is plain, or refused. -/
theorem arbitrary_plain {stem value hint token : Text} {property : String} (stems : PlainText stem)
    (hints : PlainText hint) (done : arbitrary stem value property hint = .ok token) :
    PlainText token := by
  unfold arbitrary at done
  dsimp only at done
  split at done
  · cases done
  split at done
  · cases done
  rename_i safe
  have raw : PlainText (strip value) := fun c mem =>
    isPlain_of_class (p := fun c => !unsafeChars.contains c)
      ((Bool.not_eq_true' _).mpr (Bool.eq_false_iff.mpr fun bad => safe (List.any_eq_true.mpr ⟨c, mem, bad⟩)))
      (by decide) (by decide)
  have body : PlainText (squeezeBlanks '_' (tightenCommas (strip value))) :=
    squeezeFrom_all (by decide) (tightenCommas_all (by decide) raw) false
  have bracketed : PlainText ('[' :: hint ++ squeezeBlanks '_' (tightenCommas (strip value)) ++ [']']) :=
    ((PlainText.cons (by decide) hints).append body).append (by decide)
  cases done
  split
  · exact bracketed
  · exact stems.append (PlainText.cons (by decide) bracketed)

/-- A named step is plain. -/
theorem named_plain {stem step : String} (stems : PlainText stem.toList) (steps : PlainText step.toList) :
    PlainText (named stem step) := stems.append (PlainText.cons (by decide) steps)

/-- What a table of plain texts has for a value is plain. -/
theorem lookup_plain {table : List (String × String)} {key value : String}
    (plain : ∀ e ∈ table, PlainText e.2.toList) (found : table.lookup key = some value) :
    PlainText value.toList := plain _ (Table.mem_of_get? found)

/-- The names of the palette are plain: a family and a shade. -/
theorem namedColors_plain : ∀ e ∈ namedColors, PlainText e.2.toList := by
  have families : ∀ row ∈ palette, PlainText row.1.toList := by decide
  have shades : ∀ shade ∈ shades, PlainText shade.toList := by decide
  intro e mem
  obtain ⟨row, listed, mem⟩ := List.mem_flatMap.mp mem
  obtain ⟨shade, one, named⟩ := List.mem_map.mp (List.of_mem_zip mem).2
  rw [← named, String.toList_append, String.toList_append]
  exact ((families row listed).append (by decide)).append (shades shade one)

theorem colorToken_plain {stem property : String} {value token : Text} (stems : PlainText stem.toList)
    (done : colorToken stem value property = .ok token) : PlainText token := by
  unfold colorToken at done
  dsimp only at done
  split at done
  · rename_i word found
    cases done
    exact named_plain stems (lookup_plain (by decide) found)
  split at done
  · rename_i name found
    cases done
    exact named_plain stems (lookup_plain namedColors_plain found)
  · exact arbitrary_plain stems (.ite (by decide)) done

theorem lengthToken_plain {stem property : String} {value token : Text} (stems : PlainText stem.toList)
    (done : lengthToken stem value property = .ok token) : PlainText token := by
  unfold lengthToken at done
  refine arbitrary_plain stems ?_ done
  split
  · exact .nil
  · decide

theorem wordToken_plain {table : List (String × String)} {property : String} {value token : Text}
    (plain : ∀ e ∈ table, PlainText e.2.toList) (done : wordToken table value property = .ok token) :
    PlainText token := by
  unfold wordToken at done
  split at done
  · rename_i word found
    cases done
    exact lookup_plain plain found
  · cases done

theorem steppedToken_plain {table : List (String × String)} {stem property : String}
    {value token : Text} (plain : ∀ e ∈ table, PlainText e.2.toList) (stems : PlainText stem.toList)
    (done : steppedToken table stem value property = .ok token) : PlainText token := by
  unfold steppedToken at done
  split at done
  · rename_i step found
    cases done
    exact named_plain stems (lookup_plain plain found)
  · exact arbitrary_plain stems .nil done

/-- A whole number is written in plain characters. -/
theorem toString_plain (n : Int) : PlainText (toString n).toList := by
  have digits : ∀ m : Nat, PlainText (Nat.repr m).toList := by
    intro m c mem
    rw [Nat.repr, String.toList_ofList] at mem
    exact isPlain_of_class (Nat.isDigit_of_mem_toDigits (by decide) (by decide) mem) (by decide)
      (by decide)
  cases n with
  | ofNat m => exact digits m
  | negSucc m =>
    show PlainText ("-" ++ Nat.repr (m + 1)).toList
    rw [String.toList_append]
    exact PlainText.append (by decide) (digits (m + 1))

theorem opacityToken_plain {property : String} {value token : Text}
    (done : opacityToken value property = .ok token) : PlainText token := by
  unfold opacityToken at done
  dsimp only at done
  split at done
  · cases done
  split at done
  · cases done
  split at done
  · split at done
    · cases done
      exact named_plain (by decide) (toString_plain _)
    · exact arbitrary_plain (by decide) .nil done
  · exact arbitrary_plain (by decide) .nil done

theorem imageToken_plain {property : String} {value token : Text}
    (done : imageToken value property = .ok token) : PlainText token := by
  unfold imageToken at done
  dsimp only at done
  split at done
  · cases done
    decide
  split at done
  · exact arbitrary_plain (by decide) .nil done
  · split at done
    · exact arbitrary_plain (by decide) .nil done
    · cases done

/-- The utility class for a value is plain. -/
theorem tokenFor_plain {rule : Rule} {value token : Text} {property : String}
    (stems : PlainText rule.stem.toList) (done : tokenFor rule value property = .ok token) :
    PlainText token := by
  unfold tokenFor at done
  split at done
  · exact colorToken_plain stems done
  · split at done
    · rename_i size found
      cases done
      exact named_plain (by decide) (lookup_plain (by decide) found)
    · exact lengthToken_plain (by decide) done
  · split at done
    · rename_i weight found
      cases done
      exact named_plain (by decide) (lookup_plain (by decide) found)
    · dsimp only at done
      split at done
      · rename_i digits
        cases done
        refine (PlainText.append (by decide) fun c mem => ?_).append (by decide)
        have digit := List.all_eq_true.mp (Bool.and_eq_true_iff.mp digits).2 c mem
        exact isPlain_of_class digit (by decide) (by decide)
      · cases done
  · exact wordToken_plain (by decide) done
  · split at done
    · cases done
      exact named_plain stems (by decide)
    · exact steppedToken_plain (by decide) stems done
  · split at done
    · rename_i width found
      cases done
      rw [String.toList_append]
      exact stems.append (lookup_plain (by decide) found)
    · exact lengthToken_plain stems done
  · split at done
    · rename_i radius found
      cases done
      rw [String.toList_append]
      exact stems.append (lookup_plain (by decide) found)
    · exact arbitrary_plain stems .nil done
  · exact wordToken_plain (by decide) done
  · exact wordToken_plain (by decide) done
  · exact wordToken_plain (by decide) done
  · exact wordToken_plain (by decide) done
  · exact steppedToken_plain (by decide) (by decide) done
  · exact steppedToken_plain (by decide) (by decide) done
  · exact opacityToken_plain done
  · exact steppedToken_plain (by decide) stems done
  · exact imageToken_plain done

/-- The stem of every rule is plain. -/
theorem stem_plain {property : String} {rule : Rule} (known : ruleFor? property = some rule) :
    PlainText rule.stem.toList := by
  have all : ∀ e ∈ propertyRules, PlainText e.2.stem.toList := by decide
  exact all _ (Table.mem_of_get? known)

/-- **Utility classes are plain.** -/
theorem utilityFor_plain {property value : String} {utility : Utility}
    (done : utilityFor property value = .ok utility) : PlainText utility.token := by
  unfold utilityFor at done
  split at done
  · cases done
  · rename_i rule known
    obtain ⟨token, written, rfl⟩ := map_eq_ok.mp done
    exact tokenFor_plain (stem_plain known) written

/-- **Changes leave class lists in their quotes**: a change that is folded into a class list without
backslashes leaves one that stands inside of the same quotes. -/
theorem applyToClasses_inside {q : Char} (quote : isQuote q = true) {t t' token : Text}
    {change : StyleChange} (inside : IsInside (.quoted q) t) (noCover : '\\' ∉ t)
    (done : applyToClasses t change = .ok (t', token)) : IsInside (.quoted q) t' ∧ '\\' ∉ t' := by
  unfold applyToClasses at done
  split at done
  · split at done
    · cases done
    · cases done
      exact replaceTokens_inside quote inside noCover PlainText.nil _
  · obtain ⟨utility, found, eq⟩ := map_eq_ok.mp done
    cases eq
    exact replaceTokens_inside quote inside noCover (utilityFor_plain found) _

end Retouch.Style
