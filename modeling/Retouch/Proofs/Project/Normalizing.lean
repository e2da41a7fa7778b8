import Mathlib.Data.Nat.Find
import Retouch.Project.Path
import Retouch.Proofs.Markup.Value
import Retouch.Proofs.Text

/-!
# Reported paths brought back to the project

A reported path loses what stands in front of the project. The folder of a workspace is looked for at
every place of the path, not at its start only, and every rule makes the path shorter. So a path stays
just when none of the rules has anything to say about it (`normalize_eq_self_iff`), and a path of the
project does not when one of its own folders is called like that of the workspaces. A second pass changes
nothing just when what the first one left is such a path that stays (`normalizeString_again_iff`).
-/

namespace Retouch.Path

open Retouch.Text Retouch.Markup

/-! ### Places of a path -/

/-- The text starts with `head`, a folder of characters that satisfy `p` and a slash, and `tail` is what
follows up to the end of the line. -/
def LeadsInto (head : Text) (p : Char → Bool) (t tail : Text) : Prop :=
  ∃ folder behind, t = head ++ (folder ++ '/' :: (tail ++ behind)) ∧
    folder ≠ [] ∧ (∀ c ∈ folder, p c = true) ∧
    tail ≠ [] ∧ '\n' ∉ tail ∧ ∀ c, behind.head? = some c → c = '\n'

/-- Of the places where the text leads on by `head` and a folder, the first one leads to `tail`. -/
def IsFirstAfter (head : Text) (p : Char → Bool) (t tail : Text) : Prop :=
  ∃ i, LeadsInto head p (t.drop i) tail ∧ ∀ j < i, ∀ other, ¬LeadsInto head p (t.drop j) other

section Places

variable {p : Char → Bool} {head t tail : Text}

/-- What follows a folder is read from the text. -/
theorem afterFolder?_eq_some_iff (slash : p '/' = false) :
    afterFolder? p t = some tail ↔ LeadsInto [] p t tail := by
  constructor
  · intro found
    obtain ⟨folder, rest, rfl, all, stops⟩ := exists_run p t
    unfold afterFolder? at found
    rw [takeWhile_run all stops] at found
    dsimp only at found
    rw [List.drop_left] at found
    split at found
    · rename_i rest
      obtain ⟨line, behind, rfl, within, ends⟩ := exists_run (· != '\n') rest
      rw [takeWhile_run within ends, Option.ite_none_left_eq_some] at found
      obtain ⟨filled, same⟩ := found
      cases same
      obtain ⟨folder_some, tail_some⟩ : folder ≠ [] ∧ tail ≠ [] := by simpa using filled
      exact ⟨folder, behind, rfl, folder_some, all, tail_some, fun mem => by simpa using within _ mem,
        fun c head => by simpa using ends c head⟩
    · cases found
  · rintro ⟨folder, behind, rfl, folder_some, all, tail_some, within, ends⟩
    have stops : ∀ c, ('/' :: (tail ++ behind)).head? = some c → p c = false := by
      rintro c ⟨⟩
      exact slash
    have line : (tail ++ behind).takeWhile (· != '\n') = tail :=
      takeWhile_run (fun c mem => bne_iff_ne.mpr fun same => within (same ▸ mem))
        fun c head => by simp [ends c head]
    unfold afterFolder?
    rw [List.nil_append, takeWhile_run all stops]
    dsimp only
    rw [List.drop_left]
    simp [line, folder_some, tail_some]

theorem leadsInto_append_iff (u : Text) : LeadsInto head p (head ++ u) tail ↔ LeadsInto [] p u tail := by
  simp only [LeadsInto, List.append_cancel_left_eq, List.nil_append]

/-- What follows a head and a folder is read from the text. -/
theorem bind_afterFolder?_eq_some_iff (slash : p '/' = false) :
    (dropHead? head t).bind (afterFolder? p) = some tail ↔ LeadsInto head p t tail := by
  constructor
  · intro found
    obtain ⟨u, dropped, found⟩ := Option.bind_eq_some_iff.mp found
    rw [dropHead?_eq_some dropped, leadsInto_append_iff]
    exact (afterFolder?_eq_some_iff slash).mp found
  · intro leads
    obtain ⟨u, rfl⟩ : head <+: t := leads.elim fun _ ⟨_, whole, _⟩ => ⟨_, whole.symm⟩
    rw [dropHead?_append, Option.bind_some]
    exact (afterFolder?_eq_some_iff slash).mpr ((leadsInto_append_iff u).mp leads)

/-- Nothing leads on from the end of a text. -/
theorem not_leadsInto_nil : ¬LeadsInto head p [] tail := by
  rintro ⟨folder, behind, whole, _⟩
  simp at whole

/-- What is found is what the first place leads to. -/
theorem firstAfter?_eq_some_iff (slash : p '/' = false) :
    firstAfter? head p t = some tail ↔ IsFirstAfter head p t tail := by
  induction t with
  | nil =>
    have nowhere : ¬IsFirstAfter head p [] tail := by
      rintro ⟨i, leads, -⟩
      rw [List.drop_nil] at leads
      exact not_leadsInto_nil leads
    exact ⟨nofun, fun first => absurd first nowhere⟩
  | cons c rest ih =>
    rw [firstAfter?]
    split
    · rename_i here found
      have leads := (bind_afterFolder?_eq_some_iff slash).mp found
      constructor
      · rintro ⟨⟩
        exact ⟨0, leads, nofun⟩
      · rintro ⟨i, first, none⟩
        cases i with
        | zero => rw [← found, ← (bind_afterFolder?_eq_some_iff slash).mpr first, List.drop_zero]
        | succ i => exact absurd leads (none 0 i.succ_pos here)
    · -- the search goes on, so the first place is counted from the next character
      rename_i missing
      have nothing : ∀ other, ¬LeadsInto head p (c :: rest) other := fun other leads => by
        rw [(bind_afterFolder?_eq_some_iff slash).mpr leads] at missing
        cases missing
      rw [ih]
      constructor
      · rintro ⟨i, first, none⟩
        refine ⟨i + 1, first, fun j before => ?_⟩
        cases j with
        | zero => exact nothing
        | succ j => exact none j (Nat.lt_of_succ_lt_succ before)
      · rintro ⟨i, first, none⟩
        cases i with
        | zero => exact absurd first (nothing tail)
        | succ i => exact ⟨i, first, fun j before => none (j + 1) (Nat.succ_lt_succ before)⟩

/-- Whatever place leads on, there is a first one. -/
theorem exists_isFirstAfter {i : Nat} (leads : LeadsInto head p (t.drop i) tail) :
    ∃ tail, IsFirstAfter head p t tail := by
  classical
  have somewhere : ∃ i tail, LeadsInto head p (t.drop i) tail := ⟨i, tail, leads⟩
  obtain ⟨tail, first⟩ := Nat.find_spec somewhere
  exact ⟨tail, Nat.find somewhere, first, fun j before other leads =>
    Nat.find_min somewhere before ⟨other, leads⟩⟩

/-- Nothing is found where no place leads on. -/
theorem firstAfter?_eq_none_iff (slash : p '/' = false) :
    firstAfter? head p t = none ↔ ∀ i other, ¬LeadsInto head p (t.drop i) other := by
  constructor
  · intro missing i other leads
    obtain ⟨tail, first⟩ := exists_isFirstAfter leads
    rw [(firstAfter?_eq_some_iff slash).mpr first] at missing
    cases missing
  · intro nowhere
    by_contra found
    obtain ⟨tail, found⟩ := Option.ne_none_iff_exists'.mp found
    obtain ⟨i, leads, -⟩ := (firstAfter?_eq_some_iff slash).mp found
    exact nowhere i tail leads

/-- What a place leads to is shorter than the text. -/
theorem LeadsInto.length_lt {i : Nat} (leads : LeadsInto head p (t.drop i) tail) :
    tail.length < t.length := by
  obtain ⟨folder, behind, whole, _⟩ := leads
  have le : (t.drop i).length ≤ t.length := by
    rw [List.length_drop]
    omega
  rw [whole] at le
  simp only [List.length_append, List.length_cons] at le
  omega

end Places

/-! ### Workspaces -/

/-- A place of the text leads into the folder of a workspace. -/
def HoldsWorkspace (t : Text) : Prop :=
  ∃ i tail, LeadsInto "/workspace/".toList (· != '/') (t.drop i) tail

/-- `u` is the path in the workspace that the text leads into: in the first one of an instance if there
is any, and in the first one of all if not. -/
def InWorkspace (t u : Text) : Prop :=
  IsFirstAfter "/workspace/i-".toList isInstanceChar t u ∨
    (∀ i other, ¬LeadsInto "/workspace/i-".toList isInstanceChar (t.drop i) other) ∧
      IsFirstAfter "/workspace/".toList (· != '/') t u

/-- Nothing is to be taken from the text: no workspace anywhere, no folder of the app and no slash in
front of the sources. -/
structure IsSettled (t : Text) : Prop where
  workspace : ¬HoldsWorkspace t
  app : ¬"/app/".toList <+: t
  src : ¬"/src/".toList <+: t

variable {t u : Text}

/-- The workspace of an instance is a workspace. -/
theorem leadsInto_workspace (leads : LeadsInto "/workspace/i-".toList isInstanceChar t u) :
    LeadsInto "/workspace/".toList (· != '/') t u := by
  obtain ⟨folder, behind, rfl, -, all, rest⟩ := leads
  refine ⟨'i' :: '-' :: folder, behind, rfl, nofun, ?_, rest⟩
  have parted : ∀ c ∈ folder, (c != '/') = true := fun c mem => by
    rw [bne_iff_ne]
    rintro rfl
    cases all _ mem
  exact List.forall_mem_cons.mpr ⟨rfl, List.forall_mem_cons.mpr ⟨rfl, parted⟩⟩

/-- A text that leads into a workspace has a path there. -/
theorem HoldsWorkspace.exists_inWorkspace (holds : HoldsWorkspace t) : ∃ u, InWorkspace t u := by
  by_cases instances : ∃ i other, LeadsInto "/workspace/i-".toList isInstanceChar (t.drop i) other
  · obtain ⟨i, other, leads⟩ := instances
    obtain ⟨u, first⟩ := exists_isFirstAfter leads
    exact ⟨u, .inl first⟩
  · obtain ⟨i, tail, leads⟩ := holds
    obtain ⟨u, first⟩ := exists_isFirstAfter leads
    exact ⟨u, .inr ⟨fun i other leads => instances ⟨i, other, leads⟩, first⟩⟩

theorem InWorkspace.holdsWorkspace (inside : InWorkspace t u) : HoldsWorkspace t := by
  obtain ⟨i, leads, -⟩ | ⟨-, i, leads, -⟩ := inside
  · exact ⟨i, u, leadsInto_workspace leads⟩
  · exact ⟨i, u, leads⟩

theorem InWorkspace.length_lt (inside : InWorkspace t u) : u.length < t.length := by
  obtain ⟨i, leads, -⟩ | ⟨-, i, leads, -⟩ := inside
  · exact leads.length_lt
  · exact leads.length_lt

/-- A path that is found in a workspace is what is left. -/
theorem normalize_of_inWorkspace (inside : InWorkspace t u) : normalize t = u := by
  unfold normalize
  obtain first | ⟨nowhere, first⟩ := inside
  · rw [(firstAfter?_eq_some_iff rfl).mpr first]
  · rw [(firstAfter?_eq_none_iff rfl).mpr nowhere, (firstAfter?_eq_some_iff (p := (· != '/')) rfl).mpr first]

/-- Without a workspace it is the start of the path that counts. -/
theorem normalize_of_not_holdsWorkspace (outside : ¬HoldsWorkspace t) :
    normalize t =
      (dropHead? "/app/".toList t).getD (if startsWith t "/src/".toList then t.drop 1 else t) := by
  have nowhere : ∀ i other, ¬LeadsInto "/workspace/".toList (· != '/') (t.drop i) other :=
    fun i other leads => outside ⟨i, other, leads⟩
  have no_instance : ∀ i other, ¬LeadsInto "/workspace/i-".toList isInstanceChar (t.drop i) other :=
    fun i other leads => nowhere i other (leadsInto_workspace leads)
  rw [normalize, (firstAfter?_eq_none_iff rfl).mpr no_instance, (firstAfter?_eq_none_iff rfl).mpr nowhere]
  cases dropHead? "/app/".toList t <;> rfl

/-! ### Paths that stay -/

theorem normalize_app (tail : Text) (outside : ¬HoldsWorkspace ("/app/".toList ++ tail)) :
    normalize ("/app/".toList ++ tail) = tail := by
  rw [normalize_of_not_holdsWorkspace outside, dropHead?_append, Option.getD_some]

theorem normalize_src (tail : Text) (outside : ¬HoldsWorkspace ("/src/".toList ++ tail)) :
    normalize ("/src/".toList ++ tail) = "src/".toList ++ tail := by
  rw [normalize_of_not_holdsWorkspace outside]
  rfl

/-- A path that nothing is to be taken from stays. -/
theorem IsSettled.normalize_eq (settled : IsSettled t) : normalize t = t := by
  have missing : dropHead? "/app/".toList t = none := by
    by_contra found
    obtain ⟨tail, found⟩ := Option.ne_none_iff_exists'.mp found
    exact settled.app ⟨tail, (dropHead?_eq_some found).symm⟩
  have other : startsWith t "/src/".toList = false :=
    Bool.eq_false_iff.mpr fun starts => settled.src (List.isPrefixOf_iff_prefix.mp starts)
  rw [normalize_of_not_holdsWorkspace settled.workspace, missing, other, Option.getD_none,
    if_neg Bool.false_ne_true]

/-- **Paths stay** if none of the rules applies, and only then: each of them makes the path shorter. -/
theorem normalize_eq_self_iff : normalize t = t ↔ IsSettled t := by
  refine ⟨fun same => ?_, IsSettled.normalize_eq⟩
  have outside : ¬HoldsWorkspace t := by
    intro holds
    obtain ⟨u, inside⟩ := holds.exists_inWorkspace
    have less := inside.length_lt
    rw [← normalize_of_inWorkspace inside, same] at less
    exact Nat.lt_irrefl _ less
  refine ⟨outside, ?_, ?_⟩
  · rintro ⟨tail, rfl⟩
    rw [normalize_app tail outside] at same
    have length := congrArg List.length same
    rw [List.length_append] at length
    exact absurd length (by simp)
  · rintro ⟨tail, rfl⟩
    rw [normalize_src tail outside] at same
    have length := congrArg List.length same
    simp at length

/-! ### A second pass -/

/-- What holds a workspace at its end holds it. -/
theorem HoldsWorkspace.append (holds : HoldsWorkspace u) (front : Text) : HoldsWorkspace (front ++ u) := by
  obtain ⟨i, tail, leads⟩ := holds
  refine ⟨front.length + i, tail, ?_⟩
  rwa [List.drop_length_add_append]

/-- One pass leaves nothing for a second one: the path in the workspace is one that stays, and without a
workspace the folder of the app is not followed by a folder that counts at the start of a path. -/
structure SettlesAtOnce (t : Text) : Prop where
  inside : ∀ u, InWorkspace t u → IsSettled u
  outside : ¬HoldsWorkspace t → ¬"/app//app/".toList <+: t ∧ ¬"/app//src/".toList <+: t

theorem isSettled_normalize_iff : IsSettled (normalize t) ↔ SettlesAtOnce t := by
  by_cases holds : HoldsWorkspace t
  · obtain ⟨u, inside⟩ := holds.exists_inWorkspace
    rw [normalize_of_inWorkspace inside]
    constructor
    · intro settled
      refine ⟨fun u' inside' => ?_, fun outside => absurd holds outside⟩
      rwa [← normalize_of_inWorkspace inside', normalize_of_inWorkspace inside]
    · intro once
      exact once.inside u inside
  · have inside : ∀ u, InWorkspace t u → IsSettled u := fun u inside => absurd inside.holdsWorkspace holds
    by_cases app : "/app/".toList <+: t
    · obtain ⟨tail, rfl⟩ := app
      rw [normalize_app tail holds]
      constructor
      · intro settled
        refine ⟨inside, fun _ => ⟨fun again => settled.app ?_, fun source => settled.src ?_⟩⟩
        · exact (List.prefix_append_right_inj "/app/".toList).mp again
        · exact (List.prefix_append_right_inj "/app/".toList).mp source
      · intro once
        obtain ⟨app, src⟩ := once.outside holds
        exact ⟨fun within => holds (within.append _),
          fun again => app ((List.prefix_append_right_inj "/app/".toList).mpr again),
          fun source => src ((List.prefix_append_right_inj "/app/".toList).mpr source)⟩
    · have once : SettlesAtOnce t := by
        refine ⟨inside, fun _ => ⟨fun again => app ?_, fun source => app ?_⟩⟩
        · exact List.IsPrefix.trans ⟨"/app/".toList, rfl⟩ again
        · exact List.IsPrefix.trans ⟨"/src/".toList, rfl⟩ source
      refine iff_of_true ?_ once
      by_cases src : "/src/".toList <+: t
      · obtain ⟨tail, rfl⟩ := src
        rw [normalize_src tail holds]
        refine ⟨fun within => holds ?_, nofun, nofun⟩
        exact within.append ['/']
      · have settled : IsSettled t := ⟨holds, app, src⟩
        rwa [settled.normalize_eq]

/-- **Second passes**: a second pass changes nothing exactly if the first one leaves a path that stays; and
a path that starts with no slash stays exactly if it leads into no workspace, not even with a folder of its
own. -/
theorem normalizeString_again_iff (s : String) :
    (normalizeString (normalizeString s) = normalizeString s ↔ SettlesAtOnce s.toList) ∧
      (s.toList.head? ≠ some '/' → (normalizeString s = s ↔ ¬HoldsWorkspace s.toList)) := by
  have again : ∀ s, normalizeString s = s ↔ IsSettled s.toList := fun s => by
    rw [← normalize_eq_self_iff, ← String.toList_inj, normalizeString, String.toList_ofList]
  constructor
  · rw [again, normalizeString, String.toList_ofList]
    exact isSettled_normalize_iff
  · intro relative
    rw [again]
    refine ⟨IsSettled.workspace, fun outside => ⟨outside, fun app => relative ?_, fun src => relative ?_⟩⟩
    · obtain ⟨tail, whole⟩ := app
      rw [← whole]
      rfl
    · obtain ⟨tail, whole⟩ := src
      rw [← whole]
      rfl

/-- The path of a source file in the project stays. -/
theorem normalizeString_again_app : normalizeString "src/App.tsx" = "src/App.tsx" := by
  refine ((normalizeString_again_iff "src/App.tsx").2 (by decide)).mpr ?_
  rintro ⟨i, tail, leads⟩
  have found := (firstAfter?_eq_none_iff (p := (· != '/')) rfl).mp
    (show firstAfter? "/workspace/".toList (· != '/') "src/App.tsx".toList = none by decide)
  exact found i tail leads

/-- A folder of the project that is called like that of the workspaces is taken from the path of a file
that stands below, and a second pass takes it from what the first one left. -/
theorem normalizeString_again_panel :
    normalizeString "src/workspace/panel/View.tsx" = "View.tsx" ∧
      normalizeString "/workspace/shop/src/workspace/panel/View.tsx" = "src/workspace/panel/View.tsx" ∧
      normalizeString (normalizeString "/workspace/shop/src/workspace/panel/View.tsx") = "View.tsx" := by
  decide

end Retouch.Path
