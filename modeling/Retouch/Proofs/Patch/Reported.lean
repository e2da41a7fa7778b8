import Mathlib.Data.List.Forall2
import Retouch.Proofs.Patch.Restyled

/-!
# What is reported of a batch

Every change of a batch is reported once, as applied or as failed: first those to the class list, then those to
the inline style (`StylePatch.Reports`). A change that failed has left no trace. The batch without it does the
same to the source, reports the same changes as applied, and none as failed (`applyStyleChanges_again`).

The changes to the class list fail one by one, and whether one of them does depends on no other one. Those to the
inline style fail as a whole, and what becomes of them is settled in the source that the first ones have left. So
it is enough that the first ones leave the same source when those that failed are missing.
-/

namespace Retouch.Patch

open Retouch.Text Retouch.Markup Retouch.Locate Retouch.Style

variable {source : Text} {tag : Tag} {strategy : Strategy} {html : Bool} {place : Location}
  {changes : List StyleChange} {words : List String}

/-! ### Reports -/

/-- The changes of a batch in the order in which they are reported: the class list comes first. -/
def inOrder (changes : List StyleChange) : List StyleChange :=
  changes.filter (fun c => !c.usesInline) ++ changes.filter (·.usesInline)

/-- What is reported of a change that is written: its property, and the class or the value that stands now. -/
def Tells (change : StyleChange) (words : String) : Prop :=
  if change.usesInline then words = inlineWords change
  else ∃ token, words = change.property ++ ": " ++ valueWords token

/-- Every change is reported once: as applied if it is written, and otherwise as failed. -/
structure StylePatch.Reports (patch : StylePatch) (changes : List StyleChange) (written : StyleChange → Bool) :
    Prop where
  /-- The changes that are written, in words. -/
  applied : List.Forall₂ Tells ((inOrder changes).filter written) patch.applied
  /-- The properties of the other ones. -/
  failed : patch.failed.map (·.1) = ((inOrder changes).filter (!written ·)).map (·.property)

/-- A stage reports every one of its changes once. Without those that failed, its outcome is `rerun`: the same
source with the same changes applied, and none of them fails. -/
structure Outcome.Stands (outcome rerun : Outcome) (changes : List StyleChange) (written : StyleChange → Bool) :
    Prop where
  /-- The changes that are written, in words. -/
  applied : List.Forall₂ Tells (changes.filter written) outcome.applied
  /-- The properties of the other ones. -/
  failed : outcome.failed.map (·.1) = (changes.filter (!written ·)).map (·.property)
  /-- The same source, the same changes applied, and none fails. -/
  rerun : rerun = ⟨outcome.source, outcome.applied, []⟩

/-- Where no change of a stage is written, it leaves nothing behind. -/
theorem failAll_stands (source : Text) (changes : List StyleChange) (reason : String) :
    (failAll source changes reason).Stands ⟨source, [], []⟩ changes (fun _ => false) := by
  refine ⟨?_, ?_, rfl⟩
  · rw [List.filter_false]
    exact .nil
  · rw [Bool.not_false, List.filter_true, failAll, List.map_map]
    rfl

/-! ### The class list -/

/-- What is reported of changes that are all written into a class list. -/
theorem tells_writeAll {classes classes' : Text} (listed : ∀ change ∈ changes, change.usesInline = false)
    (written : writeAll classes changes = .ok (classes', words)) : List.Forall₂ Tells changes words := by
  induction changes generalizing classes words with
  | nil =>
    cases written
    exact .nil
  | cons change changes ih =>
    obtain ⟨here, later⟩ := List.forall_mem_cons.mp listed
    obtain ⟨⟨u, token⟩, -, written⟩ := bind_eq_ok.mp written
    obtain ⟨⟨v, words⟩, rest, eq⟩ := bind_eq_ok.mp written
    cases eq
    refine .cons ?_ (ih later rest)
    rw [Tells, here]
    exact ⟨_, rfl⟩

/-- Changes that have no class may be left out of a fold, and no change is left that fails. -/
theorem foldl_add_converts (classes : Text) (changes : List StyleChange) :
    let fold := changes.foldl ClassFold.add ⟨classes, [], []⟩
    (changes.filter converts).foldl ClassFold.add ⟨classes, [], []⟩ = ⟨fold.classes, fold.applied, []⟩ := by
  obtain ⟨classes', words, written, folded, applied, -⟩ := foldl_add ⟨classes, [], []⟩ changes
  obtain ⟨classes'', words', written', folded', applied', failed'⟩ :=
    foldl_add ⟨classes, [], []⟩ (changes.filter converts)
  have all : (changes.filter converts).filter converts = changes.filter converts := by simp
  have none : (changes.filter converts).filter (!converts ·) = [] := by simp
  rw [all] at written'
  rw [none] at failed'
  cases written.symm.trans written'
  dsimp only
  rw [folded, applied]
  generalize (changes.filter converts).foldl ClassFold.add ⟨classes, [], []⟩ = fold at folded' applied' failed' ⊢
  rw [← folded', ← applied', ← List.map_eq_nil_iff.mp failed']

/-- **At a place for classes**, those changes are written that have a class, and the other ones leave no trace. -/
theorem applyClassChanges_stands (source : Text) (place : Location)
    (listed : ∀ change ∈ changes, change.usesInline = false) :
    (applyClassChanges source place changes).Stands
      (applyClassChanges source place (changes.filter converts)) changes converts := by
  obtain ⟨classes, words, written, -, applied, failed⟩ := foldl_add ⟨place.current, [], []⟩ changes
  refine ⟨?_, failed, ?_⟩
  · show List.Forall₂ _ _ (changes.foldl ClassFold.add ⟨place.current, [], []⟩).applied
    rw [applied]
    exact tells_writeAll (fun change mem => listed change (List.mem_of_mem_filter mem)) written
  · unfold applyClassChanges
    rw [foldl_add_converts]

/-- Without changes that have a class, nothing happens at a place for classes. -/
theorem applyClassChanges_nil (source : Text) (place : Location) :
    applyClassChanges source place [] = ⟨source, [], []⟩ := by
  unfold applyClassChanges
  simp

/-- The changes to the class list of a tag that failed have left no trace. -/
theorem classStage_stands (source : Text) (tag : Tag) (strategy : Strategy) (html : Bool)
    (listed : ∀ change ∈ changes, change.usesInline = false) :
    (classStage source tag strategy changes html).1.Stands
      (classStage source tag strategy (changes.filter (writes source tag)) html).1 changes
      (writes source tag) := by
  cases located : locationIn source tag strategy .classes html "" with
  | ok place =>
    have stage : ∀ some, (classStage source tag strategy some html).1 = applyClassChanges source place some := by
      intro some
      unfold classStage
      split
      · rename_i empty
        rw [List.isEmpty_iff.mp empty, applyClassChanges_nil]
      · rw [located]
    rw [stage, stage, writes_of_located located]
    exact applyClassChanges_stands source place listed
  | error e =>
    have stage : (classStage source tag strategy changes html).1 = failAll source changes e.message := by
      unfold classStage
      split
      · rename_i empty
        rw [List.isEmpty_iff.mp empty]
        rfl
      · rw [located]
    rw [stage, writes_of_unlocated located, List.filter_false]
    exact failAll_stands source changes e.message

/-! ### The inline style -/

/-- Changes to the inline style are written all or none, and where none is, they leave no trace. -/
theorem inlineStage_stands {start : Nat} {selector : String} {outcome : Outcome}
    (inline : ∀ change ∈ changes, change.usesInline = true)
    (done : inlineStage source start strategy changes html selector = .ok outcome) :
    ∃ all rerun, inlineStage source start strategy (changes.filter fun _ => all) html selector = .ok rerun ∧
      outcome.Stands rerun changes (fun _ => all) := by
  have stopped : inlineStage source start strategy (changes.filter fun _ => false) html selector =
      .ok ⟨source, [], []⟩ := by
    rw [List.filter_false]
    rfl
  have whole : changes.filter (fun _ => true) = changes := List.filter_true changes
  have standing : outcome.failed = [] → List.Forall₂ Tells changes outcome.applied →
      outcome.Stands outcome changes (fun _ => true) := by
    intro failed applied
    refine ⟨by rwa [whole], ?_, ?_⟩
    · rw [failed, Bool.not_true, List.filter_false]
      rfl
    · rw [← failed]
  have again := done
  unfold inlineStage at done
  split at done
  · rename_i empty
    cases done
    exact ⟨true, _, by rwa [whole], standing rfl (List.isEmpty_iff.mp empty ▸ .nil)⟩
  · split at done
    · cases done
    · split at done
      · rename_i place located
        unfold applyInlineChanges at done
        split at done
        · cases done
          refine ⟨true, _, by rwa [whole], standing rfl ?_⟩
          refine List.forall₂_map_right_iff.mpr (List.forall₂_same.mpr fun change mem => ?_)
          rw [Tells, inline change mem, if_pos rfl]
          rfl
        · cases done
          exact ⟨false, _, stopped, failAll_stands _ _ _⟩
      · cases done
        exact ⟨false, _, stopped, failAll_stands _ _ _⟩

/-! ### The batch -/

/-- Which changes are written when those to the class list are written as `listed` says, and those to the inline
style all or none. -/
def writtenBy (listed : StyleChange → Bool) (inline : Bool) (change : StyleChange) : Bool :=
  if change.usesInline then inline else listed change

/-- Of the changes to the class list, those are written that the stage writes; -/
theorem filter_writtenBy_listed (listed : StyleChange → Bool) (all : Bool) (changes : List StyleChange) :
    (changes.filter fun c => !c.usesInline).filter (writtenBy listed all) =
        (changes.filter fun c => !c.usesInline).filter listed ∧
      (changes.filter fun c => !c.usesInline).filter (!writtenBy listed all ·) =
        (changes.filter fun c => !c.usesInline).filter (!listed ·) := by
  have same : ∀ change ∈ changes.filter (fun c => !c.usesInline), writtenBy listed all change = listed change := by
    intro change mem
    rw [writtenBy, if_neg (by simpa using (List.mem_filter.mp mem).2)]
  exact ⟨List.filter_congr same, List.filter_congr fun change mem => by rw [same change mem]⟩

/-- and of those to the inline style all or none. -/
theorem filter_writtenBy_inline (listed : StyleChange → Bool) (all : Bool) (changes : List StyleChange) :
    (changes.filter (·.usesInline)).filter (writtenBy listed all) =
        (changes.filter (·.usesInline)).filter (fun _ => all) ∧
      (changes.filter (·.usesInline)).filter (!writtenBy listed all ·) =
        (changes.filter (·.usesInline)).filter (fun _ => !all) := by
  have same : ∀ change ∈ changes.filter (·.usesInline), writtenBy listed all change = all := by
    intro change mem
    rw [writtenBy, if_pos (List.mem_filter.mp mem).2]
  exact ⟨List.filter_congr same, List.filter_congr fun change mem => by rw [same change mem]⟩

/-- The stages of a batch, and what comes of them. -/
theorem applyStyleChanges_eq_ok_iff {hints : Hints} {limits : SearchLimits} {patch : StylePatch} :
    applyStyleChanges source changes hints limits html = .ok patch ↔
      ∃ tag strategy second, findTag source hints limits = .ok (tag, strategy) ∧
        inlineStage (classStage source tag strategy (changes.filter fun c => !c.usesInline) html).1.source
          tag.start strategy (changes.filter (·.usesInline)) html hints.selector = .ok second ∧
        patch = {
          modified := second.source
          applied := (classStage source tag strategy (changes.filter fun c => !c.usesInline) html).1.applied ++
            second.applied
          failed := (classStage source tag strategy (changes.filter fun c => !c.usesInline) html).1.failed ++
            second.failed
          location? := (classStage source tag strategy (changes.filter fun c => !c.usesInline) html).2
          tagBefore := tag.text source
          tagAfter := match readTag? second.source tag.start with
            | some tag => tag.text second.source
            | none => tag.text source
          strategy } := by
  unfold applyStyleChanges
  constructor
  · intro done
    obtain ⟨⟨tag, strategy⟩, found, done⟩ := bind_eq_ok.mp done
    obtain ⟨second, inline, done⟩ := bind_eq_ok.mp done
    exact ⟨tag, strategy, second, found, inline, (Except.ok.inj done).symm⟩
  · rintro ⟨tag, strategy, second, found, inline, rfl⟩
    exact bind_eq_ok.mpr ⟨_, found, bind_eq_ok.mpr ⟨_, inline, rfl⟩⟩

/-- **Changes that failed leave no trace.** Every change of a batch is reported once, and with only those that are
written, the batch does the same to the source, reports the same, and nothing fails. -/
theorem applyStyleChanges_again {hints : Hints} {limits : SearchLimits} {patch : StylePatch}
    (done : applyStyleChanges source changes hints limits html = .ok patch) :
    ∃ written, patch.Reports changes written ∧
      ∃ rerun, applyStyleChanges source (changes.filter written) hints limits html = .ok rerun ∧
        rerun.modified = patch.modified ∧ rerun.applied = patch.applied ∧ rerun.failed = [] := by
  obtain ⟨tag, strategy, second, found, inline, rfl⟩ := applyStyleChanges_eq_ok_iff.mp done
  have listed : ∀ change ∈ changes.filter fun c => !c.usesInline, change.usesInline = false := fun change mem => by
    simpa using (List.mem_filter.mp mem).2
  have first := classStage_stands source tag strategy html listed
  obtain ⟨all, rerun, again, last⟩ := inlineStage_stands
    (fun change mem => (List.mem_filter.mp mem).2) inline
  obtain ⟨listed, unlisted⟩ := filter_writtenBy_listed (writes source tag) all changes
  obtain ⟨inlined, unwritten⟩ := filter_writtenBy_inline (writes source tag) all changes
  refine ⟨writtenBy (writes source tag) all, ⟨?_, ?_⟩, ?_⟩
  · rw [inOrder, List.filter_append, listed, inlined]
    exact List.rel_append first.applied last.applied
  · rw [inOrder, List.filter_append, unlisted, unwritten, List.map_append, List.map_append, first.failed, last.failed]
  · -- the stage of the class list leaves the same source, so that of the inline style finds what it found
    have again' := first.rerun
    rw [← listed, List.filter_comm] at again'
    refine ⟨_, applyStyleChanges_eq_ok_iff.mpr ⟨tag, strategy, rerun, found, ?_, rfl⟩, ?_⟩
    · rw [again', List.filter_comm, inlined]
      exact again
    · rw [again', last.rerun]
      exact ⟨rfl, rfl, rfl⟩

/-- A paragraph with a class list and a style. -/
def plainLine : Text := "<p class=\"text-lg promo\" style=\"color: red\">Hi</p>".toList

/-- Two changes to the class list, of which one has no class, and two to the style, of which one is refused. -/
def mixedChanges : List StyleChange := [⟨"color", "red", "blue", true⟩, ⟨"zoom", "", "2", false⟩,
  ⟨"fontFamily", "", "\"Arial\"", true⟩, ⟨"fontSize", "18px", "20px", false⟩]

/-- Of these changes only one is written, and all the other ones are reported as failed. -/
theorem mixedChanges_again :
    ∃ patch, applyStyleChanges plainLine mixedChanges { line? := some 1 } {} true = .ok patch ∧
      patch.modified = "<p class=\"text-xl promo\" style=\"color: red\">Hi</p>".toList ∧
      patch.applied = ["fontSize: text-xl"] ∧ patch.failed.map (·.1) = ["zoom", "color", "fontFamily"] ∧
      ∃ written, patch.Reports mixedChanges written ∧
        ∃ rerun, applyStyleChanges plainLine (mixedChanges.filter written) { line? := some 1 } {} true = .ok rerun ∧
          rerun.modified = patch.modified ∧ rerun.applied = patch.applied ∧ rerun.failed = [] := by
  have result : (applyStyleChanges plainLine mixedChanges { line? := some 1 } {} true).map
      (fun patch => (patch.modified, patch.applied, patch.failed.map (·.1))) =
        .ok ("<p class=\"text-xl promo\" style=\"color: red\">Hi</p>".toList, ["fontSize: text-xl"],
          ["zoom", "color", "fontFamily"]) := by decide +kernel
  obtain ⟨patch, done, eq⟩ := map_eq_ok.mp result
  obtain ⟨modified, rest⟩ := Prod.mk.inj eq
  obtain ⟨applied, failed⟩ := Prod.mk.inj rest
  exact ⟨patch, done, modified, applied, failed, applyStyleChanges_again done⟩

end Retouch.Patch
