import Retouch.Patch.Styles
import Retouch.Proofs.Style.Fitting
import Retouch.Proofs.Style.Removal

/-!
# Batches taken back

A change whose class is the only one of its rule in a class text puts another class in its place. Classes of
different rules do not get into each other's way (`isHit_exchange`), so a batch of such changes exchanges
classes one by one (`foldl_add_exchange`), each where it stands, and all blanks stay. The batch of the
changes that take them back exchanges them again, in whatever order (`foldl_add_inverted`).
-/

namespace Retouch.Style

open Retouch.Text

/-! ### Blank values have no class -/

section Blank

variable {value : Text}

theorem normalize_of_isBlankText (blank : isBlankText value = true) : normalize value = [] := by
  rw [normalize, strip_of_isBlankText blank]
  rfl

theorem step?_of_isBlankText {table : List (String × String)} (blank : isBlankText value = true)
    (unnamed : table.lookup "" = none) : step? table value = none := by
  rw [step?, normalize_of_isBlankText blank]
  exact unnamed

theorem arbitrary_of_isBlankText (blank : isBlankText value = true) (stem hint token : Text) (property : String) :
    arbitrary stem value property hint ≠ .ok token := by
  rw [arbitrary, strip_of_isBlankText blank]
  exact nofun

theorem lengthToken_of_isBlankText (blank : isBlankText value = true) (stem property : String) (token : Text) :
    lengthToken stem value property ≠ .ok token := by
  rw [lengthToken, strip_of_isBlankText blank]
  exact nofun

theorem wordToken_of_isBlankText {table : List (String × String)} (blank : isBlankText value = true)
    (unnamed : table.lookup "" = none) (property : String) (token : Text) :
    wordToken table value property ≠ .ok token := by
  rw [wordToken, step?_of_isBlankText blank unnamed]
  exact nofun

theorem steppedToken_of_isBlankText {table : List (String × String)} (blank : isBlankText value = true)
    (unnamed : table.lookup "" = none) (stem property : String) (token : Text) :
    steppedToken table stem value property ≠ .ok token := by
  rw [steppedToken, step?_of_isBlankText blank unnamed]
  exact arbitrary_of_isBlankText blank _ _ token property

/-- A blank value has no class. -/
theorem tokenFor_of_isBlankText (blank : isBlankText value = true) (rule : Rule) (property : String)
    (token : Text) : tokenFor rule value property ≠ .ok token := by
  have normal := normalize_of_isBlankText blank
  unfold tokenFor
  cases rule.shape with dsimp only
  | color =>
    have color : normalizeColor value = [] := by
      rw [normalizeColor, normal]
      rfl
    rw [colorToken, color, strip_of_isBlankText blank]
    exact nofun
  | fontSize =>
    rw [step?_of_isBlankText blank rfl]
    exact lengthToken_of_isBlankText blank _ property token
  | fontWeight =>
    rw [step?_of_isBlankText blank rfl, normal]
    exact nofun
  | spacing =>
    rw [normal, if_neg (by simp)]
    exact steppedToken_of_isBlankText blank rfl _ property token
  | borderWidth =>
    rw [step?_of_isBlankText blank rfl]
    exact lengthToken_of_isBlankText blank _ property token
  | radius =>
    rw [step?_of_isBlankText blank rfl]
    exact arbitrary_of_isBlankText blank _ _ token property
  | textAlign | borderStyle | display | textTransform | textDecoration =>
    exact wordToken_of_isBlankText blank rfl property token
  | lineHeight | letterSpacing | size => exact steppedToken_of_isBlankText blank rfl _ property token
  | opacity =>
    rw [opacityToken, normal]
    exact nofun
  | backgroundImage =>
    rw [imageToken, strip_of_isBlankText blank]
    exact nofun

end Blank

/-! ### Classes that are written -/

section

variable {rule : Rule} {value token : Text} {property : String}

/-- The class for a colour is one token that may be edited, also where the value is an image. -/
theorem sound_colorToken (listed : rule ∈ rules) (stems : rule.stem ≠ "")
    (done : colorToken rule.stem value property = .ok token) : Sound token := by
  unfold colorToken at done
  dsimp only at done
  split at done
  · rename_i word found
    cases done
    obtain ⟨name, -, -⟩ := TablesFit.colorKeyword tables_fit _ (Table.mem_of_get? found)
    exact sound_named (TablesFit.stem tables_fit rule listed) name
  split at done
  · rename_i word found
    cases done
    obtain ⟨name, -, -⟩ := palette_name (List.mem_map_of_mem (f := (·.2)) (Table.mem_of_get? found))
    exact sound_named (TablesFit.stem tables_fit rule listed) name
  -- the value in brackets
  generalize (if startsWith (normalizeColor value) ['#'] then normalizeColor value else strip value) =
    literal at done
  obtain ⟨rfl, inner⟩ := arbitrary_eq_ok (by simpa using stems) (by split <;> decide) done
  exact sound_arbitrary listed inner

/-- Every class that is written is one token that may be edited. -/
theorem sound_tokenFor (listed : rule ∈ rules) (done : tokenFor rule value property = .ok token) :
    Sound token := by
  by_cases color : rule.shape = .color
  · have written := done
    rw [tokenFor, color] at written
    have stem := (TablesOpen.stem_of_mem tables_open rule listed).2.2 (by rw [color]; decide)
    exact sound_colorToken listed stem written
  · exact (tokenFor_fits listed (fun _ shape => absurd shape color) done).toSound

end

/-- A class that stands for its rule wherever it is put. -/
structure Utility.Holds (w : Utility) : Prop where
  /-- The rule is one of the rules. -/
  listed : w.rule ∈ rules
  /-- The class is read as one token. -/
  whole : ClassList.Whole w.token
  /-- It is found again for the rule. -/
  hit : isHit (belongs w.rule) w.token = true

/-- The class for a value of a property. -/
theorem utilityFor_eq_ok {property value : String} {w : Utility} (done : utilityFor property value = .ok w) :
    ruleFor? property = some w.rule ∧ tokenFor w.rule value.toList property = .ok w.token := by
  unfold utilityFor at done
  split at done
  · cases done
  · rename_i rule known
    obtain ⟨token, written, rfl⟩ := map_eq_ok.mp done
    exact ⟨known, written⟩

/-- The class of a change is put into a class text; a blank value would have none. -/
theorem applyToClasses_of_utilityFor {change : StyleChange} {w : Utility}
    (written : utilityFor change.property change.newValue = .ok w) (classes : Text) :
    applyToClasses classes change = .ok (replaceTokens classes (belongs w.rule) w.token, w.token) := by
  obtain ⟨known, token⟩ := utilityFor_eq_ok written
  have keeps : change.removes = false :=
    Bool.eq_false_iff.mpr fun blank => tokenFor_of_isBlankText blank _ _ _ token
  exact applyToClasses_of_tokenFor known keeps token classes

/-- It stands for its rule if it is one of the rule. -/
theorem holds_of_utilityFor {property value : String} {w : Utility} (done : utilityFor property value = .ok w)
    (belongs : belongs w.rule w.token = true) : w.Holds := by
  obtain ⟨known, written⟩ := utilityFor_eq_ok done
  have sound := sound_tokenFor (mem_rules known) written
  exact ⟨mem_rules known, sound.whole, Fits.hit ⟨sound, belongs⟩⟩

/-! ### Classes exchanged -/

/-- A class takes the place of a token that is one of its rule. -/
def Utility.put (w : Utility) (u : Text) : Text := if isHit (belongs w.rule) u then w.token else u

/-- Classes take places one after the other. -/
def exchange (ws : List Utility) (u : Text) : Text := ws.foldl (fun u w => w.put u) u

section

variable {rule rule' : Rule} {u : Text} {w : Utility} {ws : List Utility}

/-- No token is hit for two rules. -/
theorem isHit_apart (listed : rule ∈ rules) (listed' : rule' ∈ rules) (differ : rule ≠ rule')
    (hit : isHit (belongs rule) u = true) : isHit (belongs rule') u = false := by
  obtain ⟨-, here⟩ := Bool.and_eq_true_iff.mp hit
  rw [isHit, belongs_apart listed listed' differ here, Bool.and_false]

/-- A token is hit for the same rule as before when a class has taken its place. -/
theorem isHit_put (holds : w.Holds) (listed : rule ∈ rules) (u : Text) :
    isHit (belongs rule) (w.put u) = isHit (belongs rule) u := by
  rw [Utility.put]
  split
  · rename_i hit
    by_cases same : w.rule = rule
    · rw [← same, hit, holds.hit]
    · rw [isHit_apart holds.listed listed same hit, isHit_apart holds.listed listed same holds.hit]
  · rfl

/-- **Exchanged classes keep their rules.** -/
theorem isHit_exchange (holds : ∀ w ∈ ws, w.Holds) (listed : rule ∈ rules) (u : Text) :
    isHit (belongs rule) (exchange ws u) = isHit (belongs rule) u := by
  induction ws generalizing u with
  | nil => rfl
  | cons w ws ih =>
    obtain ⟨first, others⟩ := List.forall_mem_cons.mp holds
    exact (ih others (w.put u)).trans (isHit_put first listed u)

/-- A token that is hit for no rule stays. -/
theorem exchange_eq_self (other : ∀ w ∈ ws, isHit (belongs w.rule) u = false) : exchange ws u = u := by
  induction ws with
  | nil => rfl
  | cons w ws ih =>
    obtain ⟨first, others⟩ := List.forall_mem_cons.mp other
    have same : w.put u = u := if_neg (by simp [first])
    rw [exchange, List.foldl_cons, same]
    exact ih others

/-- In the place of a token that is hit for a rule there is the class of the rule. -/
theorem exchange_eq_token (apart : ws.Pairwise fun v w => v.rule ≠ w.rule) (holds : ∀ w ∈ ws, w.Holds)
    (mem : w ∈ ws) (hit : isHit (belongs w.rule) u = true) : exchange ws u = w.token := by
  have listed := (holds w mem).listed
  induction ws with
  | nil => cases mem
  | cons v ws ih =>
    obtain ⟨differ, apart⟩ := List.pairwise_cons.mp apart
    obtain ⟨first, others⟩ := List.forall_mem_cons.mp holds
    rcases List.mem_cons.mp mem with rfl | mem
    · have put : w.put u = w.token := if_pos hit
      rw [exchange, List.foldl_cons, put]
      exact exchange_eq_self fun v mem => isHit_apart listed (others v mem).listed (differ v mem) first.hit
    · have other := isHit_apart listed first.listed (differ w mem).symm hit
      have same : v.put u = u := if_neg (by simp [other])
      rw [exchange, List.foldl_cons, same]
      exact ih apart others mem

/-- **Exchanged back**: where the classes that come back are those that stood there, one of each rule, the
token is as it was. -/
theorem exchange_exchange {vs : List Utility} (apart : vs.Pairwise fun v w => v.rule ≠ w.rule)
    (holds : ∀ w ∈ ws, w.Holds) (holds' : ∀ v ∈ vs, v.Holds) (rules : ∀ w ∈ ws, ∃ v ∈ vs, v.rule = w.rule)
    (stood : ∀ v ∈ vs, isHit (belongs v.rule) u = true → v.token = u) : exchange vs (exchange ws u) = u := by
  by_cases hit : ∃ v ∈ vs, isHit (belongs v.rule) u = true
  · obtain ⟨v, mem, hit⟩ := hit
    have still := isHit_exchange holds (holds' v mem).listed u
    rw [exchange_eq_token apart holds' mem (still.trans hit), stood v mem hit]
  · have other : ∀ v ∈ vs, isHit (belongs v.rule) u = false := fun v mem =>
      Bool.eq_false_iff.mpr fun here => hit ⟨v, mem, here⟩
    have same : exchange ws u = u := by
      refine exchange_eq_self fun w mem => ?_
      obtain ⟨v, mem, rule⟩ := rules w mem
      rw [← rule, other v mem]
    rw [same, exchange_eq_self other]

/-- A token is read as a whole when a class has taken its place. -/
theorem whole_put (holds : w.Holds) (whole : ClassList.Whole u) : ClassList.Whole (w.put u) := by
  rw [Utility.put]
  split
  · exact holds.whole
  · exact whole

theorem whole_exchange (holds : ∀ w ∈ ws, w.Holds) (whole : ClassList.Whole u) :
    ClassList.Whole (exchange ws u) := by
  induction ws generalizing u with
  | nil => exact whole
  | cons w ws ih =>
    obtain ⟨first, others⟩ := List.forall_mem_cons.mp holds
    exact ih others (whole_put first whole)

end

end Retouch.Style

namespace Retouch.Patch

open Retouch.Text Retouch.Style

/-- The class of the new value of a change. -/
def newUtility? (change : StyleChange) : Option Utility :=
  (utilityFor change.property change.newValue).toOption

theorem newUtility?_eq_some {change : StyleChange} {w : Utility} :
    newUtility? change = some w ↔ utilityFor change.property change.newValue = .ok w := by
  rw [newUtility?]
  cases utilityFor change.property change.newValue <;> simp [Except.toOption]

/-- Changes of different rules have classes of different rules. -/
theorem pairwise_newUtility? {changes : List StyleChange}
    (apart : changes.Pairwise fun c d => ruleFor? c.property ≠ ruleFor? d.property) :
    (changes.filterMap newUtility?).Pairwise fun v w => v.rule ≠ w.rule := by
  refine apart.filterMap _ fun c d differ v first w second same => differ ?_
  rw [(utilityFor_eq_ok (newUtility?_eq_some.mp first)).1, same,
    (utilityFor_eq_ok (newUtility?_eq_some.mp second)).1]

/-- A change puts a class of its rule in the place of the only one in the class text. -/
structure Replaces (classes : Text) (change : StyleChange) (w : Utility) : Prop where
  /-- The class is that of the new value. -/
  written : utilityFor change.property change.newValue = .ok w
  /-- It stands for its rule. -/
  holds : w.Holds
  /-- There is one class of the rule. -/
  single : (tokenTexts classes).countP (isHit (belongs w.rule)) = 1

theorem holds_of_replaces {classes : Text} {changes : List StyleChange}
    (replaces : ∀ c ∈ changes, ∃ w, Replaces classes c w) :
    ∀ w ∈ changes.filterMap newUtility?, w.Holds := by
  intro w mem
  obtain ⟨c, mem, new⟩ := List.mem_filterMap.mp mem
  obtain ⟨v, replaces⟩ := replaces c mem
  rw [newUtility?_eq_some, replaces.written] at new
  cases new
  exact replaces.holds

/-- The change is written, and its class stands in the place of the other one. -/
theorem Replaces.add {fold : ClassFold} {change : StyleChange} {w : Utility}
    (replaces : Replaces fold.classes change w) (wholes : ∀ u ∈ tokenTexts fold.classes, ClassList.Whole u) :
    ClassList.read (fold.add change).classes = (ClassList.read fold.classes).withTexts w.put ∧
      (fold.add change).failed = fold.failed := by
  rw [ClassFold.add, applyToClasses_of_utilityFor replaces.written]
  exact ⟨read_replaceTokens_single wholes replaces.holds.whole replaces.single, rfl⟩

/-- **A batch exchanges classes**: nothing fails, and each class stands in the place of the other one of its
rule, with the blanks that it had. -/
theorem foldl_add_exchange (fold : ClassFold) {changes : List StyleChange}
    (wholes : ∀ u ∈ tokenTexts fold.classes, ClassList.Whole u)
    (replaces : ∀ c ∈ changes, ∃ w, Replaces fold.classes c w) :
    ClassList.read (changes.foldl ClassFold.add fold).classes =
        (ClassList.read fold.classes).withTexts (exchange (changes.filterMap newUtility?)) ∧
      (changes.foldl ClassFold.add fold).failed = fold.failed := by
  induction changes generalizing fold with
  | nil => exact ⟨(ClassList.withTexts_eq_self fun _ _ => rfl).symm, rfl⟩
  | cons change changes ih =>
    obtain ⟨⟨w, first⟩, others⟩ := List.forall_mem_cons.mp replaces
    obtain ⟨read, failed⟩ := first.add wholes
    have texts := tokenTexts_withTexts read
    have wholes' : ∀ u ∈ tokenTexts (fold.add change).classes, ClassList.Whole u := by
      intro u mem
      rw [texts] at mem
      obtain ⟨v, listed, rfl⟩ := List.mem_map.mp mem
      exact whole_put first.holds (wholes v listed)
    have replaces' : ∀ c ∈ changes, ∃ v, Replaces (fold.add change).classes c v := by
      intro c mem
      obtain ⟨v, written, holds, single⟩ := others c mem
      refine ⟨v, written, holds, ?_⟩
      rw [texts, List.countP_map, ← single]
      exact List.countP_congr fun u _ => by simp [isHit_put first.holds holds.listed]
    obtain ⟨readAll, failedAll⟩ := ih _ wholes' replaces'
    refine ⟨?_, failedAll.trans failed⟩
    rw [List.foldl_cons, readAll, read, ClassList.withTexts_withTexts,
      List.filterMap_cons_some (newUtility?_eq_some.mpr first.written)]
    rfl

/-- A change that can be taken back: the class text has one class of its rule, that of its old value, and
its new value has a class of the same rule. -/
structure IsReversible (classes : Text) (change : StyleChange) (rule : Rule) (old new : Text) : Prop where
  /-- There is one class of the rule. -/
  single : (editableTokens classes).filter (belongs rule) = [old]
  /-- It is that of the old value. -/
  before : utilityFor change.property change.oldValue = .ok ⟨old, rule⟩
  /-- The new value has a class, -/
  after : utilityFor change.property change.newValue = .ok ⟨new, rule⟩
  /-- which is one of the same rule. -/
  belongs : belongs rule new = true

namespace IsReversible

variable {classes : Text} {change : StyleChange} {rule : Rule} {old new : Text}

theorem countP (reversible : IsReversible classes change rule old new) :
    (tokenTexts classes).countP (isHit (Style.belongs rule)) = 1 := by
  rw [List.countP_eq_length_filter, ← filter_editableTokens, reversible.single]
  rfl

theorem replaces (reversible : IsReversible classes change rule old new) :
    Replaces classes change ⟨new, rule⟩ :=
  ⟨reversible.after, holds_of_utilityFor reversible.after reversible.belongs, reversible.countP⟩

/-- The class of the old value is a class of the rule too. -/
theorem holds_old (reversible : IsReversible classes change rule old new) : Utility.Holds ⟨old, rule⟩ := by
  have mem : old ∈ (editableTokens classes).filter (Style.belongs rule) := by
    rw [reversible.single]
    exact List.mem_singleton_self old
  exact holds_of_utilityFor reversible.before (List.mem_filter.mp mem).2

/-- A token of the class text that is hit for the rule is the class of the old value. -/
theorem eq_old (reversible : IsReversible classes change rule old new) {u : Text}
    (mem : u ∈ tokenTexts classes) (hit : isHit (Style.belongs rule) u = true) : u = old := by
  have listed := List.mem_filter.mpr ⟨mem, hit⟩
  rw [← filter_editableTokens, reversible.single] at listed
  exact List.mem_singleton.mp listed

end IsReversible

/-- A batch that can be taken back: every change of it can, and no two are of one rule. -/
structure IsReversibleBatch (classes : Text) (changes : List StyleChange) : Prop where
  /-- The rules of the changes are different ones. -/
  apart : changes.Pairwise fun c d => ruleFor? c.property ≠ ruleFor? d.property
  /-- Each change can be taken back. -/
  each : ∀ c ∈ changes, ∃ rule old new, IsReversible classes c rule old new

namespace IsReversibleBatch

variable {classes there : Text} {changes back : List StyleChange}

theorem replaces (batch : IsReversibleBatch classes changes) : ∀ c ∈ changes, ∃ w, Replaces classes c w := by
  intro c mem
  obtain ⟨rule, old, new, reversible⟩ := batch.each c mem
  exact ⟨_, reversible.replaces⟩

theorem holds (batch : IsReversibleBatch classes changes) :
    ∀ w ∈ changes.filterMap newUtility?, w.Holds := holds_of_replaces batch.replaces

/-- What a change that takes one back says of the class text. -/
theorem of_mem_back (batch : IsReversibleBatch classes changes)
    (inverse : back.Perm (changes.map StyleChange.inverted)) {d : StyleChange} (mem : d ∈ back) :
    ∃ rule old new, newUtility? d = some ⟨old, rule⟩ ∧ IsReversible classes d.inverted rule old new := by
  obtain ⟨c, listed, rfl⟩ := List.mem_map.mp (inverse.mem_iff.mp mem)
  obtain ⟨rule, old, new, reversible⟩ := batch.each c listed
  exact ⟨rule, old, new, newUtility?_eq_some.mpr reversible.before, reversible⟩

/-- Where the batch has exchanged classes, those that were there before can take their places. -/
theorem replaces_back (batch : IsReversibleBatch classes changes)
    (inverse : back.Perm (changes.map StyleChange.inverted))
    (texts : tokenTexts there = (tokenTexts classes).map (exchange (changes.filterMap newUtility?))) :
    ∀ d ∈ back, ∃ v, Replaces there d v := by
  intro d mem
  obtain ⟨rule, old, new, written, reversible⟩ := batch.of_mem_back inverse mem
  refine ⟨⟨old, rule⟩, newUtility?_eq_some.mp written, reversible.holds_old, ?_⟩
  rw [texts, List.countP_map, ← reversible.countP]
  exact List.countP_congr fun u _ => by simp [isHit_exchange batch.holds reversible.holds_old.listed]

/-- Every token is as it was when the classes have been exchanged back. -/
theorem exchange_back (batch : IsReversibleBatch classes changes)
    (inverse : back.Perm (changes.map StyleChange.inverted))
    (holds : ∀ v ∈ back.filterMap newUtility?, v.Holds) {u : Text} (mem : u ∈ tokenTexts classes) :
    exchange (back.filterMap newUtility?) (exchange (changes.filterMap newUtility?) u) = u := by
  have apart : back.Pairwise fun c d => ruleFor? c.property ≠ ruleFor? d.property :=
    (inverse.pairwise_iff fun differ => differ.symm).mpr (List.pairwise_map.mpr batch.apart)
  refine exchange_exchange (pairwise_newUtility? apart) batch.holds holds ?_ ?_
  · intro w found
    obtain ⟨c, listed, new⟩ := List.mem_filterMap.mp found
    obtain ⟨rule, old, new', reversible⟩ := batch.each c listed
    rw [newUtility?_eq_some, reversible.after] at new
    cases new
    have back := inverse.mem_iff.mpr (List.mem_map_of_mem listed)
    exact ⟨⟨old, rule⟩, List.mem_filterMap.mpr ⟨_, back, newUtility?_eq_some.mpr reversible.before⟩, rfl⟩
  · intro v found hit
    obtain ⟨d, listed, old⟩ := List.mem_filterMap.mp found
    obtain ⟨rule, old', new, written, reversible⟩ := batch.of_mem_back inverse listed
    cases written.symm.trans old
    exact (reversible.eq_old mem hit).symm

end IsReversibleBatch

/-- **Batches are taken back**: where a batch that can be taken back was folded into a class text, the
changes that take its changes back, in whatever order, restore the class text, blanks included. -/
theorem foldl_add_inverted {classes : Text} {changes back : List StyleChange}
    (closed : segmentsClose classes = true) (batch : IsReversibleBatch classes changes)
    (inverse : back.Perm (changes.map StyleChange.inverted)) :
    let there := changes.foldl ClassFold.add ⟨classes, [], []⟩
    let home := back.foldl ClassFold.add ⟨there.classes, [], []⟩
    there.failed = [] ∧ home.failed = [] ∧ home.classes = classes := by
  intro there home
  have wholes := whole_of_segmentsClose closed
  obtain ⟨read, failed⟩ := foldl_add_exchange ⟨classes, [], []⟩ wholes batch.replaces
  have texts := tokenTexts_withTexts read
  have wholes' : ∀ u ∈ tokenTexts there.classes, ClassList.Whole u := by
    rw [texts]
    exact List.forall_mem_map.mpr fun u mem => whole_exchange batch.holds (wholes u mem)
  have replaces := batch.replaces_back inverse texts
  obtain ⟨read', failed'⟩ := foldl_add_exchange ⟨there.classes, [], []⟩ wholes' replaces
  have same : ClassList.read home.classes = ClassList.read classes := by
    rw [read', read, ClassList.withTexts_withTexts]
    refine ClassList.withTexts_eq_self fun token mem => ?_
    exact batch.exchange_back inverse (holds_of_replaces replaces) (List.mem_map_of_mem mem)
  refine ⟨failed, failed', ?_⟩
  rw [← ClassList.text_read home.classes, same, ClassList.text_read]

/-- A padding and a colour get values in brackets and are taken back the other way round, between blanks of
all kinds and beside a segment that names a class of the padding. -/
theorem padding_and_color_taken_back :
    let classes := " p-4\ttext-red-500  ${on ? p-1 : off} hover:p-2\nfont-bold ".toList
    let changes : List StyleChange :=
      [⟨"padding", "16px", "13px", false⟩, ⟨"color", "#ef4444", "rgba(1, 2, 3, .5)", false⟩]
    let back : List StyleChange :=
      [⟨"color", "rgba(1, 2, 3, .5)", "#ef4444", false⟩, ⟨"padding", "13px", "16px", false⟩]
    let there := changes.foldl ClassFold.add ⟨classes, [], []⟩
    IsReversibleBatch classes changes ∧ back.Perm (changes.map StyleChange.inverted) ∧
      there.classes = " p-[13px]\ttext-[rgba(1,2,3,.5)]  ${on ? p-1 : off} hover:p-2\nfont-bold ".toList ∧
      (back.foldl ClassFold.add ⟨there.classes, [], []⟩).classes = classes := by
  intro classes changes back there
  have padding : IsReversible classes ⟨"padding", "16px", "13px", false⟩ ⟨"p", .spacing⟩ "p-4".toList
      "p-[13px]".toList := by constructor <;> decide +kernel
  have color : IsReversible classes ⟨"color", "#ef4444", "rgba(1, 2, 3, .5)", false⟩ ⟨"text", .color⟩
      "text-red-500".toList "text-[rgba(1,2,3,.5)]".toList := by constructor <;> decide +kernel
  have batch : IsReversibleBatch classes changes := by
    refine ⟨by decide +kernel, ?_⟩
    simp only [changes, List.forall_mem_cons, List.not_mem_nil, false_imp_iff, implies_true, and_true]
    exact ⟨⟨_, _, _, padding⟩, ⟨_, _, _, color⟩⟩
  have inverse : back.Perm (changes.map StyleChange.inverted) := .swap _ _ _
  exact ⟨batch, inverse, by decide +kernel, (foldl_add_inverted (by decide +kernel) batch inverse).2.2⟩

end Retouch.Patch
