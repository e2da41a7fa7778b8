import Retouch.Proofs.Markup.Exchanged
import Retouch.Proofs.Patch.Span
import Retouch.Proofs.Style.Plain

/-!
# Tags rewritten

A batch of changes to the class list rewrites one value in a tag, or puts a new attribute into it. If
the tag is tidy, that is all: outside of the tag nothing changes, a tag with just the new text is read in
its place, and its other attributes say what they did (`applyStyleChanges_rewrites`).
-/

namespace Retouch.Patch

open Retouch.Text Retouch.Markup Retouch.Locate Retouch.Style

/-! ### Changes folded into a class list -/

/-- Changes folded into a class list, and what they are in words; all of them or none. -/
def writeAll : Text → List StyleChange → Except ConversionError (Text × List String)
  | classes, [] => .ok (classes, [])
  | classes, change :: rest => do
    let (classes, token) ← applyToClasses classes change
    let (classes, words) ← writeAll classes rest
    .ok (classes, (change.property ++ ": " ++ valueWords (String.ofList token)) :: words)

/-- The change has a class. -/
def converts (change : StyleChange) : Bool := (applyToClasses [] change).toBool

/-- Whether a change has a class does not depend on the class list. -/
theorem toBool_applyToClasses (classes : Text) (change : StyleChange) :
    (applyToClasses classes change).toBool = converts change := by
  unfold converts applyToClasses
  split
  · split <;> rfl
  · cases utilityFor change.property change.newValue <;> rfl

/-- A batch of changes folds those that have a class, and reports the other ones. -/
theorem foldl_add (fold : ClassFold) (changes : List StyleChange) :
    ∃ classes words, writeAll fold.classes (changes.filter converts) = .ok (classes, words) ∧
      (changes.foldl ClassFold.add fold).classes = classes ∧
      (changes.foldl ClassFold.add fold).applied = fold.applied ++ words ∧
      (changes.foldl ClassFold.add fold).failed.map (·.1) =
        fold.failed.map (·.1) ++ (changes.filter (!converts ·)).map (·.property) := by
  induction changes generalizing fold with
  | nil => exact ⟨fold.classes, [], rfl, rfl, (List.append_nil _).symm, (List.append_nil _).symm⟩
  | cons change changes ih =>
    have known := toBool_applyToClasses fold.classes change
    obtain ⟨classes, words, written, same, applied, failed⟩ := ih (fold.add change)
    rw [List.foldl_cons, same, applied, failed]
    unfold ClassFold.add at written ⊢
    cases folded : applyToClasses fold.classes change with
    | error e =>
      have unknown : converts change = false := by
        rw [← known, folded]
        rfl
      rw [folded] at written
      refine ⟨classes, words, ?_, rfl, rfl, ?_⟩
      · rw [List.filter_cons_of_neg (by simp [unknown])]
        exact written
      · rw [List.filter_cons_of_pos (by simp [unknown])]
        simp
    | ok new =>
      obtain ⟨u, token⟩ := new
      have known : converts change = true := by
        rw [← known, folded]
        rfl
      rw [folded] at written
      refine ⟨classes, (change.property ++ ": " ++ valueWords (String.ofList token)) :: words, ?_, rfl, ?_,
        ?_⟩
      · rw [List.filter_cons_of_pos known, writeAll, folded]
        exact bind_eq_ok.mpr ⟨_, rfl, bind_eq_ok.mpr ⟨_, written, rfl⟩⟩
      · simp
      · rw [List.filter_cons_of_neg (by simp [known])]

/-- Changes leave a class list in its quotes. -/
theorem writeAll_inside {q : Char} (quote : isQuote q = true) {t t' : Text} {changes : List StyleChange}
    {words : List String} (inside : IsInside (.quoted q) t) (noCover : '\\' ∉ t)
    (written : writeAll t changes = .ok (t', words)) : IsInside (.quoted q) t' ∧ '\\' ∉ t' := by
  induction changes generalizing t words with
  | nil =>
    cases written
    exact ⟨inside, noCover⟩
  | cons change changes ih =>
    obtain ⟨⟨u, token⟩, one, written⟩ := bind_eq_ok.mp written
    obtain ⟨⟨v, words⟩, rest, eq⟩ := bind_eq_ok.mp written
    cases eq
    obtain ⟨inside, noCover⟩ := applyToClasses_inside quote inside noCover one
    exact ih inside noCover rest

/-! ### What a tag says -/

/-- The value of the attribute that gives the classes. -/
def classValue? (source : Text) (tag : Tag) : Option Text :=
  (findAttribute? source tag classNames).map (·.value source)

/-- The value is a string in quotes. -/
def isString : AttributeForm → Bool
  | .literal _ _ => true
  | _ => false

/-- The classes of a tag can be written: it has none yet, or a string of them. -/
def takesClasses (source : Text) (tag : Tag) : Bool :=
  (findAttribute? source tag classNames).all (isString ·.form)

/-- The changes that are written into a tag: those that have a class, if its classes can be written. -/
def writes (source : Text) (tag : Tag) (change : StyleChange) : Bool :=
  takesClasses source tag && converts change

/-- What the attributes of a tag say, without the one that gives the classes. -/
def otherAttributes (source : Text) (tag : Tag) : List (Text × AttributeForm × Text) :=
  ((attributes source tag).eraseP fun a => classNames.contains a.name).map (·.view source)

variable {source : Text} {tag : Tag} {ps : List Piece}

theorem classValue?_eq (laid : tag.HasLayout source ps) :
    classValue? source tag = ((ps.filterMap Piece.view?).find? (isNamed classNames)).map (·.2.2) := by
  rw [← findAttribute?_view laid, Option.map_map]
  rfl

theorem otherAttributes_eq (laid : tag.HasLayout source ps) :
    otherAttributes source tag = (ps.filterMap Piece.view?).eraseP (isNamed classNames) :=
  attributesBeside_eq laid classNames

/-- Pieces that give the classes `classes?` and say apart from that what other pieces do. -/
structure SaysClasses (qs ps : List Piece) (classes? : Option Text) : Prop where
  /-- The value of the attribute that gives the classes. -/
  classes : ((qs.filterMap Piece.view?).find? (isNamed classNames)).map (·.2.2) = classes?
  /-- The other attributes. -/
  others : (qs.filterMap Piece.view?).eraseP (isNamed classNames) =
    (ps.filterMap Piece.view?).eraseP (isNamed classNames)

/-- A new value for the classes gives them. -/
theorem saysClasses_of_says {qs : List Piece} {name new : Text} {form : AttributeForm}
    (view : Says classNames qs ps (name, form, new)) : SaysClasses qs ps (some new) :=
  ⟨by rw [view.found, Option.map_some], view.others⟩

/-- The names that give classes are those of attributes. -/
theorem classNames_letters : ∀ name ∈ classNames, name ≠ [] ∧ ∀ c ∈ name, isAttributeChar c = true := by
  decide +kernel

/-! ### Batches of changes to the class list -/

/-- The classes of a tag after changes: a new attribute is put in only for classes that are not
blank. -/
def newClasses? (old? : Option Text) (classes : Text) : Option Text :=
  if old?.isSome || !isBlankText classes then some classes else none

/-- What becomes of a batch of changes to the classes of a tag: those that are written are folded into
its classes, and the other ones are reported. -/
structure Outcome.Folds (outcome : Outcome) (old? : Option Text) (changes : List StyleChange)
    (written : StyleChange → Bool) (classes : Text) : Prop where
  /-- The changes reported as applied, folded into the old classes; without any, into no text. -/
  applied : writeAll (old?.getD []) (changes.filter written) = .ok (classes, outcome.applied)
  /-- All other changes are reported as failed. -/
  failed : outcome.failed.map (·.1) = (changes.filter (!written ·)).map (·.property)

/-- All changes fail without any effect. -/
theorem failAll_folds (source : Text) (old? : Option Text) (changes : List StyleChange)
    (reason : String) :
    (failAll source changes reason).Folds old? changes (fun _ => false) (old?.getD []) := by
  constructor
  · rw [List.filter_false]
    rfl
  · rw [Bool.not_false, List.filter_true, failAll, List.map_map]
    rfl

/-- A new attribute for the classes has a name that gives classes. -/
theorem newName_mem (html : Bool) : AttributeTarget.newName html .classes ∈ classNames := by
  cases html <;> decide

/-- A place behind the name of a tag, for a new attribute that gives classes. -/
structure IsNewPlace (tag : Tag) (place : Location) : Prop where
  /-- No attribute is there. -/
  kind : place.kind = .insertion
  /-- It starts behind the name, -/
  start : place.start = tag.nameStop
  /-- where it stops, -/
  stop : place.stop = tag.nameStop
  /-- so nothing stands there. -/
  current : place.current = []
  /-- The name of the attribute gives classes. -/
  named : place.attributeName ∈ classNames

/-- The place of the value of an attribute. -/
structure IsValuePlace (source : Text) (a : Attribute) (place : Location) : Prop where
  /-- The attribute is there. -/
  kind : place.kind = .value
  /-- It starts with the value, -/
  start : place.start = a.valueStart
  /-- and stops with it. -/
  stop : place.stop = a.valueStop
  /-- The value stands there. -/
  current : place.current = a.value source

/-- The place of the classes of a tag: behind its name if it has none, and otherwise the value of the
attribute, which is a string. -/
theorem locationIn_classes {strategy : Strategy} {html : Bool} {selector : String} {place : Location}
    (located : locationIn source tag strategy .classes html selector = .ok place) :
    (findAttribute? source tag classNames = none ∧ IsNewPlace tag place) ∨
      ∃ a q inBraces, findAttribute? source tag classNames = some a ∧
        a.form = .literal q inBraces ∧ IsValuePlace source a place := by
  unfold locationIn AttributeTarget.names at located
  split at located
  · rename_i none
    cases located
    exact Or.inl ⟨none, rfl, rfl, rfl, rfl, newName_mem html⟩
  · rename_i a found
    dsimp only at located
    split at located
    · rename_i q inBraces literal
      cases located
      exact Or.inr ⟨a, q, inBraces, found, literal, rfl, rfl, rfl, rfl⟩
    all_goals contradiction

/-- Where the classes of a tag have a place, every change that has a class is written; -/
theorem writes_of_located {strategy : Strategy} {html : Bool} {selector : String} {place : Location}
    (located : locationIn source tag strategy .classes html selector = .ok place) :
    writes source tag = converts := by
  have takes : takesClasses source tag = true := by
    unfold takesClasses
    obtain ⟨none, -⟩ | ⟨a, q, inBraces, found, literal, -⟩ := locationIn_classes located
    · rw [none]
      rfl
    · rw [found]
      show isString a.form = true
      rw [literal]
      rfl
  funext change
  rw [writes, takes, Bool.true_and]

/-- and where they have none, no change is. -/
theorem writes_of_unlocated {strategy : Strategy} {html : Bool} {selector : String} {e : LocateError}
    (unlocated : locationIn source tag strategy .classes html selector = .error e) :
    writes source tag = fun _ => false := by
  have takes : takesClasses source tag = false := by
    unfold takesClasses
    unfold locationIn AttributeTarget.names at unlocated
    split at unlocated
    · cases unlocated
    · rename_i a found
      rw [found]
      show isString a.form = false
      unfold isString
      dsimp only at unlocated
      split
      · rename_i literal
        rw [literal] at unlocated
        cases unlocated
      · rfl
  funext change
  rw [writes, takes, Bool.false_and]

/-- What a tag is after changes to its classes: it has pieces for which the classes are the new ones and
the rest stays, and the changes are accounted for. -/
structure Outcome.Rewrites (outcome : Outcome) (source : Text) (tag : Tag) (ps : List Piece)
    (changes : List StyleChange) (qs : List Piece) (classes : Text) : Prop where
  /-- The pieces can stand in the tag. -/
  admits : tag.Admits source qs
  /-- The source is the one with these pieces. -/
  text : outcome.source = tag.withPieces source qs
  /-- The changes that are written are folded into the classes. -/
  folds : outcome.Folds (classValue? source tag) changes (writes source tag) classes
  /-- The pieces say so, and apart from that what the pieces before did. -/
  view : SaysClasses qs ps (newClasses? (classValue? source tag) classes)

/-- Without changes that are written, a tag has the pieces that it had. -/
theorem Outcome.Rewrites.unchanged (laid : tag.HasLayout source ps) (read : IsRead source tag)
    {outcome : Outcome} {changes : List StyleChange} {classes : Text} (same : outcome.source = source)
    (folds : outcome.Folds (classValue? source tag) changes (writes source tag) classes)
    (still : newClasses? (classValue? source tag) classes = classValue? source tag) :
    outcome.Rewrites source tag ps changes ps classes := by
  refine ⟨laid.admits read, same.trans laid.withPieces_self.symm, folds, ?_, rfl⟩
  rw [still, classValue?_eq laid]

theorem newClasses?_self (old? : Option Text) : newClasses? old? (old?.getD []) = old? := by
  cases old? <;> rfl

/-- The class list at a place with a batch of changes folded in. -/
def foldedClasses (place : Location) (changes : List StyleChange) : Text :=
  (changes.foldl ClassFold.add ⟨place.current, [], []⟩).classes

/-- At a place, the changes that have a class are written. -/
theorem applyClassChanges_folds {source : Text} {place : Location} {old? : Option Text}
    (current : place.current = old?.getD []) (changes : List StyleChange) :
    (applyClassChanges source place changes).Folds old? changes converts
      (foldedClasses place changes) := by
  obtain ⟨classes, words, folded, rfl, applied, failed⟩ := foldl_add ⟨place.current, [], []⟩ changes
  constructor
  · show writeAll _ _ = .ok (_, (changes.foldl ClassFold.add ⟨place.current, [], []⟩).applied)
    rw [applied, ← current, List.nil_append]
    exact folded
  · exact failed

/-- What stands in the source after a batch of changes at a place. -/
theorem applyClassChanges_source (source : Text) (place : Location) (changes : List StyleChange) :
    (applyClassChanges source place changes).source =
      if foldedClasses place changes == place.current then source
      else match place.kind with
        | .insertion =>
          if isBlankText (foldedClasses place changes) then source
          else splice source place.start place.stop
            (newAttribute place.attributeName (foldedClasses place changes))
        | .value => splice source place.start place.stop (foldedClasses place changes) := rfl

/-- Classes without backslashes that stand in quotes stand in them with a batch of changes folded
in. -/
theorem foldedClasses_inside {q : Char} (quote : isQuote q = true) {place : Location}
    (inside : IsInside (.quoted q) place.current) (noCover : '\\' ∉ place.current)
    (changes : List StyleChange) : IsInside (.quoted q) (foldedClasses place changes) := by
  obtain ⟨classes, words, folded, rfl, -, -⟩ := foldl_add ⟨place.current, [], []⟩ changes
  exact (writeAll_inside quote inside noCover folded).1

/-- Changes to the classes of a tag that has none yet. -/
theorem applyClassChanges_inserts (laid : tag.HasLayout source ps) (read : IsRead source tag)
    (none : findAttribute? source tag classNames = none) (all : writes source tag = converts)
    {place : Location} (new : IsNewPlace tag place) (changes : List StyleChange) :
    ∃ qs, (applyClassChanges source place changes).Rewrites source tag ps changes qs
      (foldedClasses place changes) := by
  obtain ⟨kind, start, stop, current, named⟩ := new
  have old : classValue? source tag = .none := by rw [classValue?, none, Option.map_none]
  have folds : (applyClassChanges source place changes).Folds .none changes (writes source tag)
      (foldedClasses place changes) := all ▸ applyClassChanges_folds current changes
  have inside : IsInside (.quoted '"') (foldedClasses place changes) :=
    foldedClasses_inside rfl (by rw [current]; decide) (by rw [current]; decide) changes
  have written := applyClassChanges_source source place changes
  rw [kind, start, stop, current] at written
  cases blank : isBlankText (foldedClasses place changes) with
  | true =>
    refine ⟨ps, .unchanged laid read ?_ (old ▸ folds) ?_⟩
    · simpa [blank] using written
    · rw [old, newClasses?, blank]
      rfl
  | false =>
    obtain ⟨nonempty, letters⟩ := classNames_letters _ named
    obtain ⟨qs, admits, text, view⟩ := exists_inserted laid none named nonempty letters inside
    change splice source tag.nameStop tag.nameStop (newAttribute _ _) = _ at text
    have some : foldedClasses place changes ≠ [] := by
      rintro empty
      rw [empty] at blank
      cases blank
    refine ⟨qs, admits, ?_, old ▸ folds, ?_⟩
    · rw [← text]
      simpa [blank, some] using written
    · rw [old, newClasses?, blank]
      exact saysClasses_of_says view

/-- Changes to the classes that a tag has. -/
theorem applyClassChanges_exchanges (laid : tag.HasLayout source ps) (read : IsRead source tag)
    {a : Attribute} (found : findAttribute? source tag classNames = some a) {q : Char} {inBraces : Bool}
    (literal : a.form = .literal q inBraces) (noCover : '\\' ∉ a.value source)
    (all : writes source tag = converts) {place : Location} (value : IsValuePlace source a place)
    (changes : List StyleChange) :
    ∃ qs, (applyClassChanges source place changes).Rewrites source tag ps changes qs
      (foldedClasses place changes) := by
  obtain ⟨kind, start, stop, current⟩ := value
  have old : classValue? source tag = some (a.value source) := by
    rw [classValue?, found, Option.map_some]
  have folds : (applyClassChanges source place changes).Folds (some (a.value source)) changes
      (writes source tag) (foldedClasses place changes) := all ▸ applyClassChanges_folds current changes
  have written := applyClassChanges_source source place changes
  rw [kind, start, stop] at written
  by_cases same : foldedClasses place changes = place.current
  · refine ⟨ps, .unchanged laid read ?_ (old ▸ folds) ?_⟩
    · simpa [same] using written
    · rw [same, current, old]
      rfl
  · obtain ⟨quote, string, exchange⟩ := exists_exchanged laid read found literal
    obtain ⟨qs, admits, text, view⟩ := exchange (foldedClasses place changes)
      (foldedClasses_inside quote (current ▸ string) (current ▸ noCover) changes)
    refine ⟨qs, admits, ?_, old ▸ folds, old ▸ saysClasses_of_says view⟩
    rw [← text]
    simpa [same] using written

/-- The text of the pieces of a tag after changes to its classes. -/
theorem classStage_rewrites (laid : tag.HasLayout source ps) (read : IsRead source tag)
    (noCover : ∀ v, classValue? source tag = some v → '\\' ∉ v) (strategy : Strategy)
    (changes : List StyleChange) (html : Bool) :
    ∃ qs classes,
      (classStage source tag strategy changes html).1.Rewrites source tag ps changes qs classes := by
  have still := newClasses?_self (classValue? source tag)
  unfold classStage
  split
  · rename_i empty
    obtain rfl := List.isEmpty_iff.mp empty
    exact ⟨ps, _, .unchanged laid read rfl ⟨rfl, rfl⟩ still⟩
  · split
    · rename_i place located
      have all := writes_of_located located
      obtain ⟨none, new⟩ | ⟨a, q, inBraces, found, literal, value⟩ := locationIn_classes located
      · obtain ⟨qs, rewrites⟩ := applyClassChanges_inserts laid read none all new changes
        exact ⟨qs, _, rewrites⟩
      · have noCover := noCover _ (by rw [classValue?, found, Option.map_some])
        obtain ⟨qs, rewrites⟩ :=
          applyClassChanges_exchanges laid read found literal noCover all value changes
        exact ⟨qs, _, rewrites⟩
    · rename_i e unlocated
      have folds := failAll_folds source (classValue? source tag) changes e.message
      rw [← writes_of_unlocated unlocated] at folds
      exact ⟨ps, _, .unchanged laid read rfl folds still⟩

/-- What a batch of changes to the classes of a tag makes of a source text. -/
structure StylePatch.Rewrites (patch : StylePatch) (source : Text) (changes : List StyleChange)
    (tag tag' : Tag) (classes : Text) : Prop where
  /-- Outside of the tag, nothing changes. -/
  outside : patch.modified = source.take tag.start ++ patch.tagAfter ++ source.drop (tag.close + 1)
  /-- In the place of the tag, a tag is read, -/
  read : readTag? patch.modified tag.start = some tag'
  /-- of just the text after. -/
  text : tag'.text patch.modified = patch.tagAfter
  /-- The changes reported as applied are folded into the old classes; without any, into no text. -/
  applied : writeAll ((classValue? source tag).getD []) (changes.filter (writes source tag)) =
    .ok (classes, patch.applied)
  /-- All other changes are reported as failed. -/
  failed : patch.failed.map (·.1) = (changes.filter (!writes source tag ·)).map (·.property)
  /-- This is what the tag says for its classes; a new attribute is put in only if they are not blank. -/
  value : classValue? patch.modified tag' = newClasses? (classValue? source tag) classes
  /-- Its other attributes have the names and values that they had. -/
  others : otherAttributes patch.modified tag' = otherAttributes source tag

/-- A text is what stands before a tag, the tag, and what stands behind it. -/
theorem take_text_drop (source : Text) {tag : Tag} (le : tag.start ≤ tag.close) :
    source.take tag.start ++ tag.text source ++ source.drop (tag.close + 1) = source := by
  have before : source.take tag.start = (source.take (tag.close + 1)).take tag.start := by
    rw [List.take_take, Nat.min_eq_left (by omega)]
  rw [before, Tag.text, slice, List.take_append_drop, List.take_append_drop]

/-- A patch that puts another tag in the place of one. -/
structure StylePatch.Replaces (patch : StylePatch) (source : Text) (tag tag' : Tag) : Prop where
  /-- Outside of the tag, nothing changes. -/
  outside : patch.modified = source.take tag.start ++ patch.tagAfter ++ source.drop (tag.close + 1)
  /-- In the place of the tag, the other one is read, -/
  read : readTag? patch.modified tag.start = some tag'
  /-- of just the text after. -/
  text : tag'.text patch.modified = patch.tagAfter

/-- A patch that gives a tag other pieces puts a tag of these pieces in its place. -/
theorem StylePatch.Edits.replaces {patch : StylePatch} {qs : List Piece} (edits : patch.Edits source tag)
    (laid : tag.HasLayout source ps) (admits : tag.Admits source qs)
    (modified : patch.modified = tag.withPieces source qs) :
    patch.Replaces source tag (tag.relaid qs) ∧ (tag.relaid qs).HasLayout patch.modified qs := by
  obtain ⟨again, laid', behind⟩ := laid.relaid edits.read admits
  rw [← modified] at again laid' behind
  have text := (edits.tagAfter _ again).symm
  have le : (tag.relaid qs).start ≤ (tag.relaid qs).close := (readTag?_span again).1
  refine ⟨⟨?_, again, text⟩, laid'⟩
  calc patch.modified
    _ = patch.modified.take tag.start ++ (tag.relaid qs).text patch.modified ++
          patch.modified.drop ((tag.relaid qs).close + 1) := (take_text_drop _ le).symm
    _ = source.take tag.start ++ patch.tagAfter ++ source.drop (tag.close + 1) := by
      rw [edits.before, text, behind]

/-- Without changes to the inline style, the class stage is all of a batch. -/
theorem applyStyleChanges_classes {source : Text} {changes : List StyleChange} {hints : Hints}
    {limits : SearchLimits} {html : Bool} {patch : StylePatch} {tag : Tag} {strategy : Strategy}
    (done : applyStyleChanges source changes hints limits html = .ok patch)
    (classChanges : ∀ change ∈ changes, change.usesInline = false)
    (found : findTag? source hints limits = some (tag, strategy)) :
    patch.modified = (classStage source tag strategy changes html).1.source ∧
      patch.applied = (classStage source tag strategy changes html).1.applied ∧
      patch.failed = (classStage source tag strategy changes html).1.failed := by
  have all : changes.filter (fun c => !c.usesInline) = changes :=
    List.filter_eq_self.mpr fun c mem => by simp [classChanges c mem]
  have none : changes.filter (·.usesInline) = [] :=
    List.filter_eq_nil_iff.mpr fun c mem => by simp [classChanges c mem]
  have located : findTag source hints limits = .ok (tag, strategy) := by rw [findTag, found]
  unfold applyStyleChanges at done
  rw [located] at done
  obtain ⟨⟨_, _⟩, same, done⟩ := bind_eq_ok.mp done
  cases same
  obtain ⟨second, inline, done⟩ := bind_eq_ok.mp done
  rw [none] at inline
  cases inline
  cases done
  dsimp only
  rw [all, List.append_nil, List.append_nil]
  exact ⟨rfl, rfl, rfl⟩

/-- **A batch of changes to classes rewrites them and nothing else**, if the tag that it finds is tidy
and there is no backslash in its classes: the result differs from the source in the text of the tag
only, where a tag is read again; the changes reported as applied are folded into its classes, and its
other attributes say what they did. -/
theorem applyStyleChanges_rewrites {source : Text} {changes : List StyleChange} {hints : Hints}
    {limits : SearchLimits} {html : Bool} {patch : StylePatch} {tag : Tag} {strategy : Strategy}
    (done : applyStyleChanges source changes hints limits html = .ok patch)
    (classChanges : ∀ change ∈ changes, change.usesInline = false)
    (found : findTag? source hints limits = some (tag, strategy)) (tidy : tag.IsTidy source)
    (noCover : ∀ v, classValue? source tag = some v → '\\' ∉ v) :
    ∃ tag' classes, patch.Rewrites source changes tag tag' classes := by
  have read := findTag?_read found
  obtain ⟨tag₀, found₀, edits⟩ := applyStyleChanges_edits done
  cases found.symm.trans found₀
  obtain ⟨ps, laid⟩ := tidy.exists_layout read
  obtain ⟨qs, classes, rewrites⟩ := classStage_rewrites laid read noCover patch.strategy changes html
  obtain ⟨whole, applied, failed⟩ := applyStyleChanges_classes done classChanges found
  obtain ⟨⟨outside, again, text⟩, laid'⟩ := edits.replaces laid rewrites.admits (whole.trans rewrites.text)
  refine ⟨tag.relaid qs, classes, outside, again, text, ?_, ?_, ?_, ?_⟩
  · rw [applied]
    exact rewrites.folds.applied
  · rw [failed]
    exact rewrites.folds.failed
  · rw [classValue?_eq laid']
    exact rewrites.view.classes
  · rw [otherAttributes_eq laid', otherAttributes_eq laid]
    exact rewrites.view.others

/-- A tag with a spread and a bracket in a string. -/
def promo : Text := "<p \x7b...rest\x7d className=\"text-lg promo\" title=\"a > b\"/>".toList

/-- The tag as it is read. -/
def promoTag : Tag := ⟨0, 53, ['p']⟩

/-- A change that has a class, and one that has none. -/
def promoChanges : List StyleChange := [⟨"fontSize", "18px", "20px", false⟩, ⟨"zoom", "", "2", false⟩]

/-- Of the classes in the tag, one is exchanged. -/
theorem promo_rewrites :
    ∃ patch, applyStyleChanges promo promoChanges { line? := some 1 } {} false = .ok patch ∧
      patch.modified = "<p \x7b...rest\x7d className=\"text-xl promo\" title=\"a > b\"/>".toList ∧
      (∀ change ∈ promoChanges, change.usesInline = false) ∧
      findTag? promo { line? := some 1 } {} = some (promoTag, .lineNumber) ∧
      promoTag.IsTidy promo ∧ (∀ v, classValue? promo promoTag = some v → '\\' ∉ v) ∧
      ∃ tag' classes, patch.Rewrites promo promoChanges promoTag tag' classes := by
  have result : (applyStyleChanges promo promoChanges { line? := some 1 } {} false).map (·.modified) =
      .ok "<p \x7b...rest\x7d className=\"text-xl promo\" title=\"a > b\"/>".toList := by decide +kernel
  obtain ⟨patch, done, modified⟩ := map_eq_ok.mp result
  have classChanges : ∀ change ∈ promoChanges, change.usesInline = false := by decide
  have found : findTag? promo { line? := some 1 } {} = some (promoTag, .lineNumber) := by decide +kernel
  have tidy : promoTag.IsTidy promo := by decide +kernel
  have noCover : ∀ v, classValue? promo promoTag = some v → '\\' ∉ v := by
    have value : classValue? promo promoTag = some "text-lg promo".toList := by decide +kernel
    rw [value]
    rintro v ⟨⟩
    decide
  exact ⟨patch, done, modified, classChanges, found, tidy, noCover,
    applyStyleChanges_rewrites done classChanges found tidy noCover⟩

end Retouch.Patch
