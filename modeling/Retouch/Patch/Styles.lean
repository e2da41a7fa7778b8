import Retouch.Locate.Location
import Retouch.Style.Declarations
import Retouch.Style.ObjectLiteral
import Retouch.Style.Utility

/-!
# Style changes written into source

A batch of changes to one element is folded into its class list and its inline style. The element is
located once. A change that cannot be written is reported and leaves the rest of the batch alone;
changes to the inline style stand or fall together.
-/

namespace Retouch.Patch

open Retouch.Text Retouch.Markup Retouch.Locate Retouch.Style

/-- What has become of a batch of changes. -/
structure Outcome where
  /-- The source text. -/
  source : Text
  /-- The changes that are written, in words. -/
  applied : List String
  /-- The properties that could not be changed, and why. -/
  failed : List (String × String)

/-- A batch of changes written into a source text. -/
structure StylePatch where
  /-- The source text after the changes. -/
  modified : Text
  /-- The changes that are written, in words. -/
  applied : List String
  /-- The properties that could not be changed, and why. -/
  failed : List (String × String)
  /-- The place of the class list, if a change needed it. -/
  location? : Option Location
  /-- The text of the tag before. -/
  tagBefore : Text
  /-- The text of the tag after. -/
  tagAfter : Text
  /-- The strategy that found the tag. -/
  strategy : Strategy

/-- The patch changes the tag. -/
def StylePatch.changed (p : StylePatch) : Bool := p.tagBefore != p.tagAfter

/-- All changes failed for one reason. -/
def failAll (source : Text) (changes : List StyleChange) (reason : String) : Outcome :=
  ⟨source, [], changes.map fun c => (c.property, reason)⟩

/-! ### Class lists -/

/-- A class list under change: its text, the changes that are written, and those that failed. -/
structure ClassFold where
  /-- The class text. -/
  classes : Text
  /-- The changes that are written, in words. -/
  applied : List String
  /-- The properties that could not be changed, and why. -/
  failed : List (String × String)

/-- A value in words; an empty one means that the property is taken away. -/
def valueWords (value : String) : String := if value.isEmpty then "(removed)" else value

/-- One more change folded in. -/
def ClassFold.add (fold : ClassFold) (change : StyleChange) : ClassFold :=
  match applyToClasses fold.classes change with
  | .ok (classes, token) =>
    { fold with
      classes
      applied := fold.applied ++ [change.property ++ ": " ++ valueWords (String.ofList token)] }
  | .error e => { fold with failed := fold.failed ++ [(change.property, e.message)] }

/-- A new attribute, with a blank before it. -/
def newAttribute (name value : Text) : Text := ' ' :: name ++ '=' :: '"' :: value ++ ['"']

/-- Changes folded into the class list at a place. -/
def applyClassChanges (source : Text) (place : Location) (changes : List StyleChange) : Outcome :=
  let fold := changes.foldl ClassFold.add ⟨place.current, [], []⟩
  let written :=
    if fold.classes == place.current then source
    else match place.kind with
      | .insertion =>
        if isBlankText fold.classes then source
        else splice source place.start place.stop (newAttribute place.attributeName fold.classes)
      | .value => splice source place.start place.stop fold.classes
  ⟨written, fold.applied, fold.failed⟩

/-! ### Inline styles -/

/-- The source text with changes folded into the inline style at a place. -/
def writeInline (source : Text) (place : Location) (changes : List StyleChange) (html : Bool) :
    Except ConversionError Text :=
  match place.kind with
  | .insertion =>
    if html then do
      let style ← applyToStyleText [] changes
      .ok (if style.isEmpty then source
        else splice source place.start place.stop (newAttribute "style".toList style))
    else do
      let style ← applyToStyleObject [] changes
      .ok (if style == ['{', '}'] then source
        else splice source place.start place.stop (" style=\x7b".toList ++ style ++ ['}']))
  | .value => do
    let style ← if place.quote == '{' then applyToStyleObject place.current changes
      else applyToStyleText place.current changes
    .ok (splice source place.start place.stop style)

/-- Changes folded into the inline style at a place, all or none. -/
def applyInlineChanges (source : Text) (place : Location) (changes : List StyleChange)
    (html : Bool) : Outcome :=
  match writeInline source place changes html with
  | .ok written =>
    ⟨written, changes.map fun c => c.property ++ ": " ++ valueWords c.newValue ++ " (inline)", []⟩
  | .error e => failAll source changes e.message

/-! ### A batch -/

/-- The changes of a batch that go to the class list, at the place of the class list. -/
def classStage (source : Text) (tag : Tag) (strategy : Strategy) (changes : List StyleChange)
    (html : Bool) : Outcome × Option Location :=
  if changes.isEmpty then (⟨source, [], []⟩, none)
  else match locationIn source tag strategy .classes html "" with
    | .ok place => (applyClassChanges source place changes, some place)
    | .error e => (failAll source changes e.message, none)

/-- The changes of a batch that go to the inline style, in the tag at offset `start`. -/
def inlineStage (source : Text) (start : Nat) (strategy : Strategy) (changes : List StyleChange)
    (html : Bool) (selector : String) : Except LocateError Outcome :=
  if changes.isEmpty then .ok ⟨source, [], []⟩
  else match readTag? source start with
    | none => .error (.tagVanished selector)
    | some tag =>
      match locationIn source tag strategy .style html "" with
      | .ok place => .ok (applyInlineChanges source place changes html)
      | .error e => .ok (failAll source changes e.message)

/-- A batch of changes to the element that the hints describe. -/
def applyStyleChanges (source : Text) (changes : List StyleChange) (hints : Hints)
    (limits : SearchLimits) (html : Bool) : Except LocateError StylePatch := do
  let (tag, strategy) ← findTag source hints limits
  let before := tag.text source
  let (first, place) :=
    classStage source tag strategy (changes.filter fun c => !c.usesInline) html
  let second ←
    inlineStage first.source tag.start strategy (changes.filter (·.usesInline)) html hints.selector
  let after := match readTag? second.source tag.start with
    | some tag => tag.text second.source
    | none => before
  .ok {
    modified := second.source
    applied := first.applied ++ second.applied
    failed := first.failed ++ second.failed
    location? := place
    tagBefore := before
    tagAfter := after
    strategy }

/-! ### Single edits of a tag -/

/-- The source text with a tag replaced. -/
def replaceTag (source : Text) (tag : Tag) (text : Text) : Text :=
  splice source tag.start (tag.close + 1) text

/-- The source text with a literal attribute of a tag set; a computed value is refused. -/
def setLiteralAttribute (source : Text) (tag : Tag) (name value : Text) :
    Except LocateError Text :=
  match findAttribute? source tag [name] with
  | none => .ok (splice source tag.nameStop tag.nameStop (newAttribute name value))
  | some a =>
    if a.isLiteral then .ok (splice source a.valueStart a.valueStop value)
    else .error (.computedLiteral (String.ofList tag.name) (String.ofList name))

end Retouch.Patch
