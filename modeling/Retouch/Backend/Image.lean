import Retouch.Backend.State
import Retouch.Patch.Styles

/-!
# Showing an uploaded image

An image that is uploaded for an element is written into the element's markup: as the source of an
image element, or as the background of any other. What is known about the element comes as it was
given, so a hint may turn out to be no text at all. That stops the work only where the hint is needed.
-/

namespace Retouch

open Retouch.Wire

/-- What is known about the element that an image is for. -/
structure ImageTarget where
  /-- The element. -/
  selector : String
  /-- The position of its markup. -/
  position? : Option SourcePosition
  /-- The file, as it was given. -/
  path : Json
  /-- Its text, as it was given. -/
  text : Json
  /-- Its classes, as they were given. -/
  classes : Json

namespace ImageTarget

/-- The element that the members of a context tell of; none if they name no element or a bad
position. -/
def read? (ms : Members) : Except BackendFault (Option ImageTarget) :=
  match ms.get "selector" with
  | .str selector =>
    if selector.isEmpty then .ok none
    else match SourcePosition.read? (ms.get "sourceLocation") with
      | .ok position? =>
        .ok (some ⟨selector, position?, ms.get "filePath", ms.get "textContent", ms.get "className"⟩)
      | .error (.number f) => .error (.number f)
      | .error _ => .ok none
  | _ => .ok none

/-- A value that is there but is no text. -/
def isUnusable (v : Json) : Bool := v.truthy && v.string?.isNone

/-- The hints that can be used. -/
def hints (t : ImageTarget) : Hints :=
  .ofPosition t.selector t.position? t.text.string? t.classes.string?

/-- The file that holds the element. -/
def resolve (t : ImageTarget) (files : List SourceFile) (settings : BackendSettings) :
    Except BackendFault (Option SourceFile) :=
  let sources := Resolution.searched files settings.endings
  if isUnusable t.path then .error .noPath
  else match Resolution.named? files [t.path.string?, t.position?.map (·.path)] with
    | some file => .ok (some file)
    | none =>
      if isUnusable t.text then .error .noText
      else match Resolution.byText? sources t.text.string? settings.search
          <|> Resolution.byId? sources t.selector with
        | some file => .ok (some file)
        | none =>
          if isUnusable t.classes then .error .noText
          else .ok (Resolution.byClasses? sources t.classes.string?)

/-- The strategies that have to be passed before a hint that is no text is needed. -/
def needsUnusable (t : ImageTarget) : Option Strategy → Bool
  | some .lineNumber | some .selectorId => false
  | some .textContent => isUnusable t.text
  | some .classAttribute => isUnusable t.text || isUnusable t.classes
  | none => isUnusable t.text || isUnusable t.classes

/-- The tag of the element. -/
def findTag (t : ImageTarget) (source : Text) (limits : SearchLimits) :
    Except BackendFault (Option Markup.Tag) :=
  let found := Locate.findTag? source t.hints limits
  if t.needsUnusable (found.map (·.2)) then .error .noText else .ok (found.map (·.1))

/-- The elements that show an image of their own. -/
def imageElements : List String := ["img", "image", "Image"]

/-- The source with an image behind the element; none if it cannot be written. -/
def writeBackground? (t : ImageTarget) (source : Text) (address : String) (limits : SearchLimits)
    (html : Bool) : Option Text :=
  let change : StyleChange := ⟨"backgroundImage", "", "url(" ++ address ++ ")", false⟩
  match Patch.applyStyleChanges source [change] t.hints limits html with
  | .ok patch => if patch.failed.isEmpty then some patch.modified else none
  | .error _ => none

/-- The source with the image at its element; none if it cannot be written. -/
def write? (t : ImageTarget) (source : Text) (address : String) (isBackground : Bool)
    (limits : SearchLimits) (html : Bool) : Except BackendFault (Option Text) := do
  match ← t.findTag source limits with
  | none => .ok none
  | some tag =>
    if isBackground then .ok (t.writeBackground? source address limits html)
    else if !imageElements.contains (String.ofList tag.name) then .ok none
    else .ok (Patch.setLiteralAttribute source tag "src".toList address.toList).toOption

end ImageTarget

namespace Backend

variable {σ : Type} [Storage σ]

/-- Writes an uploaded image into the markup of its element; tells whether it is there. -/
def showImage (b : Backend σ) (context : Members) (address : String) (isBackground : Bool) :
    Backend σ × Except BackendFault Bool :=
  let plan : Except BackendFault (Option (ImageTarget × String × Text)) := do
    match ← ImageTarget.read? context with
    | none => .ok none
    | some target =>
      match ← target.resolve (Storage.files b.store) b.settings with
      | none => .ok none
      | some (path, source) =>
        let written? ←
          target.write? source address isBackground b.settings.search (Path.isMarkup path)
        .ok (written?.map fun written => (target, path, written))
  match plan with
  | .error f => (b, .error f)
  | .ok none => (b, .ok false)
  | .ok (some (target, path, written)) =>
    let (b, refusal) := b.save path written ("use uploaded image for " ++ target.selector)
    (b, .ok refusal.isNone)

end Backend

end Retouch
