import Retouch.Overlay.Selection
import Retouch.Style.Membership
import Retouch.Style.Utility

/-!
# Styles shown for the time being

Styles are shown on an element over everything else, and the utility classes that set the same
properties are left out meanwhile. The first time that a property is shown, the overlay saves what the
element had, and gives it back when the styles are cleared.
-/

namespace Retouch.Overlay

/-- The look of an element that styles are about to be shown on. -/
def look (o : Overlay) (id : ElementId) : SavedLook :=
  (Table.get? o.session.saved id).getD { classes? := (o.page.element id).attribute? "class" }

/-- One property shown on an element, the look being saved and the classes that remain. -/
def showProperty (acc : Element × SavedLook × Text) (property value : String) :
    Element × SavedLook × Text :=
  let (e, look, classes) := acc
  let name := String.ofList (Page.cssName property.toList)
  let look := if Table.contains look.styles name then look
    else { look with styles := Table.set look.styles name (Table.get? e.style name) }
  (e.setStyle name value true, look, Style.removeProperty classes property)

/-- Styles shown on an element. -/
def showStyles (o : Overlay) (id : ElementId) (styles : Table String String) : Overlay :=
  let e := o.page.element id
  let (e, look, classes) :=
    styles.foldl (fun acc s => showProperty acc s.1 s.2) (e, o.look id, e.classes.toList)
  let e := if look.classes?.isSome then e.setAttribute "class" (String.ofList classes) else e
  let o := { o.modify id fun _ => e with
    session := { o.session with saved := Table.set o.session.saved id look } }
  if o.session.selected? == some id then o.drawSelection (some id) else o

/-- Styles shown on the element of a selector; the second part is false if there is none. -/
def applyPreview (o : Overlay) (selector : String) (styles : Table String String) :
    Overlay × Bool :=
  match o.registry.resolve? o.page selector with
  | none => (o, false)
  | some id => (o.showStyles id styles, true)

/-- An element with its saved look. -/
def restoreLook (look : SavedLook) (e : Element) : Element :=
  let e := look.styles.foldl (fun e s =>
    match s.2 with
    | some value => e.setStyle s.1 value false
    | none => e.removeStyle s.1) e
  match look.classes? with
  | some classes => e.setAttribute "class" classes
  | none => e.removeAttribute "class"

/-- The styles shown on an element taken back. -/
def restore (o : Overlay) (id : ElementId) : Overlay :=
  match Table.get? o.session.saved id with
  | none => o
  | some look =>
    { o.modify id (restoreLook look) with
      session := { o.session with saved := Table.erase o.session.saved id } }

/-- The styles shown on the element of a selector taken back, or those on all elements. -/
def clearPreview (o : Overlay) (selector? : Option String) : Overlay :=
  match selector? with
  | none => (Table.keys o.session.saved).foldl restore o
  | some selector =>
    match o.registry.resolve? o.page selector with
    | some id => o.restore id
    | none => o

/-- The elements that styles are shown on. -/
def previewed (o : Overlay) : List ElementId := Table.keys o.session.saved

end Retouch.Overlay
