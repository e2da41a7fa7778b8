import Retouch.Overlay.State

/-!
# The overlay's own elements

What the overlay adds to a page has reserved ids: a style sheet in the head, two frames in the body,
and a frame with an editor while a text is edited.
-/

namespace Retouch.Overlay

open Page (reservedStart)

/-- The id of the frame around the element that the pointer is over. -/
def highlightId : String := reservedStart ++ "_highlight_overlay"

/-- The id of the frame around the selected element. -/
def selectionId : String := reservedStart ++ "_selection_overlay"

/-- The id of the frame around a text that is edited. -/
def textFrameId : String := reservedStart ++ "_text_edit_overlay"

/-- The id of the element in which a text is edited. -/
def textInputId : String := reservedStart ++ "_text_edit_input"

/-- The id of the style sheet. -/
def sheetId : String := reservedStart ++ "_design_mode_styles"

/-- A rule of a style sheet. -/
def rule (selector : String) (declarations : List String) : String :=
  selector ++ " \x7b\n" ++ String.join (declarations.map fun d => "  " ++ d ++ ";\n") ++ "\x7d\n"

/-- A rule of a style sheet on one line. -/
def shortRule (selector declaration : String) : String :=
  selector ++ " \x7b " ++ declaration ++ "; \x7d\n"

/-- What the style sheet says: nothing on the page moves, and form controls leave the pointer to the
overlay. -/
def sheetText : String :=
  let own := "[id^=\"" ++ reservedStart ++ "\"]"
  "\n" ++
    rule ("*:not(" ++ own ++ "):not(" ++ own ++ " *)")
      ["transition: none !important", "animation: none !important"] ++
    shortRule ("*:not(" ++ own ++ "):hover") "transform: none !important" ++
    shortRule "input, textarea, select" "pointer-events: none !important" ++
    shortRule ("[contenteditable=\"true\"]:not(" ++ own ++ ")")
      "-webkit-user-modify: read-only !important"

/-- A frame as it is added to the page, hidden. -/
def newFrame (id border : String) : Element :=
  (((((Element.ofTag "div" [("id", id)]).setStyle "position" "fixed" false).setStyle
    "pointer-events" "none" false).setStyle "border" border false).setStyle
    "z-index" "2147483646" false).setStyle "display" "none" false

/-- The overlay with a new element at the end of another one. -/
def addElement (o : Overlay) (parent : ElementId) (e : Element) : Overlay × ElementId :=
  let (page, id) := o.page.create e
  ({ o with page := page.append parent id }, id)

/-- The overlay without one of its own elements. -/
def dropElement (o : Overlay) (id? : Option ElementId) : Overlay :=
  match id? with
  | some id => { o with page := o.page.remove id }
  | none => o

end Retouch.Overlay
