import Retouch.Page.Registry

/-!
# Snapshots of elements

What the editor tells about an element: its kind, its text and classes, its styles, where it stands on
the page, and where its markup stands in the source. Elements of the editor itself and elements
that show nothing are passed over.
-/

namespace Retouch.Page

variable {κ : Type}

/-! ### What an element is -/

/-- Elements that show nothing of their own. -/
def unseenTags : List String := ["script", "style", "link", "meta", "head", "html", "noscript"]

/-- Elements whose text can be edited in place. -/
def textTags : List String := [
  "p", "h1", "h2", "h3", "h4", "h5", "h6", "span", "a", "button", "label", "li", "td", "th",
  "caption", "figcaption", "blockquote", "cite", "q", "strong", "em", "b", "i", "u", "small", "mark",
  "del", "ins", "sub", "sup"]

/-- The style properties that are told. -/
def toldProperties : List String := [
  "fontFamily", "fontSize", "fontWeight", "lineHeight", "letterSpacing", "textAlign",
  "textDecoration", "textTransform", "color", "backgroundColor", "backgroundImage", "marginTop",
  "marginRight", "marginBottom", "marginLeft", "paddingTop", "paddingRight", "paddingBottom",
  "paddingLeft", "borderTopWidth", "borderRightWidth", "borderBottomWidth", "borderLeftWidth",
  "borderTopColor", "borderRightColor", "borderBottomColor", "borderLeftColor",
  "borderTopLeftRadius", "borderTopRightRadius", "borderBottomRightRadius",
  "borderBottomLeftRadius", "borderStyle", "display", "flexDirection", "justifyContent",
  "alignItems", "gap", "width", "height", "minWidth", "minHeight", "maxWidth", "maxHeight",
  "opacity", "boxShadow"]

/-- The kinds of elements by their tags. -/
def kinds : List (ElementKind × List String) := [
  (.input, ["input", "textarea", "select"]),
  (.text, ["span", "p", "h1", "h2", "h3", "h4", "h5", "h6", "label", "a"]),
  (.image, ["img", "svg"]),
  (.container, ["div", "section", "article", "header", "footer", "nav", "main", "aside"]),
  (.list, ["ul", "ol", "li"])]

/-- What an element is to the user. -/
def kindOf (e : Element) : ElementKind :=
  if e.tag == "button" || e.attribute? "role" == some "button" then .button
  else ((kinds.find? fun k => k.2.contains e.tag).map (·.1)).getD .generic

/-- The text of an element can be edited in place: the element is one for text and has some. -/
def isTextEditable (e : Element) : Bool := textTags.contains e.tag && !e.directText.isEmpty

/-- The editor passes an element over: it shows nothing, or it belongs to the editor. -/
def isIgnored (p : Page κ) (id : ElementId) : Bool :=
  unseenTags.contains (p.element id).tag || isReserved (p.element id).id ||
    (p.ancestors id).any fun a => isReserved (p.element a).id

/-- The classes of an element without those of the editor. -/
def ownClasses (e : Element) : String :=
  Text.joinStrings " " (((Text.words e.classes.toList).map String.ofList).filter (!isReserved ·))

/-! ### Where its markup stands -/

/-- The position that the framework noted on the element, or on the nearest ancestor with notes. -/
def notedPosition (p : Page κ) (id : ElementId) : PositionSearch :=
  match (id :: p.ancestors id).findSome? fun a => (p.element a).fiber? with
  | some fiber => fiber.position
  | none => .ok none

/-! ### The snapshot -/

/-- The selector of an element's parent, if the parent can be selected. -/
def parentSelector (r : Registry) (p : Page κ) (id : ElementId) : Registry × Page κ × Json :=
  match p.parent? id with
  | none => (r, p, .null)
  | some parent =>
    let tag := (p.element parent).tag
    if unseenTags.contains tag || tag == "body" then (r, p, .null)
    else
      let (r, p, selector) := r.selectorFor p parent
      (r, p, .str selector)

/-- A snapshot of an element. -/
def snapshot (r : Registry) (p : Page κ) (id : ElementId) (position? : Option SourcePosition) :
    Registry × Page κ × Snapshot :=
  let (r, p, parentSelector) := parentSelector r p id
  let (r, p, selector) := r.selectorFor p id
  let e := p.element id
  let computed := e.computedStyle
  (r, p, {
    selector
    tagName := e.tag
    classes := ownClasses e
    computedStyles := toldProperties.map fun name => (name, (Table.get? computed name).getD "")
    inlineStyles := e.inlineStyles
    rect := e.rect
    text? := if isTextEditable e then some e.directText else none
    isTextEditable := isTextEditable e
    position?
    parentSelector
    childCount := e.elements.length
    kind := kindOf e })

end Retouch.Page
