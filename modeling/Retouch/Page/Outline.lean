import Retouch.Page.Document

/-!
# Outlines

A page can be written down as JSON. A text is a string; an element is an object with its tag, and where
there is something to tell, its attributes, inline style, rectangle, computed style, framework notes
and children. An element may carry a name, by which it is referred to afterwards; of two elements with
one name the one that is read to its end later counts.
-/

namespace Retouch.Page

open Wire (Read readTexts textsJson)

variable {κ : Type}

/-- The elements that have names. -/
abbrev Names := Table String ElementId

/-- A page and the names of its elements. -/
abbrev NamedPage (κ : Type) := Page κ × Names

namespace Outline

/-- The value of a member that is neither missing nor `null`. -/
def member? (ms : Members) (key : String) : Option Json :=
  match Members.get ms key with
  | .null => none
  | v => some v

/-- The items of a list, of anything else none. -/
def items : Json → List Json
  | .arr vs => vs
  | _ => []

/-- The notes of a framework, `n` components deep. -/
def fiber : Nat → Json → Fiber
  | 0, v => .component (Members.get v.members "source") none none
  | n + 1, v =>
    .component (Members.get v.members "source") ((member? v.members "parent").map (fiber n))
      ((member? v.members "owner").map (fiber n))

/-- How deep the notes of a framework are read. -/
def depth : Nat := 1000

/-- An element without its children. -/
def element (ms : Members) : Read Element := do
  let rect ← Rect.read (Members.get ms "rect")
  let e := { Element.ofTag ((Members.get ms "tag").string?.getD "") (readTexts (Members.get ms "attrs"))
    with
    rect
    computed := readTexts (Members.get ms "computed")
    fiber? := (member? ms "fiber").map (fiber depth) }
  .ok ((items (Members.get ms "style")).foldl (fun e s =>
    match items s with
    | [.str name, .str value] => e.setStyle name value false
    | _ => e) e)

/-- The page with a node at the end of an element; nodes are read `n` levels deep. -/
def add : Nat → ElementId → NamedPage κ → Json → Read (NamedPage κ)
  | _, parent, (p, names), .str t => .ok (p.appendText parent t, names)
  | 0, _, page, _ => .ok page
  | n + 1, parent, (p, names), v => do
    let ms := v.members
    let (p, id) := p.create (← element ms)
    let (p, names) ← (items (Members.get ms "children")).foldlM (add n id) (p, names)
    .ok (p.append parent id, match Members.get ms "ref" with
      | .str name => Table.set names name id
      | _ => names)

/-- The page that an outline describes: what is in its head and in its body. -/
def read (v : Json) : Read (NamedPage κ) := do
  let start : NamedPage κ := (Page.empty, [("html", root), ("head", head), ("body", body)])
  let page ← (items (Members.get v.members "head")).foldlM (add depth head) start
  (items (Members.get v.members "body")).foldlM (add depth body) page

/-- An element written down, `n` levels deep. -/
def write (p : Page κ) : Nat → ElementId → Json
  | 0, _ => .null
  | n + 1, id =>
    let e := p.element id
    .obj ([("tag", .str e.tag), ("attrs", textsJson e.attributes),
        ("children", .arr (e.children.map fun c =>
          match c with
          | .text t => .str t
          | .element c => write p n c))] ++
      (if e.style.isEmpty then [] else [("style", textsJson e.style)]) ++
      (if e.important.isEmpty then []
        else [("important", .strings (e.important.mergeSort fun a b => !(b < a)))]) ++
      (if e.isEditable then [("editable", .bool true)] else []))

end Outline

/-- An element written down with all it holds. -/
def outline (p : Page κ) (id : ElementId) : Json := Outline.write p (p.elements.length + 1) id

/-- The element of a name, or else the first one with that id. -/
def named? (p : NamedPage κ) (name : String) : Option ElementId :=
  Table.get? p.2 name <|> p.1.byId? name

/-- The name of an element; one without a name is shown by its tag and its id. -/
def nameOf (p : NamedPage κ) (id : ElementId) : String :=
  match p.2.find? fun e => e.2 == id with
  | some (name, _) => name
  | none => "<" ++ (p.1.element id).tag ++ " id=" ++ (p.1.element id).id ++ ">"

end Retouch.Page
