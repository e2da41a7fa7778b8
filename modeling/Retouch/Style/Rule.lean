import Retouch.Style.Property
import Retouch.Style.Scale

/-!
# Which property a utility class sets

Every property that can be edited has a rule: the stem its utility classes start with, and the shape
of their values. Properties may share a stem and differ in shape, as the colour and the size of a
text do; the shape then tells their classes apart.
-/

namespace Retouch.Style

/-- The shape of the values of a property. -/
inductive Shape where
  /-- A colour. -/
  | color
  /-- The size of a font. -/
  | fontSize
  /-- The weight of a font. -/
  | fontWeight
  /-- The alignment of text. -/
  | textAlign
  /-- Padding and margin. -/
  | spacing
  /-- The width of a border. -/
  | borderWidth
  /-- The radius of a corner. -/
  | radius
  /-- The style of a border. -/
  | borderStyle
  /-- The kind of display. -/
  | display
  /-- The transformation of text. -/
  | textTransform
  /-- The decoration of text. -/
  | textDecoration
  /-- The height of a line. -/
  | lineHeight
  /-- The space between letters. -/
  | letterSpacing
  /-- Opacity. -/
  | opacity
  /-- Width, height and gap. -/
  | size
  /-- The image behind an element. -/
  | backgroundImage
  deriving DecidableEq, Repr

/-- The name of a shape. -/
def Shape.label : Shape → String
  | .color => "color"
  | .fontSize => "font_size"
  | .fontWeight => "font_weight"
  | .textAlign => "text_align"
  | .spacing => "spacing"
  | .borderWidth => "border_width"
  | .radius => "radius"
  | .borderStyle => "border_style"
  | .display => "display"
  | .textTransform => "text_transform"
  | .textDecoration => "text_decoration"
  | .lineHeight => "line_height"
  | .letterSpacing => "letter_spacing"
  | .opacity => "opacity"
  | .size => "size"
  | .backgroundImage => "background_image"

/-- How the utility classes of a property look. -/
structure Rule where
  /-- What they start with; empty for whole words. -/
  stem : String
  /-- The shape of the value. -/
  shape : Shape
  deriving DecidableEq, Repr

/-- The rules of a property and of its four sides, named between `base` and `ending`. -/
def sideRules (base ending : String) (stems : List String) (shape : Shape) : List (String × Rule) :=
  (["", "Top", "Right", "Bottom", "Left"].zip stems).map fun (side, stem) =>
    (base ++ side ++ ending, ⟨stem, shape⟩)

/-- The stems of a border and its four sides. -/
def borderStems : List String := ["border", "border-t", "border-r", "border-b", "border-l"]

/-- The rules by property, in camel case. -/
def propertyRules : List (String × Rule) :=
  [("color", ⟨"text", .color⟩),
   ("backgroundColor", ⟨"bg", .color⟩),
   ("backgroundImage", ⟨"bg", .backgroundImage⟩),
   ("fontSize", ⟨"text", .fontSize⟩),
   ("fontWeight", ⟨"font", .fontWeight⟩),
   ("textAlign", ⟨"text", .textAlign⟩)] ++
  sideRules "padding" "" ["p", "pt", "pr", "pb", "pl"] .spacing ++
  sideRules "margin" "" ["m", "mt", "mr", "mb", "ml"] .spacing ++
  sideRules "border" "Width" borderStems .borderWidth ++
  sideRules "border" "Color" borderStems .color ++
  [("borderRadius", ⟨"rounded", .radius⟩),
   ("borderTopLeftRadius", ⟨"rounded-tl", .radius⟩),
   ("borderTopRightRadius", ⟨"rounded-tr", .radius⟩),
   ("borderBottomLeftRadius", ⟨"rounded-bl", .radius⟩),
   ("borderBottomRightRadius", ⟨"rounded-br", .radius⟩),
   ("borderStyle", ⟨"border", .borderStyle⟩),
   ("display", ⟨"", .display⟩),
   ("textTransform", ⟨"", .textTransform⟩),
   ("textDecoration", ⟨"", .textDecoration⟩),
   ("textDecorationLine", ⟨"", .textDecoration⟩),
   ("lineHeight", ⟨"leading", .lineHeight⟩),
   ("letterSpacing", ⟨"tracking", .letterSpacing⟩),
   ("opacity", ⟨"opacity", .opacity⟩),
   ("width", ⟨"w", .size⟩),
   ("height", ⟨"h", .size⟩),
   ("minWidth", ⟨"min-w", .size⟩),
   ("minHeight", ⟨"min-h", .size⟩),
   ("maxWidth", ⟨"max-w", .size⟩),
   ("maxHeight", ⟨"max-h", .size⟩),
   ("gap", ⟨"gap", .size⟩)]

/-- The rule of a property, in either case. -/
def ruleFor? (property : String) : Option Rule :=
  propertyRules.lookup (String.ofList (camelCase property.toList))

end Retouch.Style
