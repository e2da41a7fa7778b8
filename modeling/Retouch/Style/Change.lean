import Retouch.Text.Quoted

/-!
# Style changes

One property edit: the property, its value before and after, and whether it goes to the inline style
instead of the class list. An empty new value takes the property away. A change for which there is neither
a utility class nor a safe inline form cannot be written, for a cause that names the property and the value.
-/

namespace Retouch

/-- One property edit. -/
structure StyleChange where
  /-- The property, in camel or kebab case. -/
  property : String
  /-- Its value before. -/
  oldValue : String
  /-- Its value after; blank to remove it. -/
  newValue : String
  /-- The edit goes to the inline style. -/
  usesInline : Bool
  deriving DecidableEq, Repr, Inhabited

namespace StyleChange

/-- The edit that takes this one back. -/
def inverted (c : StyleChange) : StyleChange :=
  { c with oldValue := c.newValue, newValue := c.oldValue }

/-- Taking back what takes an edit back is the edit. -/
@[simp] theorem inverted_inverted (c : StyleChange) : c.inverted.inverted = c := rfl

/-- The edit removes its property. -/
def removes (c : StyleChange) : Bool := Text.isBlankText c.newValue.toList

end StyleChange

/-! ### Why a change cannot be written -/

namespace Style

/-- Why a style change cannot be written. -/
inductive ConversionError where
  /-- The property has no utility classes. -/
  | unmapped (property value : String)
  /-- The value is blank. -/
  | blankValue (property value : String)
  /-- The value holds a character that no arbitrary value may hold. -/
  | unsafeValue (property value : String)
  /-- The value is none of the words that the property takes. -/
  | unnamedValue (property value : String)
  /-- The value is no number. -/
  | notANumber (property value : String)
  /-- The number is not between nothing and everything. -/
  | outOfRange (property value : String)
  /-- The value is no background image. -/
  | unsupportedImage (property value : String)
  /-- The inline style is not a plain object literal. -/
  | notPlainObject (text : String)
  /-- The value would end the inline style. -/
  | breaksOut (property value : String)
  deriving DecidableEq, Repr

namespace ConversionError

/-- The property an error is about. -/
def property : ConversionError → String
  | .unmapped p _ | .blankValue p _ | .unsafeValue p _ | .unnamedValue p _ | .notANumber p _
  | .outOfRange p _ | .unsupportedImage p _ | .breaksOut p _ => p
  | .notPlainObject _ => "style"

/-- The value an error is about. -/
def value : ConversionError → String
  | .unmapped _ v | .blankValue _ v | .unsafeValue _ v | .unnamedValue _ v | .notANumber _ v
  | .outOfRange _ v | .unsupportedImage _ v | .breaksOut _ v => v
  | .notPlainObject t => t

/-- The wording of an error. -/
def message : ConversionError → String
  | .unmapped p _ => p ++ ": no utility class mapping"
  | .blankValue p _ => p ++ ": empty value"
  | .unsafeValue p v => p ++ ": value " ++ Text.quote v ++ " has no safe arbitrary form"
  | .unnamedValue p v => p ++ ": no utility class for " ++ Text.quote v
  | .notANumber p v => p ++ ": " ++ Text.quote v ++ " is not a number"
  | .outOfRange p v => p ++ ": " ++ Text.quote v ++ " is out of range"
  | .unsupportedImage p v => p ++ ": unsupported background image " ++ Text.quote v
  | .notPlainObject t =>
    "style object is not a plain literal: " ++
      Text.quote (String.ofList ((Text.strip t.toList).take 60))
  | .breaksOut p v => p ++ ": value " ++ Text.quote v ++ " cannot be written inline"

end ConversionError

end Style

end Retouch
