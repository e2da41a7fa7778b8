import Retouch.Style.Change
import Retouch.Style.Property

/-!
# Declarations of an inline style

An inline style in markup is a list of declarations, each a key, a colon and a value, separated by
semicolons. What is no declaration is passed over when the text is read.
-/

namespace Retouch.Style

open Retouch.Text

/-- A declaration of an inline style. -/
structure Declaration where
  /-- The property, as it is written. -/
  key : Text
  /-- The value. -/
  value : Text
  deriving DecidableEq, Repr

namespace Declaration

/-- An ASCII letter. -/
def isKeyStart (c : Char) : Bool := isCapital c || isSmall c

/-- A later character of a key. -/
def isKeyChar (c : Char) : Bool := isKeyStart c || isFigure c || c == '-'

/-- The key at the start of a text: at most two hyphens, a letter, and what follows. -/
def keyAt? (t : Text) : Option Text :=
  let dashes := (t.takeWhile (· == '-')).length
  match t.drop dashes with
  | c :: rest =>
    if dashes ≤ 2 && isKeyStart c then some (t.take dashes ++ c :: rest.takeWhile isKeyChar) else none
  | [] => none

/-- The declaration at the start of a text, and how many characters it takes with its semicolon. A
value of blanks alone is the last of them. -/
def at? (t : Text) : Option (Declaration × Nat) := do
  let key ← keyAt? t
  let afterKey := t.drop key.length
  match stripStart afterKey with
  | ':' :: body =>
    let span := body.takeWhile (· != ';')
    let value := strip span
    let value := if value.isEmpty then span.drop (span.length - 1) else value
    let taken := t.length - body.length + span.length + (if span.length < body.length then 1 else 0)
    if span.isEmpty then none else some (⟨key, value⟩, taken)
  | _ => none

/-- The declarations in a text; `skip` counts characters still to be passed over. -/
def readFrom : Nat → Text → List Declaration
  | _, [] => []
  | skip + 1, _ :: rest => readFrom skip rest
  | 0, c :: rest =>
    match at? (c :: rest) with
    | some (d, taken) => d :: readFrom (taken - 1) rest
    | none => readFrom 0 rest

/-- The declarations in a text in order. -/
def read (t : Text) : List Declaration := readFrom 0 t

/-- A declaration as text. -/
def text (d : Declaration) : Text := d.key ++ ':' :: ' ' :: d.value

/-- Declarations as the text of an inline style. -/
def write (ds : List Declaration) : Text := join [';', ' '] (ds.map text)

/-- The declarations with the first one of the key set to a value, or set at the end. -/
def set (key value : Text) : List Declaration → List Declaration
  | [] => [⟨key, value⟩]
  | d :: rest => if d.key == key then ⟨key, value⟩ :: rest else d :: set key value rest

/-- The declarations without the first one of the key. -/
def erase (key : Text) : List Declaration → List Declaration
  | [] => []
  | d :: rest => if d.key == key then rest else d :: erase key rest

/-- The characters that would end a declaration or the attribute it stands in. -/
def breakers : List Char := ['"', '<', '>', ';']

/-- A change folded into declarations. -/
def apply (ds : List Declaration) (change : StyleChange) :
    Except ConversionError (List Declaration) :=
  let key := kebabCase change.property.toList
  let value := strip change.newValue.toList
  if value.any breakers.contains then .error (.breaksOut change.property change.newValue)
  else .ok (if value.isEmpty then erase key ds else set key value ds)

end Declaration

/-- Changes folded into the text of an inline style. -/
def applyToStyleText (t : Text) (changes : List StyleChange) : Except ConversionError Text :=
  (changes.foldlM Declaration.apply (Declaration.read t)).map Declaration.write

end Retouch.Style
