import Retouch.Markup.Delimiter
import Retouch.Text.Digit

/-!
# Opening tags

An opening tag runs from an angle bracket to the bracket that closes it, strings and blocks in
between passed over. A bracket opens a tag if a letter follows it and no identifier character stands
before it, so that a comparison or a type argument is not taken for one.
-/

namespace Retouch.Markup

open Retouch.Text

/-- An opening tag in a source text. -/
structure Tag where
  /-- The offset of its opening angle bracket. -/
  start : Nat
  /-- The offset of its closing angle bracket. -/
  close : Nat
  /-- The name of the element. -/
  name : Text
  deriving DecidableEq, Repr

/-- A character of an identifier in code. -/
def isIdentifierChar (c : Char) : Bool := isAlphanumeric c || c == '_' || c == '$'

/-- The first character of an element's name. -/
def isNameStart (c : Char) : Bool := ('A' ≤ c && c ≤ 'Z') || ('a' ≤ c && c ≤ 'z')

/-- A later character of an element's name. -/
def isNameChar (c : Char) : Bool := isWord c || c == '.' || c == ':' || c == '-'

/-- The character before offset `i`. -/
def charBefore? (source : Text) (i : Nat) : Option Char := if i == 0 then none else source[i - 1]?

/-- Whether the characters from offset `i` on open an element's tag, `before` standing in front. -/
def opensTag (before : Option Char) : Text → Bool
  | '<' :: c :: _ => isLetter c && !before.any isIdentifierChar
  | _ => false

/-- Whether an element's tag opens at offset `i`. -/
def isTagStart (source : Text) (i : Nat) : Bool :=
  opensTag (charBefore? source i) (source.drop i)

/-- The opening tag at offset `i`. -/
def readTag? (source : Text) (i : Nat) : Option Tag :=
  match source.drop i with
  | '<' :: c :: rest =>
    if opensTag (charBefore? source i) ('<' :: c :: rest) && isNameStart c then
      (closeFrom [.tag] (c :: rest)).map fun n => ⟨i, i + n, c :: rest.takeWhile isNameChar⟩
    else none
  | _ => none

namespace Tag

/-- The text of the tag, brackets included. -/
def text (tag : Tag) (source : Text) : Text := Text.slice source tag.start (tag.close + 1)

/-- The offset right after the name, where a new attribute goes. -/
def nameStop (tag : Tag) : Nat := tag.start + 1 + tag.name.length

/-- The tag ends with a slash: its element has no content. -/
def isSelfClosing (tag : Tag) (source : Text) : Bool := source[tag.close - 1]? == some '/'

end Tag

end Retouch.Markup
