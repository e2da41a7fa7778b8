import Retouch.Json.Writer
import Retouch.Locate.Strategy
import Retouch.Text.Quoted

/-!
# The text of an element replaced

The words of an element stand in the source as prose between tags or as a string. A place where they
look like code is left alone. Places from the element's tag on come first, then the others; the first
that is prose or a string is replaced, the new text escaped as the place asks for.
-/

namespace Retouch

/-! ### Why a text cannot be replaced -/

/-- Why a text cannot be replaced. -/
inductive TextError where
  /-- There is no text to look for. -/
  | nothingToFind
  /-- The text stands nowhere in the source. -/
  | missing (needle : String)
  /-- Wherever the text stands it looks like code. -/
  | onlyCode (needle : String) (places : Nat)
  deriving DecidableEq, Repr

namespace TextError

/-- The wording of an error. -/
def message : TextError → String
  | .nothingToFind => "Old text is empty"
  | .missing needle => "Text " ++ Text.quote (Text.cutString needle 40) ++ " not found in source"
  | .onlyCode needle _ =>
    "Every occurrence of " ++ Text.quote (Text.cutString needle 40) ++
      " looks like code; refusing to edit"

end TextError

/-! ### Contexts -/

open Retouch.Text Retouch.Markup

/-- What surrounds a place in the source. -/
inductive TextContext where
  /-- Prose between tags. -/
  | markup
  /-- A string in quotes. -/
  | string
  deriving DecidableEq, Repr

/-- The name of a context. -/
def TextContext.label : TextContext → String
  | .markup => "markup"
  | .string => "string"

namespace Patch

/-! ### Places -/

/-- The spans of the words, with blanks between them, from every offset on. -/
def wordPlacesFrom (ws : List Text) : Nat → Text → List (Nat × Nat)
  | _, [] => []
  | i, c :: rest =>
    match Locate.matchWords? ws (c :: rest) with
    | some n => (i, i + n) :: wordPlacesFrom ws (i + 1) rest
    | none => wordPlacesFrom ws (i + 1) rest

/-- The spans at which the words of a text stand, overlapping ones included. -/
def wordPlaces (source needle : Text) : List (Nat × Nat) := wordPlacesFrom (words needle) 0 source

/-! ### What surrounds a place -/

/-- Attributes whose value is prose. -/
def proseAttributes : List String :=
  ["alt", "title", "placeholder", "label", "value", "content", "aria-label", "aria-description"]

/-- A character of an attribute's name before an equals sign. -/
def isAttributeNameChar (c : Char) : Bool := isWord c || c == ':' || c == '-'

/-- The attribute whose value begins where a text ends: the name before an equals sign, an opening
brace and blanks allowed after it. -/
def attributeBefore? (head : Text) : Option Text :=
  let back := head.reverse.dropWhile isBlank
  let back := match back with
    | '{' :: rest => rest.dropWhile isBlank
    | _ => back
  match back with
  | '=' :: rest =>
    let name := (rest.dropWhile isBlank).takeWhile isAttributeNameChar
    if name.isEmpty then none else some name.reverse
  | _ => none

/-- A word stands at the end of a text, given backward, and no word character before it. -/
def endsInWord (word : Text) (back : Text) : Bool :=
  (dropHead? word.reverse back).any fun rest => !rest.head?.any isWord

/-- The text ends as it does before the name of a module: in an import, or in the call that loads
one. -/
def beforeModuleName (head : Text) : Bool :=
  let back := head.reverse.dropWhile isBlank
  endsInWord "from".toList back || endsInWord "import".toList back ||
    match back with
    | '(' :: rest =>
      let called := rest.dropWhile isBlank
      endsInWord "require".toList called || endsInWord "import".toList called
    | _ => false

/-- How far before a string its attribute is looked for. -/
def attributeReach : Nat := 80

/-- How far before a string the start of its tag is looked for. -/
def tagReach : Int := 1000

/-- The context of the place from `start` up to `stop`; none if it looks like code. -/
def contextOf? (source : Text) (start stop : Nat) : Option TextContext :=
  let before := charBefore? source start
  let after := source[stop]?
  let first := source[start]?
  let last := charBefore? source stop
  let follow := source.drop stop
  if before.any isIdentifierChar && first.any isIdentifierChar then none
  else if after.any isIdentifierChar && last.any isIdentifierChar then none
  else if before == some '.' then none
  else if after == some ':' then none
  else if (match follow with
    | [] => false
    | [_] => false
    | a :: b :: _ => isQuote a && b == ':') then none
  else if ((source.take start).reverse.dropWhile isBlank).head? == some '>' then some .markup
  else if startsWith (stripStart follow) ['<', '/'] then some .markup
  else if before.any isQuote && after == before then
    let head := slice source (start - attributeReach) (start - 1)
    let codeAttribute := (attributeBefore? head).any fun name =>
      !proseAttributes.contains (String.ofList name) && (tagContaining? source start tagReach).isSome
    if codeAttribute || beforeModuleName head then none else some .string
  else none

/-! ### Escapes -/

/-- A text as a string in the given quotes holds it: backslashes and then quotes are escaped. A string
in back quotes keeps its line feeds and escapes the dollar sign before a brace. -/
def escapeInString (quote : Text) (t : Text) : Text :=
  let escaped := replace quote ('\\' :: quote) (replace ['\\'] ['\\', '\\'] t)
  if quote == [backQuote] then replace ['$', '{'] ['\\', '$', '{'] escaped
  else replace ['\n'] ['\\', 'n'] escaped

/-- A character of markup as a browser reads it. -/
def escapeEntity (c : Char) : Text :=
  if c == '&' then "&amp;".toList
  else if c == '<' then "&lt;".toList
  else if c == '>' then "&gt;".toList
  else [c]

/-- A character that cannot stand in markup inside code. -/
def breaksMarkup (c : Char) : Bool := c == '{' || c == '}' || c == '<' || c == '>'

/-- A text escaped for its context: in markup inside code it becomes an expression if it must. -/
def escapeFor (t : Text) (context : TextContext) (quote : Text) (html : Bool) : Text :=
  match context with
  | .string => escapeInString quote t
  | .markup =>
    if html then t.flatMap escapeEntity
    else if t.any breaksMarkup then '{' :: Json.stringText t ++ ['}']
    else t

/-! ### Replacement -/

/-- A text replaced in a source. -/
structure TextPatch where
  /-- The source after the replacement. -/
  modified : Text
  /-- The offset of the new text. -/
  start : Nat
  /-- The offset after the new text. -/
  stop : Nat
  /-- What surrounds it. -/
  context : TextContext
  deriving DecidableEq, Repr

/-- The spans from the anchor on, then those before it. -/
def anchorFirst (anchor? : Option Int) (spans : List (Nat × Nat)) : List (Nat × Nat) :=
  match anchor? with
  | none => spans
  | some anchor =>
    spans.filter (fun s => anchor ≤ s.1) ++ spans.filter (fun s => (s.1 : Int) < anchor)

/-- The words of `old` replaced by `new` at the first place that is prose or a string. Blanks around
`new` are dropped if `old` has any around it. -/
def replaceText (source old new : Text) (anchor? : Option Int) (html : Bool) :
    Except TextError TextPatch :=
  let needle := strip old
  let fresh := if needle == old then new else strip new
  let spans := wordPlaces source needle
  if needle.isEmpty then .error .nothingToFind
  else if spans.isEmpty then .error (.missing (String.ofList needle))
  else
    let patch? := (anchorFirst anchor? spans).findSome? fun (start, stop) =>
      (contextOf? source start stop).map fun context =>
        let quote := match context with
          | .string => (charBefore? source start).toList
          | .markup => ['"']
        let escaped := escapeFor fresh context quote html
        (⟨splice source start stop escaped, start, start + escaped.length, context⟩ : TextPatch)
    match patch? with
    | some patch => .ok patch
    | none => .error (.onlyCode (String.ofList needle) spans.length)

end Patch

end Retouch
