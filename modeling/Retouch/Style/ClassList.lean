import Retouch.Markup.Delimiter

/-!
# Class lists

A class attribute is a list of tokens with the blanks between them. Every token keeps the blanks
before it, so that replacing one and putting it back gives the same characters. A segment
`${…}` belongs to its token, blanks inside it included, and such a token is never edited; nor is one
with a variant (`hover:`) or an importance mark.
-/

namespace Retouch.Style

open Retouch.Text Retouch.Markup

/-- A token of a class list. -/
structure ClassToken where
  /-- The blanks before it. -/
  lead : Text
  /-- Its text. -/
  text : Text
  deriving DecidableEq, Repr

/-- A class list taken apart. -/
structure ClassList where
  /-- The tokens in order. -/
  tokens : List ClassToken
  /-- The blanks after the last token. -/
  trailing : Text
  deriving DecidableEq, Repr

namespace ClassList

/-- The class list with one more token in front. -/
def cons (token : ClassToken) (list : ClassList) : ClassList :=
  ⟨token :: list.tokens, list.trailing⟩

/-- Reads a class list. `skip` counts characters of a segment still to be taken over, `lead` and
`word` hold the blanks and the token being read, last character first. A segment that does not close
reaches to the end. -/
def readFrom : Nat → Text → Text → Text → ClassList
  | _, lead, word, [] => if word.isEmpty then ⟨[], lead.reverse⟩ else ⟨[⟨lead.reverse, word.reverse⟩], []⟩
  | skip + 1, lead, word, c :: rest => readFrom skip lead (c :: word) rest
  | 0, lead, word, c :: rest =>
    if isBlank c then
      if word.isEmpty then readFrom 0 (c :: lead) [] rest
      else cons ⟨lead.reverse, word.reverse⟩ (readFrom 0 [c] [] rest)
    else
      match c, rest with
      | '$', '{' :: inside =>
        match closeFrom [.block] inside with
        | some n => readFrom (n + 1) lead (c :: word) rest
        | none => ⟨[⟨lead.reverse, word.reverse ++ c :: rest⟩], []⟩
      | _, _ => readFrom 0 lead (c :: word) rest

/-- The class list that a text holds. -/
def read (t : Text) : ClassList := readFrom 0 [] [] t

/-- The text of a class list. -/
def text (list : ClassList) : Text :=
  (list.tokens.map fun token => token.lead ++ token.text).flatten ++ list.trailing

end ClassList

/-- The token holds a segment that is filled in later. -/
def isOpaque (token : Text) : Bool := has token ['$', '{']

/-- The token has an importance mark or, before any bracket, a variant. -/
def isVariant (token : Text) : Bool :=
  match token with
  | '!' :: _ => true
  | _ => (token.takeWhile (· != '[')).contains ':'

/-- The token may be edited. -/
def isEditable (token : Text) : Bool := !isOpaque token && !isVariant token

/-- The editable tokens of a class text in order. -/
def editableTokens (classes : Text) : List Text :=
  ((ClassList.read classes).tokens.map (·.text)).filter isEditable

/-- The first token that `hits` accepts replaced by `new` and the others dropped; without one `new`
comes last, and an empty `new` only drops. `placed` says that `new` has its place, `started` that a
token stands before, and `carry` holds the blanks of a dropped first token, which the next one takes
over. -/
def replaceFrom (hits : Text → Bool) (new : Text) :
    Bool → Bool → Option Text → List ClassToken → List ClassToken
  | placed, started, carry, [] =>
    if new.isEmpty || placed then [] else [⟨carry.getD (if started then [' '] else []), new⟩]
  | placed, started, carry, token :: rest =>
    if isEditable token.text && hits token.text then
      if new.isEmpty || placed then
        replaceFrom hits new placed started
          (if started || carry.isSome then carry else some token.lead) rest
      else ⟨token.lead, new⟩ :: replaceFrom hits new true true carry rest
    else ⟨carry.getD token.lead, token.text⟩ :: replaceFrom hits new placed true none rest

/-- The class text with the first editable token that `hits` accepts replaced by `new` and the others
dropped. -/
def replaceTokens (classes : Text) (hits : Text → Bool) (new : Text) : Text :=
  let list := ClassList.read classes
  ClassList.text ⟨replaceFrom hits new false false none list.tokens, list.trailing⟩

/-- The first editable token that `hits` accepts. -/
def findToken? (classes : Text) (hits : Text → Bool) : Option Text :=
  (editableTokens classes).find? hits

end Retouch.Style
