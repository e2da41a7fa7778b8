import Retouch.Markup.Tag

/-!
# Attributes

The attributes of an opening tag in order, each with the span of the whole and the span of its
value. A value is a string in quotes, possibly inside braces, an expression in braces, or unquoted;
an attribute may have none at all. Spread expressions in braces are passed over.
-/

namespace Retouch.Markup

open Retouch.Text

/-- How an attribute is written. -/
inductive AttributeForm where
  /-- A name alone. -/
  | bare
  /-- A value without delimiters. -/
  | unquoted
  /-- A string in quotes, with braces around it or not. -/
  | literal (quote : Char) (braced : Bool)
  /-- An expression in braces. -/
  | expression
  deriving DecidableEq, Repr

/-- An attribute of an opening tag. -/
structure Attribute where
  /-- Its name. -/
  name : Text
  /-- The offset at which it starts. -/
  start : Nat
  /-- The offset after it. -/
  stop : Nat
  /-- The offset at which its value starts, delimiters left out. -/
  valueStart : Nat
  /-- The offset after its value. -/
  valueStop : Nat
  /-- How it is written. -/
  form : AttributeForm
  deriving DecidableEq, Repr

namespace Attribute

/-- The value of an attribute. -/
def value (a : Attribute) (source : Text) : Text := Text.slice source a.valueStart a.valueStop

/-- The value is text as it stands: a string in quotes, or an unquoted value. -/
def isLiteral (a : Attribute) : Bool :=
  match a.form with
  | .literal _ _ => true
  | .unquoted => true
  | _ => false

end Attribute

/-- A character of an attribute's name. -/
def isAttributeChar (c : Char) : Bool :=
  !(isBlank c || c == '=' || c == '/' || c == '>' || c == '{' || c == '}' || isQuote c)

/-- The value in braces whose inside and what follows is `inside`: the number of characters up to
the closing brace, and where in them a value that is a single string stands, with its quote. -/
def readBraced? (inside : Text) : Option (Nat × Option (Nat × Nat × Char)) := do
  let close ← closeFrom [.block] inside
  let lead := (inside.takeWhile isBlank).length
  match inside.drop lead with
  | q :: rest =>
    if isQuote q then
      match closeFrom [.quoted q] rest with
      | some n =>
        if isBlankText (slice inside (lead + n + 1) (close - 1)) then
          some (close, some (lead + 1, lead + n, q))
        else some (close, none)
      | none => some (close, none)
    else some (close, none)
  | [] => some (close, none)

/-- The value after an equals sign and blanks, at offset `k`: the form, the span of the value and
the offset after it. -/
def readValue? (k : Nat) : Text → Option (AttributeForm × Nat × Nat × Nat)
  | c :: rest =>
    if isQuote c then
      (closeFrom [.quoted c] rest).map fun n => (.literal c false, k + 1, k + n, k + n + 1)
    else if c == '{' then
      (readBraced? rest).map fun
        | (close, some (first, last, q)) =>
          (.literal q true, k + 1 + first, k + 1 + last, k + close + 1)
        | (close, none) => (.expression, k + 1, k + close, k + close + 1)
    else
      let n := ((c :: rest).takeWhile fun d => !(isBlank d || d == '/' || d == '>')).length
      some (.unquoted, k, k + n, k + n)
  | [] => some (.unquoted, k, k, k)

/-- The attribute whose name starts the text at offset `j`; none if its value does not close. -/
def readAttribute? (j : Nat) (t : Text) : Option Attribute :=
  let name := t.takeWhile isAttributeChar
  let after := t.drop name.length
  let gap := (after.takeWhile isBlank).length
  let nameStop := j + name.length
  match after.drop gap with
  | '=' :: rest =>
    let lead := (rest.takeWhile isBlank).length
    (readValue? (nameStop + gap + 1 + lead) (rest.drop lead)).map
      fun (form, first, last, stop) => ⟨name, j, stop, first, last, form⟩
  | _ => some ⟨name, j, nameStop, nameStop, nameStop, .bare⟩

/-- The attributes in the text at offset `j`, up to the offset `limit`. The first argument counts
characters that are still to be passed over. -/
def attributesFrom (limit : Nat) : Nat → Nat → Text → List Attribute
  | _, _, [] => []
  | skip + 1, j, _ :: rest => attributesFrom limit skip (j + 1) rest
  | 0, j, c :: rest =>
    if limit ≤ j then []
    else if isBlank c || c == '/' then attributesFrom limit 0 (j + 1) rest
    else if c == '{' then
      match closeFrom [.block] rest with
      | some n => attributesFrom limit n (j + 1) rest
      | none => []
    else if isAttributeChar c then
      match readAttribute? j (c :: rest) with
      | some a => a :: attributesFrom limit (a.stop - j - 1) (j + 1) rest
      | none => []
    else attributesFrom limit 0 (j + 1) rest

/-- The attributes of a tag in source order. -/
def attributes (source : Text) (tag : Tag) : List Attribute :=
  attributesFrom tag.close 0 tag.nameStop (source.drop tag.nameStop)

/-- The first attribute of a tag that has one of the names. -/
def findAttribute? (source : Text) (tag : Tag) (names : List Text) : Option Attribute :=
  (attributes source tag).find? fun a => names.contains a.name

end Retouch.Markup
