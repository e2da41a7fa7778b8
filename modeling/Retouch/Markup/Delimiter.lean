import Retouch.Text.Basic

/-!
# Delimiters

Source text is read with just enough structure to know which delimiters belong together. Three
things are open at a time, one inside the other: the opening tag of an element, a block in braces,
and a string in one of three quotes. Inside a string a backslash covers the next character; a string
in back quotes can hold blocks again, after a dollar sign.

`closeFrom` is a pushdown scanner: it reads a text under a stack of open delimiters until the
outermost one is closed. All spans of the library, those of blocks, strings and tags, come from it.
-/

namespace Retouch.Markup

/-- A back quote. -/
def backQuote : Char := '\x60'

/-- The three quotes. -/
def isQuote (c : Char) : Bool := c == '"' || c == '\'' || c == backQuote

/-- A delimiter that is open. -/
inductive Opened where
  /-- The opening tag of an element, up to its angle bracket. -/
  | tag
  /-- A block in braces. -/
  | block
  /-- A string in the given quotes. -/
  | quoted (quote : Char)
  deriving DecidableEq, Repr

/-- The open delimiters after a character that stands in a tag or a block. -/
def step (opened : Opened) (outer : List Opened) (c : Char) : List Opened :=
  if isQuote c then .quoted c :: opened :: outer
  else if c == '{' then .block :: opened :: outer
  else match opened with
    | .tag => if c == '>' then outer else opened :: outer
    | .block => if c == '}' then outer else opened :: outer
    | .quoted _ => opened :: outer

/-- How many characters of a text it takes to close all open delimiters, innermost first; none if
they do not all close. -/
def closeFrom : List Opened → Text → Option Nat
  | [], _ => some 0
  | _ :: _, [] => none
  | .quoted q :: outer, '\\' :: _ :: rest => (closeFrom (.quoted q :: outer) rest).map (· + 2)
  | .quoted q :: outer, '$' :: '{' :: rest =>
    if q == backQuote then (closeFrom (.block :: .quoted q :: outer) rest).map (· + 2)
    else (closeFrom (.quoted q :: outer) ('{' :: rest)).map (· + 1)
  | .quoted q :: outer, c :: rest =>
    if c == '\\' then none
    else if c == q then (closeFrom outer rest).map (· + 1)
    else (closeFrom (.quoted q :: outer) rest).map (· + 1)
  | opened :: outer, c :: rest => (closeFrom (step opened outer c) rest).map (· + 1)

/-- The offset of the delimiter that closes the block or string opened at offset `i`. -/
def closing? (source : Text) (i : Nat) : Option Nat :=
  match source.drop i with
  | [] => none
  | c :: rest =>
    if isQuote c then (closeFrom [.quoted c] rest).map (i + ·)
    else if c == '{' then (closeFrom [.block] rest).map (i + ·)
    else none

end Retouch.Markup
