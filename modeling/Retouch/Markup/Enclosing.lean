import Retouch.Markup.Attribute

/-!
# Lines and enclosing tags

From an offset in a source text to the opening tag around it: the tag whose own text covers the
offset, or the tag of the element that the offset lies in, found by walking backward over balanced
tags. Lines are counted from one.
-/

namespace Retouch.Markup

open Retouch.Text

/-- The offsets below `stop` and from `start` on that hold an angle bracket, last first. -/
def bracketsBefore (source : Text) (start stop : Nat) : List Nat :=
  (offsetsFrom (· == '<') start (slice source start stop)).reverse

/-- The first offset that lies at most `lookback` characters before `i`. -/
def reachFrom (i : Nat) (lookback : Int) : Nat := ((i : Int) - lookback).toNat

/-- The opening tag whose text covers offset `i`, starting at most `lookback` characters before. -/
def tagContaining? (source : Text) (i : Nat) (lookback : Int) : Option Tag :=
  (bracketsBefore source (reachFrom i lookback) (i + 1)).findSome? fun k =>
    (readTag? source k).filter (i ≤ ·.close)

/-- The walk backward over angle brackets, `depth` closing tags being open: a closing tag opens one
level, an opening tag or fragment closes one, and the tag that none is left for encloses `i`. -/
def enclosingFrom (source : Text) (i : Nat) : Nat → List Nat → Option Tag
  | _, [] => none
  | depth, k :: rest =>
    let here := source.drop k
    if startsWith here ['<', '/'] then enclosingFrom source i (depth + 1) rest
    else if startsWith here ['<', '>'] then enclosingFrom source i (depth - 1) rest
    else match readTag? source k with
      | none => enclosingFrom source i depth rest
      | some tag =>
        if i ≤ tag.close then some tag
        else if tag.isSelfClosing source then enclosingFrom source i depth rest
        else match depth with
          | 0 => some tag
          | d + 1 => enclosingFrom source i d rest

/-- The opening tag of the element that offset `i` lies in. -/
def enclosingTag? (source : Text) (i : Nat) : Option Tag :=
  enclosingFrom source i 0 (bracketsBefore source 0 i)

/-- The span of the line that lies `n` lines below the text at offset `i`. -/
def lineFrom? : Nat → Nat → Text → Option (Nat × Nat)
  | i, 0, t => some (i, i + (t.takeWhile (· != '\n')).length)
  | _, _ + 1, [] => none
  | i, n + 1, c :: rest => if c == '\n' then lineFrom? (i + 1) n rest else lineFrom? (i + 1) (n + 1) rest

/-- The span of a line, its line feed left out. -/
def lineSpan? (source : Text) (line : Int) : Option (Nat × Nat) :=
  if line < 1 then none else lineFrom? 0 (line - 1).toNat source

/-- The line of an offset. -/
def lineOf (source : Text) (i : Nat) : Nat := (source.take i).count '\n' + 1

end Retouch.Markup
