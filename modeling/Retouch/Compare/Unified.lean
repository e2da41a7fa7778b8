import Retouch.Compare.Blocks
import Retouch.Text.Basic

/-!
# Unified differences

Two versions of a text are compared line by line. What changed is shown with the three lines before
and after it; changes whose surroundings touch are shown together, as one hunk. A hunk says which lines
of both versions it covers.
-/

namespace Retouch.Compare

/-- A part of two versions. -/
inductive Part where
  /-- Lines that both versions have. -/
  | same (lines : List Text)
  /-- Lines of the old version in whose place the new one has others. -/
  | changed (old new : List Text)
  deriving DecidableEq, Repr

/-- The same lines and other same lines after them, as one part. -/
def joinSame (lines : List Text) : List Part → List Part
  | .same more :: rest => .same (lines ++ more) :: rest
  | parts => .same lines :: parts

/-- The parts of two versions of which `i` and `j` lines are gone, by the blocks that they share. -/
def partsFrom : Nat → Nat → List Text → List Text → List Block → List Part
  | _, _, [], [], [] => []
  | _, _, old, new, [] => [.changed old new]
  | i, j, old, new, b :: rest =>
    let before := (old.take (b.first - i), new.take (b.second - j))
    let block := (old.drop (b.first - i)).take b.size
    let others := joinSame block (partsFrom (b.first + b.size) (b.second + b.size)
      (old.drop (b.first - i + b.size)) (new.drop (b.second - j + b.size)) rest)
    if before.1.isEmpty && before.2.isEmpty then others else .changed before.1 before.2 :: others

/-- The parts of two versions. -/
def parts (old new : List Text) : List Part := partsFrom 0 0 old new (blocks old new)

/-! ### Hunks -/

/-- The lines around a change that are shown. -/
def reach : Nat := 3

/-- Parts that are shown together. -/
structure Hunk where
  /-- The lines of the old version before the hunk. -/
  oldStart : Nat
  /-- The lines of the new version before the hunk. -/
  newStart : Nat
  /-- The parts. -/
  parts : List Part := []
  deriving DecidableEq, Repr

namespace Hunk

/-- The hunk with a part after the others. -/
def add (h : Hunk) (p : Part) : Hunk := { h with parts := h.parts ++ [p] }

/-- The lines of the old version in a part. -/
def oldSize : Part → Nat
  | .same lines => lines.length
  | .changed old _ => old.length

/-- The lines of the new version in a part. -/
def newSize : Part → Nat
  | .same lines => lines.length
  | .changed _ new => new.length

/-- The lines of all parts, counted by `size`. -/
def total (size : Part → Nat) (h : Hunk) : Nat := h.parts.foldl (fun n p => n + size p) 0

/-- The lines from `start` on that a hunk covers, counted from one: the first one, and their number
unless it is one. -/
def rangeText (start size : Nat) : String :=
  if size == 1 then toString (start + 1)
  else toString (if size == 0 then start else start + 1) ++ "," ++ toString size

/-- A part as it is shown. -/
def partText : Part → Text
  | .same lines => lines.flatMap (' ' :: ·)
  | .changed old new => old.flatMap ('-' :: ·) ++ new.flatMap ('+' :: ·)

/-- A hunk as it is shown. -/
def text (h : Hunk) : Text :=
  let range := rangeText h.oldStart (h.total oldSize)
  let newRange := rangeText h.newStart (h.total newSize)
  ("@@ -" ++ range ++ " +" ++ newRange ++ " @@\n").toList ++ h.parts.flatMap partText

end Hunk

/-- The hunks from parts that `i` and `j` lines come before, the first one begun already. -/
def hunksFrom : Nat → Nat → Hunk → List Part → List Hunk
  | _, _, h, [] => [h]
  | _, _, h, [.same lines] => [h.add (.same (lines.take reach))]
  | i, j, h, .same lines :: rest =>
    let n := lines.length
    if reach + reach < n then
      h.add (.same (lines.take reach)) :: hunksFrom (i + n) (j + n)
        ⟨i + n - reach, j + n - reach, [.same (lines.drop (n - reach))]⟩ rest
    else hunksFrom (i + n) (j + n) (h.add (.same lines)) rest
  | i, j, h, .changed old new :: rest =>
    hunksFrom (i + old.length) (j + new.length) (h.add (.changed old new)) rest

/-- The hunks of two versions. -/
def hunks (old new : List Text) : List Hunk :=
  match parts old new with
  | [] | [.same _] => []
  | .same lines :: rest =>
    let n := lines.length
    hunksFrom n n ⟨n - reach, n - reach, [.same (lines.drop (n - reach))]⟩ rest
  | ps => hunksFrom 0 0 ⟨0, 0, []⟩ ps

/-- What changed from one version of a text to another, under the names of both; nothing if they
are equal. -/
def unified (oldName newName : String) (old new : Text) : Text :=
  match hunks (Text.lines old) (Text.lines new) with
  | [] => []
  | hs => ("--- " ++ oldName ++ "\n+++ " ++ newName ++ "\n").toList ++ hs.flatMap Hunk.text

end Retouch.Compare
