import Retouch.Text.Quoted

/-!
# What two lists have in common

Two lists are compared by blocks that they share. The longest block counts first, the earliest of
equals; what stands before it and after it in both lists is compared in the same way. Where the second
list is long, an item that makes up more than about a hundredth of it is too common to start a block
from, though a block may grow over it.

A word that is not known may be a known one misspelled. Two words are close if three fifths of their
characters are shared; the three closest are suggested.
-/

namespace Retouch.Compare

variable {α : Type} [BEq α]

/-- A block that two lists share. -/
structure Block where
  /-- Where it stands in the first list. -/
  first : Nat
  /-- Where it stands in the second list. -/
  second : Nat
  /-- How many items it has. -/
  size : Nat
  deriving DecidableEq, Repr, Inhabited

/-- The length from which on common items are set apart. -/
def longFrom : Nat := 200

/-- An item is too common in a list to start a block from. -/
def isCommon (list : List α) (x : α) : Bool :=
  longFrom ≤ list.length && list.length / 100 + 1 < list.count x

/-- The number of items that two lists start with alike. -/
def commonStart : List α → List α → Nat
  | a :: s, b :: t => if a == b then commonStart s t + 1 else 0
  | _, _ => 0

/-- The lengths of the runs that end with `x` in each place of a list, from the lengths of the runs
that end one item before. The items come with a mark that says whether runs may hold them; `before`
is the length of the run that ends before the first of them. -/
def runsWith (x : α) : Nat → List (α × Bool) → List Nat → List Nat
  | before, (y, mayHold) :: rest, run :: runs =>
    (if mayHold && x == y then before + 1 else 0) :: runsWith x run rest runs
  | _, _, _ => []

/-- The better of a block and the blocks that end before `i` in the first list and, from `j` on,
in the second, by the lengths of the runs. -/
def better (i : Nat) : Nat → Block → List Nat → Block
  | _, best, [] => best
  | j, best, run :: runs =>
    better i (j + 1) (if best.size < run then ⟨i + 1 - run, j + 1 - run, run⟩ else best) runs

/-- The best block so far, and the one after every further item of the first list. -/
def bestFrom (marked : List (α × Bool)) : Nat → Block → List Nat → List α → Block
  | _, best, _, [] => best
  | i, best, runs, x :: rest =>
    let runs := runsWith x 0 marked runs
    bestFrom marked (i + 1) (better i 0 best runs) runs rest

/-- A block grown as far as the lists are alike before it and after it. -/
def grow (s t : List α) (b : Block) : Block :=
  let back := commonStart (s.take b.first).reverse (t.take b.second).reverse
  let on := commonStart (s.drop (b.first + b.size)) (t.drop (b.second + b.size))
  ⟨b.first - back, b.second - back, back + b.size + on⟩

/-- The block that counts first. -/
def longest (common : α → Bool) (s t : List α) : Block :=
  let marked := t.map fun y => (y, !common y)
  grow s t (bestFrom marked 0 ⟨0, 0, 0⟩ (t.map fun _ => 0) s)

/-- The blocks of two lists that start at `i` and `j`. The first argument bounds their number. -/
def blocksFrom (common : α → Bool) : Nat → Nat → Nat → List α → List α → List Block
  | 0, _, _, _, _ => []
  | fuel + 1, i, j, s, t =>
    let b := longest common s t
    if b.size == 0 then []
    else
      blocksFrom common fuel i j (s.take b.first) (t.take b.second) ++
        ⟨i + b.first, j + b.second, b.size⟩ ::
          blocksFrom common fuel (i + b.first + b.size) (j + b.second + b.size)
            (s.drop (b.first + b.size)) (t.drop (b.second + b.size))

/-- The blocks that two lists share, in order. -/
def blocks (s t : List α) : List Block := blocksFrom (isCommon t) (s.length + 1) 0 0 s t

/-- The number of items that two lists share. -/
def shared (s t : List α) : Nat := ((blocks s t).map Block.size).foldl (· + ·) 0

/-! ### Words that may have been meant -/

/-- How close a known word is to a given one: the characters they share and those they have, both
counted in both words. -/
def closeness (word known : String) : Nat × Nat :=
  (2 * shared known.toList word.toList, known.length + word.length)

/-- A closeness of at least three fifths. -/
def isClose (c : Nat × Nat) : Bool := c.2 * 3 ≤ c.1 * 5

/-- One word is at least as good a suggestion as another: closer, or as close and not before it. -/
def suggestsLe (word a b : String) : Bool :=
  let x := closeness word a
  let y := closeness word b
  y.1 * x.2 < x.1 * y.2 || (x.1 * y.2 == y.1 * x.2 && (b < a || b == a))

/-- The most words that are suggested. -/
def maxSuggestions : Nat := 3

/-- The known words that may have been meant, the closest first. -/
def suggestions (word : String) (known : List String) : List String :=
  ((known.filter fun k => isClose (closeness word k)).mergeSort (suggestsLe word)).take
    maxSuggestions

/-- The suggestions in words, in alphabetical order. -/
def suggestionText (words : List String) : String :=
  match words with
  | [] => ""
  | [w] => " Did you mean " ++ Text.quote w ++ "?"
  | ws => " (Did you mean one of: " ++
    Text.joinStrings ", " ((ws.mergeSort fun a b => a < b || a == b).map Text.quote) ++ "?)"

end Retouch.Compare
