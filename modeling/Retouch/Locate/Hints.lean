import Retouch.Text.Quoted

/-!
# Hints

What is known about an element whose markup is looked for: the selector it had on the page, the line
and column it was reported from, its text and its classes.
-/

namespace Retouch

/-- What is known about an element. -/
structure Hints where
  /-- Its selector on the page. -/
  selector : String := ""
  /-- The line it was reported from, counted from one. -/
  line? : Option Int := none
  /-- The column it was reported from. -/
  column? : Option Int := none
  /-- Its text. -/
  text? : Option String := none
  /-- Its classes. -/
  classes? : Option String := none
  deriving DecidableEq, Repr, Inhabited

namespace Hints

/-- The hints in words. -/
def describe (h : Hints) : String :=
  let line := match h.line? with
    | some n => if n == 0 then [] else ["line=" ++ toString n]
    | none => []
  let text := match h.text? with
    | some t => if t.isEmpty then [] else ["text=" ++ Text.quote (Text.cutString t 30)]
    | none => []
  let classes := match h.classes? with
    | some c => if c.isEmpty then [] else ["class=" ++ Text.quote (Text.cutString c 50)]
    | none => []
  let selector := "selector=" ++ (if h.selector.isEmpty then "-" else h.selector)
  Text.joinStrings ", " (selector :: line ++ text ++ classes)

end Hints

/-- The limits that a search keeps. -/
structure SearchLimits where
  /-- How far before a place the start of its tag is looked for; below zero nothing is found. -/
  lookback : Int := 1000
  /-- How many characters of a text are looked for; below zero so many are left out at its end. -/
  snippetMax : Int := 50
  /-- How many characters a text must have to be looked for. -/
  snippetMin : Int := 3
  deriving DecidableEq, Repr, Inhabited

end Retouch
