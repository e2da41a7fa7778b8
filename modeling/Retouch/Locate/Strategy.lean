import Retouch.Locate.Hints
import Retouch.Markup.Enclosing

/-!
# Finding the markup of an element

Four strategies look for the opening tag that an element was rendered from. They are tried in a
fixed order, and the first tag counts: the tag on the reported line, the tag with the id that the
selector names, the tag around the first place of the text, and the tag whose class list holds one of
the most telling classes.
-/

namespace Retouch

open Retouch.Text Retouch.Markup

/-- A way to find an opening tag. -/
inductive Strategy where
  /-- By the reported line and column. -/
  | lineNumber
  /-- By the id that the selector names. -/
  | selectorId
  /-- By the text. -/
  | textContent
  /-- By the classes. -/
  | classAttribute
  deriving DecidableEq, Repr

namespace Strategy

/-- The name of a strategy. -/
def label : Strategy → String
  | .lineNumber => "line_number"
  | .selectorId => "selector_id"
  | .textContent => "text_content"
  | .classAttribute => "class_attribute"

/-- The strategies in the order in which they are tried. -/
def all : List Strategy := [.lineNumber, .selectorId, .textContent, .classAttribute]

end Strategy

namespace Locate

/-! ### By line -/

/-- The tag at one of two offsets of a line that a column may mean, counted from one or from zero. -/
def tagAtColumn? (source : Text) (first last : Nat) (column : Int) : Option Tag :=
  let columns : List Int := [first + column - 1, first + column]
  columns.findSome? fun (i : Int) => if first ≤ i && i < last then readTag? source i.toNat else none

/-- The tag at the reported column, or else the last one that starts on the reported line or
shortly before. -/
def byLine (source : Text) (hints : Hints) (limits : SearchLimits) : Option Tag :=
  match hints.line? with
  | none => none
  | some line =>
    if line == 0 then none
    else match lineSpan? source line with
      | none => none
      | some (first, last) =>
        let exactly := match hints.column? with
          | some column => if column == 0 then none else tagAtColumn? source first last column
          | none => none
        match exactly with
        | some tag => some tag
        | none =>
          (bracketsBefore source (reachFrom first limits.lookback) (last + 1)).findSome?
            (readTag? source)

/-! ### By id -/

/-- The first character of an id in a selector. -/
def isIdStart (c : Char) : Bool := isNameStart c || c == '_'

/-- A word character or a hyphen. -/
def isWordOrHyphen (c : Char) : Bool := isWord c || c == '-'

/-- The first id that a selector names. -/
def selectorId? : Text → Option Text
  | [] => none
  | [_] => none
  | a :: b :: rest =>
    if a == '#' && isIdStart b then some (b :: rest.takeWhile isWordOrHyphen)
    else selectorId? (b :: rest)

/-- An attribute name and equals sign at the start of a text: what follows them and the blanks
after. -/
def afterName? (name : Text) (t : Text) : Option Text :=
  (dropHead? name t).bind fun rest =>
    match stripStart rest with
    | '=' :: rest => some (stripStart rest)
    | _ => none

/-- An attribute that gives the literal id starts the text. -/
def isIdAttribute (id : Text) (t : Text) : Bool :=
  match afterName? "id".toList t with
  | none => false
  | some rest =>
    let body := match rest with
      | '{' :: inside => stripStart inside
      | _ => rest
    match body with
    | q :: rest => isQuote q && (dropHead? id rest).any fun after => after.head?.any isQuote
    | [] => false

/-- The offsets at which no word goes on and `p` holds of what follows; `before` is the character in
front, `i` the offset. -/
def wordStarts (p : Text → Bool) : Option Char → Nat → Text → List Nat
  | _, _, [] => []
  | before, i, c :: rest =>
    if !before.any isWordOrHyphen && p (c :: rest) then i :: wordStarts p (some c) (i + 1) rest
    else wordStarts p (some c) (i + 1) rest

/-- The offsets of attributes that give the literal id. -/
def idAttributes (source id : Text) : List Nat := wordStarts (isIdAttribute id) none 0 source

/-- The tag around the first attribute that gives the id of the selector. -/
def byId (source : Text) (hints : Hints) (limits : SearchLimits) : Option Tag :=
  match selectorId? hints.selector.toList with
  | none => none
  | some id => (idAttributes source id).findSome? fun i => tagContaining? source i limits.lookback

/-! ### By text -/

/-- A text cut to a length; below zero, a text without so many characters at its end. -/
def cutTo (n : Int) (t : Text) : Text :=
  if n < 0 then t.take (t.length - (-n).toNat) else t.take n.toNat

/-- The part of a text that is looked for: single blanks, cut to the limit. -/
def snippet? (text? : Option String) (limits : SearchLimits) : Option Text :=
  match text? with
  | none => none
  | some text =>
    if text.isEmpty then none
    else
      let snippet := strip (cutTo limits.snippetMax (join [' '] (words text.toList)))
      if snippet.length < limits.snippetMin then none else some snippet

/-- The words, with blanks between them, at the start of a text: how many characters they take. -/
def matchWords? : List Text → Text → Option Nat
  | [], _ => some 0
  | [word], t => (dropHead? word t).map fun _ => word.length
  | word :: more, t =>
    (dropHead? word t).bind fun rest =>
      let gap := (rest.takeWhile isBlank).length
      if gap == 0 then none
      else (matchWords? more (rest.drop gap)).map (word.length + gap + ·)

/-- The spans of the words, with blanks between them, one after the other without overlap; `skip`
counts characters of a span still to be passed over, `i` is the offset. -/
def wordSpansFrom (ws : List Text) : Nat → Nat → Text → List (Nat × Nat)
  | 0, i, [] => (matchWords? ws []).toList.map fun n => (i, i + n)
  | _ + 1, _, [] => []
  | skip + 1, i, _ :: rest => wordSpansFrom ws skip (i + 1) rest
  | 0, i, c :: rest =>
    match matchWords? ws (c :: rest) with
    | some n => (i, i + n) :: wordSpansFrom ws (n - 1) (i + 1) rest
    | none => wordSpansFrom ws 0 (i + 1) rest

/-- The offsets at which a snippet stands, whatever the blanks between its words. -/
def snippetPlaces (source snippet : Text) : List Nat :=
  (wordSpansFrom (splitOn ' ' snippet) 0 0 source).map (·.1)

/-- The tag around the first place of the text that lies in an element. -/
def byText (source : Text) (hints : Hints) (limits : SearchLimits) : Option Tag :=
  match snippet? hints.text? limits with
  | none => none
  | some snippet => (snippetPlaces source snippet).findSome? (enclosingTag? source)

/-! ### By class -/

/-- Classes with one of these words in them are telling. -/
def tellingWords : List String :=
  ["gradient", "display", "hero", "heading", "title", "tabular", "balance"]

/-- Font classes that tell nothing. -/
def commonFonts : List String := ["font-normal", "font-medium", "font-bold", "font-semibold"]

/-- Classes that start like this tell nothing. -/
def genericStarts : List String := [
  "flex", "grid", "block", "hidden", "relative", "absolute", "w-", "h-", "p-", "m-", "items-",
  "justify-", "gap-", "space-"]

/-- Classes that tell nothing. -/
def genericClasses : List String := [
  "flex", "grid", "block", "hidden", "relative", "absolute", "inline", "inline-block",
  "inline-flex", "container", "wrapper"]

/-- A class that tells much about its element. -/
def isTelling (c : Text) : Bool :=
  tellingWords.any (fun w => has c w.toList) ||
    (startsWith c "font-".toList && !commonFonts.contains (String.ofList c))

/-- A class that tells little: it is common or short. -/
def isGeneric (c : Text) : Bool :=
  genericClasses.contains (String.ofList c) || genericStarts.any (fun g => startsWith c g.toList) ||
    c.length ≤ 3

/-- The classes without those of the editor itself, the telling ones first, without repetition and
without those that tell little. -/
def rankClasses (classes : Text) : List Text :=
  let cs := (words classes).filter fun c => !startsWith c "liveedit-".toList
  let telling := cs.filter isTelling
  let others := cs.filter fun c => !isGeneric c && !telling.contains c
  (telling ++ others).foldl (fun ranked c => if ranked.contains c then ranked else ranked ++ [c]) []

/-- The names of a class attribute. -/
def classNames : List Text := ["className".toList, "class".toList]

/-- A class attribute starts the text. -/
def isClassAttribute (t : Text) : Bool :=
  classNames.any fun name => (dropHead? name t).any fun rest => (stripStart rest).head? == some '='

/-- The tags with a literal class attribute and their classes, by the places of the attributes. -/
def classCandidates (source : Text) (limits : SearchLimits) : List (Tag × List Text) :=
  (wordStarts isClassAttribute none 0 source).filterMap fun i => do
    let tag ← tagContaining? source i limits.lookback
    let a ← findAttribute? source tag classNames
    if a.isLiteral && a.start == i then some (tag, words (a.value source)) else none

/-- The first tag that has the most telling class that any tag has. -/
def byClass (source : Text) (hints : Hints) (limits : SearchLimits) : Option Tag :=
  match hints.classes? with
  | none => none
  | some classes =>
    let candidates := classCandidates source limits
    (rankClasses classes.toList).findSome? fun c =>
      (candidates.find? fun candidate => candidate.2.contains c).map (·.1)

/-! ### In order -/

/-- The tag that one strategy finds. -/
def byStrategy : Strategy → Text → Hints → SearchLimits → Option Tag
  | .lineNumber => byLine
  | .selectorId => byId
  | .textContent => byText
  | .classAttribute => byClass

/-- The tag that the first successful strategy finds, and the strategy. -/
def findTag? (source : Text) (hints : Hints) (limits : SearchLimits) : Option (Tag × Strategy) :=
  Strategy.all.findSome? fun s => (byStrategy s source hints limits).map (·, s)

end Locate

end Retouch
