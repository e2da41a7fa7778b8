import Retouch.Locate.Location
import Retouch.Project.Path
import Retouch.Project.Storage
import Retouch.Wire.Position

/-!
# Which file holds an element

An element is looked for in the file that it is reported from. If the project has no such file, its
source files are searched: by the text of the element, by its id, and by its most telling classes.
Component files are searched before any others.
-/

namespace Retouch

open Retouch.Text

/-- A file: its path and its text. -/
abbrev SourceFile := String × Text

namespace Resolution

/-! ### The files to search -/

/-- The endings of source files. -/
def sourceEndings : List String := [".tsx", ".jsx", ".ts", ".js", ".html", ".vue", ".svelte"]

/-- A file that holds a component. -/
def isComponent (path : String) : Bool := [".tsx", ".jsx"].contains (Path.endingString path)

/-- The files with one of the given endings, components first. -/
def searched (files : List SourceFile) (endings : List String) : List SourceFile :=
  let sources := files.filter fun f => endings.contains (Path.endingString f.1)
  sources.filter (fun f => isComponent f.1) ++ sources.filter (fun f => !isComponent f.1)

/-! ### The file that is named -/

/-- The first of the reported paths that leads to a file. -/
def named? (files : List SourceFile) (paths : List (Option String)) : Option SourceFile :=
  (paths.filterMap id).findSome? fun reported =>
    if reported.isEmpty then none
    else
      let path := Path.normalizeString reported
      (Table.get? files path).map (path, ·)

/-! ### The file that fits -/

/-- The first file that holds a text, whatever the blanks between its words. -/
def byText? (files : List SourceFile) (text? : Option String) (limits : SearchLimits) :
    Option SourceFile :=
  match Locate.snippet? text? limits with
  | none => none
  | some snippet =>
    if snippet.isEmpty then none
    else files.find? fun f => !(Locate.snippetPlaces f.2 snippet).isEmpty

/-- The first file with an attribute that gives the id of the selector. -/
def byId? (files : List SourceFile) (selector : String) : Option SourceFile :=
  match Locate.selectorId? selector.toList with
  | none => none
  | some id => files.find? fun f => !(Locate.idAttributes f.2 id).isEmpty

/-- A word starts the text, and no word character or hyphen follows. -/
def isWholeWord (word t : Text) : Bool :=
  (dropHead? word t).any fun rest => !rest.head?.any Locate.isWordOrHyphen

/-- How many of an element's classes are looked for. -/
def classReach : Nat := 3

/-- The first file that mentions the most telling class that any file mentions. -/
def byClasses? (files : List SourceFile) (classes? : Option String) : Option SourceFile :=
  ((Locate.rankClasses (classes?.getD "").toList).take classReach).findSome? fun c =>
    files.find? fun f => !(Locate.wordStarts (isWholeWord c) none 0 f.2).isEmpty

/-- The file that holds an element. -/
def resolve (files : List SourceFile) (endings : List String) (path? : Option String)
    (position? : Option SourcePosition) (hints : Hints) (limits : SearchLimits) :
    Except LocateError SourceFile :=
  let sources := searched files endings
  let found := named? files [path?, position?.map (·.path)]
    <|> byText? sources hints.text? limits
    <|> byId? sources hints.selector
    <|> byClasses? sources hints.classes?
  match found with
  | some file => .ok file
  | none => .error (.fileUnknown hints.selector)

end Resolution

end Retouch
