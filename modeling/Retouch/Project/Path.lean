import Retouch.Text.Basic

/-!
# Project paths

Paths are reported by tools that run inside a container and have to be brought back to paths of the
project. A path is taken apart at its slashes; a file's kind is the ending of its last part.
-/

namespace Retouch.Path

open Retouch.Text

/-! ### Paths of the project -/

/-- What follows the first slash after a non-empty run of characters that satisfy `p`, up to the end
of the line; nothing if that is empty. -/
def afterFolder? (p : Char → Bool) (t : Text) : Option Text :=
  let folder := t.takeWhile p
  match t.drop folder.length with
  | '/' :: rest =>
    let tail := rest.takeWhile (· != '\n')
    if folder.isEmpty || tail.isEmpty then none else some tail
  | _ => none

/-- The first path that follows `head` and a folder of characters that satisfy `p`. -/
def firstAfter? (head : Text) (p : Char → Bool) : Text → Option Text
  | [] => none
  | c :: rest =>
    match (dropHead? head (c :: rest)).bind (afterFolder? p) with
    | some tail => some tail
    | none => firstAfter? head p rest

/-- A character of an instance's number. -/
def isInstanceChar (c : Char) : Bool := ('a' ≤ c && c ≤ 'f') || ('0' ≤ c && c ≤ '9') || c == '-'

/-- A path reported from inside a container as a path of the project: what follows a workspace and
its folder, an instance's before any other, or the path without the folder of the app or without its
first slash. -/
def normalize (t : Text) : Text :=
  match firstAfter? "/workspace/i-".toList isInstanceChar t with
  | some tail => tail
  | none =>
    match firstAfter? "/workspace/".toList (· != '/') t with
    | some tail => tail
    | none =>
      match dropHead? "/app/".toList t with
      | some tail => tail
      | none => if startsWith t "/src/".toList then t.drop 1 else t

/-- A reported path as a path of the project. -/
def normalizeString (s : String) : String := String.ofList (normalize s.toList)

/-! ### Parts and endings -/

/-- The root that a path starts with: exactly two slashes are a root of their own. -/
def rootOf : Text → Text
  | '/' :: '/' :: '/' :: _ => ['/']
  | '/' :: '/' :: _ => ['/', '/']
  | '/' :: _ => ['/']
  | _ => []

/-- The names along a path, empty ones and dots left out. -/
def names (t : Text) : List Text := (splitOn '/' t).filter fun n => !(n.isEmpty || n == ['.'])

/-- The root, if there is one, and the names. -/
def parts (t : Text) : List Text :=
  if (rootOf t).isEmpty then names t else rootOf t :: names t

/-- A path without empty names and dots; a single dot if nothing is left. -/
def tidy (t : Text) : Text :=
  match rootOf t ++ join ['/'] (names t) with
  | [] => ['.']
  | tidied => tidied

/-- The last name of a path. -/
def fileName (t : Text) : Text := (names t).getLastD []

/-- The ending of a name from its last dot on; a dot at either end is none. -/
def endingOf (name : Text) : Text :=
  let tail := (name.reverse.takeWhile (· != '.')).reverse
  if tail.isEmpty || name.length ≤ tail.length + 1 then [] else '.' :: tail

/-- The ending of a path's last name. -/
def ending (t : Text) : Text := endingOf (fileName t)

/-- The ending of a path. -/
def endingString (s : String) : String := String.ofList (ending s.toList)

/-- The endings of files whose markup is written as a browser reads it. -/
def markupEndings : List String := [".html", ".vue", ".svelte"]

/-- The file holds markup as a browser reads it. -/
def isMarkup (s : String) : Bool := markupEndings.contains (endingString s)

/-- The address under which a file is served: a first folder `public` is left out. -/
def publicAddress (s : String) : String :=
  let ps := match parts s.toList with
    | first :: rest => if first == "public".toList then rest else first :: rest
    | [] => []
  String.ofList ('/' :: join ['/'] ps)

end Retouch.Path
