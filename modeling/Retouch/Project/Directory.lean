import Retouch.Project.Path
import Retouch.Project.Storage
import Retouch.Text.Basic
import Retouch.Text.Quoted
import Retouch.Text.Utf8

/-!
# A project on disk

A directory holds files as bytes under the names that lead to them. Listing its source files leaves
out folders that hold no sources, files of other endings and files that are no text; a text is read
with line feeds only. Saving makes the folders on the way and writes a text as it is. A save that
leads out of the directory is refused, and so is one that the file system refuses.
-/

namespace Retouch

/-- Why a file system refuses a path. -/
inductive FileFault where
  /-- The path leads out of the directory. -/
  | escapes (path : String)
  /-- A file stands where a folder is to be made. -/
  | exists (path : String)
  /-- A file stands on the way. -/
  | notFolder (path : String)
  /-- A folder stands where a file is to be written. -/
  | isFolder (path : String)
  /-- A name or the whole path is too long. -/
  | tooLong (path : String)
  /-- The text is no path: it holds a null character. -/
  | notAPath
  deriving DecidableEq, Repr

namespace FileFault

/-- A fault by its number and words, with the path it is about. -/
def describe (number : Nat) (words path : String) : String :=
  "[Errno " ++ toString number ++ "] " ++ words ++ ": " ++ Text.quote path

/-- The fault in words. -/
def message : FileFault → String
  | .escapes path => "Path escapes project root: " ++ path
  | .exists path => describe 17 "File exists" path
  | .notFolder path => describe 20 "Not a directory" path
  | .isFolder path => describe 21 "Is a directory" path
  | .tooLong path => describe 36 "File name too long" path
  | .notAPath => "embedded null byte"

end FileFault

/-- The names that lead to a file or a folder, the outermost first. -/
abbrev Names := List Text

/-- What stands at a place of a directory. -/
inductive Entry where
  /-- A file. -/
  | file (bytes : List UInt8)
  /-- A folder. -/
  | folder
  deriving DecidableEq, Repr

/-- A directory. -/
structure Directory where
  /-- How the directory itself is called. -/
  root : String := "."
  /-- The endings of the files that are listed. -/
  endings : List String := [".tsx", ".jsx", ".ts", ".js", ".html"]
  /-- The files. -/
  files : Table Names (List UInt8) := []
  /-- The folders that were made on their own. -/
  folders : List Names := []
  /-- The folder in which paths start that are looked up. -/
  here : Names := []

namespace Directory

/-! ### Looking -/

/-- The names below the root as a path. -/
def pathOf (names : Names) : String := String.ofList (Text.join ['/'] names)

/-- The place with the root before it, as faults show it. -/
def fullPath (d : Directory) (names : Names) : String :=
  if names.isEmpty then d.root else d.root ++ "/" ++ pathOf names

/-- A folder stands at a place: one that was made, or one on the way to it, to a file, or to where
paths start; the root above all. -/
def hasFolder (d : Directory) (names : Names) : Bool :=
  names.isPrefixOf d.here || d.folders.any (names.isPrefixOf ·) ||
    d.files.any fun f => names.isPrefixOf f.1 && f.1 != names

/-- What stands at a place. -/
def entry? (d : Directory) (names : Names) : Option Entry :=
  match Table.get? d.files names with
  | some bytes => some (.file bytes)
  | none => if d.hasFolder names then some .folder else none

/-- The most bytes that a name may have. -/
def maxNameBytes : Nat := 255

/-- A name is too long. -/
def isTooLong (name : Text) : Bool := (Utf8.encode name).length > maxNameBytes

/-- The most bytes that a path may have. -/
def maxPathBytes : Nat := 4095

/-- How many bytes of a path are left to the path of the root. -/
def rootBytes : Nat := 16

/-- The path of a place below the root is too long. -/
def isTooFar (names : Names) : Bool :=
  names.foldl (fun size name => size + 1 + (Utf8.encode name).length) rootBytes > maxPathBytes

/-- A text is a path if it holds no null character. -/
def isPath (path : String) : Bool := !path.toList.contains (Char.ofNat 0)

/-- How far the way to a place leads: to the place itself, to nothing, or to a fault. -/
inductive Way where
  /-- The folder around the place is there. -/
  | clear
  /-- A folder on the way is missing. -/
  | missing
  /-- A file stands on the way. -/
  | blocked
  /-- A name on the way or the last one is too long, or the whole path is. -/
  | tooLong
  deriving DecidableEq, Repr

/-- The way from the folder `at` along names. -/
def wayFrom (d : Directory) : Names → Names → Way
  | _, [] => .clear
  | _, [last] => if isTooLong last then .tooLong else .clear
  | here, name :: rest =>
    if isTooLong name then .tooLong
    else
      match d.entry? (here ++ [name]) with
      | some .folder => wayFrom d (here ++ [name]) rest
      | some (.file _) => .blocked
      | none => .missing

/-- The way to a place. -/
def way (d : Directory) (names : Names) : Way :=
  if isTooFar names then .tooLong else wayFrom d [] names

/-- A name that stands for the folder it is looked up in. -/
def isHere (name : Text) : Bool := name.isEmpty || name == ['.']

/-- A name that stands for the folder around the one it is looked up in. -/
def isAround (name : Text) : Bool := name == ['.', '.']

/-- What names lead to from a folder, which is given innermost first, and its place. Around the
root there is the root again. -/
def findFrom (d : Directory) : Names → List Text → Option (Names × Entry)
  | inner, [] => some (inner.reverse, .folder)
  | inner, name :: rest =>
    if isHere name then findFrom d inner rest
    else if isAround name then findFrom d inner.tail rest
    else
      match d.entry? (name :: inner).reverse with
      | some (.file bytes) =>
        if rest.isEmpty then some ((name :: inner).reverse, .file bytes) else none
      | some .folder => findFrom d (name :: inner) rest
      | none => none

/-- What a path leads to, and its place. A path starts at the root if a slash comes first. -/
def find? (d : Directory) (path : String) : Option (Names × Entry) :=
  if path.utf8ByteSize > maxPathBytes then none
  else
    match path.toList with
    | [] => none
    | '/' :: rest => findFrom d [] (Text.splitOn '/' rest)
    | t => findFrom d d.here.reverse (Text.splitOn '/' t)

/-! ### Listing -/

/-- The folders that hold no sources. -/
def skipped : List String :=
  ["node_modules", ".git", "dist", "build", ".next", "__pycache__", ".venv"]

/-- A file that is listed by its place. -/
def isSource (d : Directory) (names : Names) : Bool :=
  !(names.any fun n => skipped.contains (String.ofList n)) &&
    d.endings.contains (String.ofList (Path.endingOf (names.getLastD [])))

/-- One text comes before another or is equal to it, by the codes of their characters. -/
def textLe : Text → Text → Bool
  | [], _ => true
  | _ :: _, [] => false
  | a :: s, b :: t => if a == b then textLe s t else a.toNat < b.toNat

/-- One place comes before another or is equal to it, name by name. -/
def placeLe : Names → Names → Bool
  | [], _ => true
  | _ :: _, [] => false
  | a :: s, b :: t => if a == b then placeLe s t else textLe a b

/-- A file read as a text. -/
def readText? (bytes : List UInt8) : Option Text := (Utf8.decode? bytes).map Text.unifyBreaks

/-- The source files in order of their places. -/
def sources (d : Directory) : Table String Text :=
  ((d.files.filter fun f => d.isSource f.1).mergeSort fun f g => placeLe f.1 g.1).filterMap fun f =>
    (readText? f.2).map fun t => (pathOf f.1, t)

/-! ### Saving -/

/-- The names that a path leads along from the root, the innermost first; nothing if it leads out
of the root. -/
def resolveFrom : Names → List Text → Option Names
  | inner, [] => some inner
  | inner, name :: rest =>
    if isHere name then resolveFrom inner rest
    else if isAround name then
      match inner with
      | [] => none
      | _ :: outer => resolveFrom outer rest
    else resolveFrom (name :: inner) rest

/-- The place of a path below the root. -/
def resolve? (path : String) : Option Names :=
  (resolveFrom [] (Text.splitOn '/' path.toList)).map List.reverse

/-- Makes a folder, and those around it that are missing. The names are given innermost first. -/
def makeFolder (d : Directory) : Names → Directory × Option FileFault
  | [] => (d, none)
  | name :: outer =>
    let names := (name :: outer).reverse
    let path := d.fullPath names
    match d.way names with
    | .blocked => (d, some (.notFolder path))
    | .tooLong => (d, some (.tooLong path))
    | .clear =>
      match d.entry? names with
      | some .folder => (d, none)
      | some (.file _) => (d, some (.exists path))
      | none => ({ d with folders := d.folders ++ [names] }, none)
    | .missing =>
      match makeFolder d outer with
      | (d, some fault) => (d, some fault)
      | (d, none) =>
        if isTooLong name then (d, some (.tooLong path))
        else ({ d with folders := d.folders ++ [names] }, none)

/-- Writes a file whose folder is there. -/
def write (d : Directory) (names : Names) (bytes : List UInt8) : Directory × Option FileFault :=
  if isTooFar names || names.any isTooLong then (d, some (.tooLong (d.fullPath names)))
  else
    match d.entry? names with
    | some .folder => (d, some (.isFolder (d.fullPath names)))
    | _ => ({ d with files := Table.set d.files names bytes }, none)

/-- What a file of some contents holds. -/
def bytesOf : Contents → List UInt8
  | .text t => Utf8.encode t
  | .bytes b => b

/-- Saves a file below the root, with the folders on the way. -/
def save (d : Directory) (path : String) (contents : Contents) : Directory × Option FileFault :=
  if !isPath path then (d, some .notAPath)
  else
    match resolve? path with
    | none => (d, some (.escapes path))
    | some names =>
      match d.makeFolder names.reverse.tail with
      | (d, some fault) => (d, some fault)
      | (d, none) => d.write names (bytesOf contents)

/-- The files that another directory has not, or not with these bytes. -/
def changesSince (d before : Directory) : Table Names (List UInt8) :=
  d.files.filter fun f => Table.get? before.files f.1 != some f.2

instance : Storage Directory :=
  ⟨sources, fun d path contents _ =>
    let (d, fault?) := d.save path contents
    (d, fault?.map FileFault.message)⟩

end Directory

end Retouch
