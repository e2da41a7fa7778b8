import Retouch.Table
import Retouch.Text.Basic

/-!
# Where a project is kept

The source files of a project are listed and saved through a storage. A save comes with a note, as a
commit does, and may be refused. The storage in memory keeps its files in order of creation and
remembers every save.
-/

namespace Retouch

/-- What a file holds. -/
inductive Contents where
  /-- A text. -/
  | text (t : Text)
  /-- Bytes. -/
  | bytes (b : List UInt8)
  deriving DecidableEq, Repr

/-- A storage of source files. -/
class Storage (σ : Type) where
  /-- The source files, with their paths, in order. -/
  files : σ → Table String Text
  /-- Saves a file with a note; the second part says why the save was refused. -/
  save : σ → String → Contents → String → σ × Option String

namespace Storage

variable {σ : Type} [Storage σ]

/-- The text of the file at a path. -/
def read? (store : σ) (path : String) : Option Text := Table.get? (files store) path

end Storage

/-- A storage in memory. -/
structure Memory where
  /-- The source files. -/
  sources : Table String Text := []
  /-- The files that hold bytes. -/
  binaries : Table String (List UInt8) := []
  /-- Every save so far, by path and note. -/
  commits : List (String × String) := []
  /-- Saves are refused. -/
  refuses : Bool := false
  deriving Inhabited

namespace Memory

/-- Saves a file. -/
def save (m : Memory) (path : String) (contents : Contents) (note : String) :
    Memory × Option String :=
  if m.refuses then (m, some ("save rejected for " ++ path))
  else
    let m := match contents with
      | .text t => { m with sources := Table.set m.sources path t }
      | .bytes b => { m with binaries := Table.set m.binaries path b }
    ({ m with commits := m.commits ++ [(path, note)] }, none)

instance : Storage Memory := ⟨Memory.sources, save⟩

end Memory

end Retouch
