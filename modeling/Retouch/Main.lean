import Retouch.CommandLine.Run

/-!
# The program

The program loads the files that its words name, runs the command on them, writes what has changed
and prints what the command said.
-/

namespace Retouch.CommandLine

/-- The words that may name files: each word, and what follows its equals sign. -/
def candidates (words : List String) : List String :=
  words.flatMap fun w => w :: (splitValue w).2.toList

/-- The place that a path leads to from a folder. -/
def placeOf (here : Names) (path : String) : Names :=
  let start := if path.startsWith "/" then [] else here.reverse
  ((Text.splitOn '/' path.toList).foldl (fun inner name =>
    if Directory.isHere name then inner
    else if Directory.isAround name then inner.tail
    else name :: inner) start).reverse

/-- The directory with what a path leads to on disk, if there is anything. -/
def load (d : Directory) (path : String) : IO Directory := do
  try
    let place := placeOf d.here path
    let real ← IO.FS.realPath path
    if ← real.isDir then return { d with folders := d.folders ++ [place] }
    else if ← real.pathExists then
      let bytes ← IO.FS.readBinFile real
      return { d with files := Table.set d.files place bytes.toList }
    else return d
  catch _ => return d

/-- Writes the files that have changed. -/
def store (before after : Directory) : IO Unit := do
  for (names, bytes) in after.files do
    if Table.get? before.files names != some bytes then
      IO.FS.writeBinFile ("/" ++ Directory.pathOf names) ⟨bytes.toArray⟩

end Retouch.CommandLine

open Retouch Retouch.CommandLine in
/-- Runs the command that the words of the command line ask for. -/
def main (words : List String) : IO UInt32 := do
  let folder ← IO.currentDir
  let mut d : Directory := { root := "", here := placeOf [] folder.toString }
  for path in candidates words do
    d ← load d path
  let o := run d words
  store d o.directory
  IO.print (String.ofList o.output)
  IO.eprint (String.ofList o.errors)
  match o.breakdown? with
  | some (.notText path) => IO.eprintln (path ++ " is no text")
  | some (.notWritten fault) => IO.eprintln fault.message
  | some .notAPath => IO.eprintln FileFault.notAPath.message
  | none => pure ()
  return UInt32.ofNat o.exit
