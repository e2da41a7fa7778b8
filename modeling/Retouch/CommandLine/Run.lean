import Retouch.CommandLine.Command
import Retouch.Compare.Unified
import Retouch.Patch.Replacement
import Retouch.Patch.Styles

/-!
# Running commands

A command reads one source file, with line feeds only, and either reports on it, writes it back, or
shows what it would write. What a command says goes to the output, what it says about its own work goes
to the error output, both without control sequences for a terminal and with line feeds alone at the ends
of lines. The exit code tells whether the command did anything: 0 if so, 1 if not, 2 if it was not
understood.
-/

namespace Retouch.CommandLine

/-! ### Output -/

/-- The character that starts a control sequence. -/
def escape : Char := Char.ofNat 0x1B

/-- A character that stands between the start and the end of a control sequence. -/
def isParameter (c : Char) : Bool := ('0' ≤ c && c ≤ '9') || c == ';' || c == '?'

/-- A character that ends a control sequence. -/
def isFinal (c : Char) : Bool := ('a' ≤ c && c ≤ 'z') || ('A' ≤ c && c ≤ 'Z')

/-- The text without control sequences; the accumulator holds the characters that may become one,
the last of them first. -/
def plainFrom : Text → Text → Text
  | held, [] => held.reverse
  | held, c :: rest =>
    if c == escape then held.reverse ++ plainFrom [escape] rest
    else
      match held with
      | [] => c :: plainFrom [] rest
      | [_] => if c == '[' then plainFrom [c, escape] rest else escape :: c :: plainFrom [] rest
      | _ =>
        if isParameter c then plainFrom (c :: held) rest
        else if isFinal c then plainFrom [] rest
        else held.reverse ++ c :: plainFrom [] rest

/-- The text without control sequences, and without a carriage return before a line feed. -/
def plain (t : Text) : Text := Text.replace ['\r', '\n'] ['\n'] (plainFrom [] t)

/-- Why a command broke off. -/
inductive Breakdown where
  /-- A source file is no text. -/
  | notText (path : String)
  /-- A source file could not be written. -/
  | notWritten (fault : FileFault)
  /-- A word in the place of a path is no path. -/
  | notAPath
  deriving DecidableEq, Repr

/-- What has come of a command. -/
structure Outcome where
  /-- The files. -/
  directory : Directory
  /-- The exit code. -/
  exit : Nat := 0
  /-- What it said. -/
  output : Text := []
  /-- What it said about its work. -/
  errors : Text := []
  /-- How a project is served from now on. -/
  serving? : Option Serving := none
  /-- Why it broke off. -/
  breakdown? : Option Breakdown := none

namespace Outcome

/-- Something more is said. -/
def print (o : Outcome) (t : Text) : Outcome := { o with output := o.output ++ plain t }

/-- A line more is said. -/
def say (o : Outcome) (line : String) : Outcome := o.print (line.toList ++ ['\n'])

/-- A line more is said about the work. -/
def note (o : Outcome) (line : String) : Outcome :=
  { o with errors := o.errors ++ plain (line.toList ++ ['\n']) }

/-- The command has failed. -/
def fail (o : Outcome) : Outcome := { o with exit := 1 }

/-- The command has failed for a reason, after trying some ways. -/
def failWith (o : Outcome) (reason : String) (tried : List String) : Outcome :=
  let o := o.fail.note ("Error: " ++ reason)
  if tried.isEmpty then o else o.note ("Tried: " ++ Text.joinStrings ", " tried)

/-- The command has broken off. -/
def breakOff (o : Outcome) (b : Breakdown) : Outcome := { o with exit := 1, breakdown? := some b }

end Outcome

/-! ### Source files -/

/-- A source file in use. -/
structure SourceFile where
  /-- Its path as it is shown. -/
  path : String
  /-- Its place. -/
  names : Names
  /-- Its text. -/
  text : Text
  deriving DecidableEq, Repr

namespace SourceFile

/-- The name of the file. -/
def name (f : SourceFile) : String := String.ofList (Path.fileName f.path.toList)

/-- The file holds markup as a browser reads it. -/
def isMarkup (f : SourceFile) : Bool := Path.isMarkup f.name

/-- The source file at a path; why it cannot be read. -/
def read (d : Directory) (path : String) : Except Breakdown SourceFile :=
  match d.find? path with
  | some (names, .file bytes) =>
    match Directory.readText? bytes with
    | some text => .ok ⟨String.ofList (Path.tidy path.toList), names, text⟩
    | none => .error (.notText path)
  | _ => .error (.notText path)

/-- Writes a new text to the file, or shows what would change. -/
def dispose (f : SourceFile) (o : Outcome) (new : Text) : Disposal → Outcome
  | .show => o.print (Compare.unified ("a/" ++ f.name) ("b/" ++ f.name) f.text new)
  | .write =>
    match o.directory.write f.names (Utf8.encode new) with
    | (directory, none) => ({ o with directory } : Outcome).say ("Updated " ++ f.path)
    | (directory, some fault) => ({ o with directory } : Outcome).breakOff (.notWritten fault)

end SourceFile

/-! ### Commands -/

/-- The command with the words it is called by. -/
def calling (c : CommandSpec) : String := if c.isGroup then c.name else programSpec.name ++ " " ++ c.name

/-- How a command is called. -/
def usage (c : CommandSpec) : String :=
  Text.joinStrings " " (["Usage:", calling c, "[OPTIONS]"] ++
    (if c.isGroup then ["COMMAND", "[ARGS]..."] else c.arguments.map (·.name)))

/-- The version of the program. -/
def versionText : String := "0.1.0"

/-- The limits that a search keeps on the command line. -/
def limits : SearchLimits := {}

/-- Says where an attribute of an element is written. -/
def runLocate (o : Outcome) (f : SourceFile) (hints : Hints) (target : AttributeTarget) : Outcome :=
  match Locate.locate f.text hints target limits f.isMarkup with
  | .error e => o.failWith e.message e.attempted
  | .ok place =>
    let line := Markup.lineOf f.text place.tag.start
    let strategy := (place.strategy?.map Strategy.label).getD ""
    (((o.say ("strategy:  " ++ strategy)).say
      ("tag:       <" ++ String.ofList place.tag.name ++ "> at line " ++ toString line)).say
      ("attribute: " ++ String.ofList place.attributeName ++ " (" ++ place.kind.label ++ ")")).say
      ("value:     " ++ String.ofList (Text.quoted place.current))

/-- Changes styles of an element. -/
def runApplyStyle (o : Outcome) (f : SourceFile) (changes : List StyleChange) (hints : Hints)
    (disposal : Disposal) : Outcome :=
  match Patch.applyStyleChanges f.text changes hints limits f.isMarkup with
  | .error e => o.failWith e.message e.attempted
  | .ok patch =>
    let o := patch.applied.foldl (fun o change => o.note ("applied  " ++ change)) o
    let o := patch.failed.foldl
      (fun o (property, reason) => o.note ("failed   " ++ property ++ ": " ++ reason)) o
    let o := if patch.changed then f.dispose o patch.modified disposal else o
    if patch.applied.isEmpty then o.fail else o

/-- A description of an element that says where to look for it. -/
def pointsSomewhere (hints : Hints) : Bool :=
  hints.line?.any (· != 0) || !hints.selector.isEmpty || hints.classes?.any (!·.isEmpty)

/-- Where a text is looked for first: at the element, if it is described and found. -/
def anchor? (source : Text) (hints : Hints) : Option Int :=
  if pointsSomewhere hints then (Locate.findTag? source hints limits).map fun (tag, _) => tag.start
  else none

/-- Replaces a text. -/
def runReplaceText (o : Outcome) (f : SourceFile) (old new : String) (hints : Hints)
    (disposal : Disposal) : Outcome :=
  match Patch.replaceText f.text old.toList new.toList (anchor? f.text hints) f.isMarkup with
  | .error e => o.failWith e.message []
  | .ok patch =>
    f.dispose (o.note ("replaced " ++ patch.context.label ++ " text at offset " ++
      toString patch.start)) patch.modified disposal

/-- Goes on with a source file, if it can be read. -/
def withSource (o : Outcome) (path : String) (go : SourceFile → Outcome) : Outcome :=
  match SourceFile.read o.directory path with
  | .ok f => go f
  | .error b => o.breakOff b

/-- Runs a command on the files of a directory. -/
def Command.run (d : Directory) : Command → Outcome
  | .version => ({ directory := d } : Outcome).say (programSpec.name ++ ", version " ++ versionText)
  | .help c => ({ directory := d } : Outcome).say (usage c)
  | .serve serving =>
    ({ directory := d, serving? := some serving } : Outcome).say
      ("Serving design mode for " ++ serving.root ++ " on " ++ serving.host ++ ":" ++
        toString serving.port)
  | .locate path hints target =>
    withSource { directory := d } path fun f => runLocate { directory := d } f hints target
  | .applyStyle path changes hints disposal =>
    withSource { directory := d } path fun f =>
      runApplyStyle { directory := d } f changes hints disposal
  | .replaceText path old new hints disposal =>
    withSource { directory := d } path fun f =>
      runReplaceText { directory := d } f old new hints disposal

/-- Runs the command that words ask for. -/
def run (d : Directory) (words : List String) : Outcome :=
  match readCommand d words with
  | .ok command => command.run d
  | .error ⟨_, .badValue _ .notAPath⟩ => ({ directory := d } : Outcome).breakOff .notAPath
  | .error ⟨c, fault⟩ =>
    ((({ directory := d, exit := 2 } : Outcome).note (usage c)).note
      ("Try '" ++ calling c ++ " --help' for help.\n")).note ("Error: " ++ fault.message)

end Retouch.CommandLine
