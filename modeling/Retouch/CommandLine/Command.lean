import Retouch.CommandLine.Option
import Retouch.Locate.Location
import Retouch.Style.Change
import Retouch.Upload.Reassembly

/-!
# Commands

The editor can be used from a command line: to see where an element is written, to change its styles,
to replace a text, and to serve a project. This module declares the commands with their options and
reads a command from words.
-/

namespace Retouch.CommandLine

/-! ### What can be asked for -/

/-- How verbose the program is, from all to nothing but errors. -/
def logLevels : List String := ["debug", "info", "warning", "error"]

/-- How a project is served. -/
structure Serving where
  /-- The folder of the project. -/
  root : String := "."
  /-- The name or number of the host. -/
  host : String := "127.0.0.1"
  /-- The port. -/
  port : Int := 5100
  /-- Where uploads are kept, from the root on. -/
  uploadFolder : String := ({} : Upload.Limits).folder
  /-- How verbose the program is. -/
  logLevel : String := "INFO"
  /-- The service tells more about its faults. -/
  isDebugged : Bool := false
  deriving DecidableEq, Repr

/-- What becomes of a source text that is changed. -/
inductive Disposal where
  /-- It is written to its file. -/
  | write
  /-- The difference is shown. -/
  | show
  deriving DecidableEq, Repr

/-- What the program is asked to do. -/
inductive Command where
  /-- To say which version it is. -/
  | version
  /-- To explain a command. -/
  | help (command : CommandSpec)
  /-- To serve a project. -/
  | serve (serving : Serving)
  /-- To say where an attribute of an element is written. -/
  | locate (path : String) (hints : Hints) (target : AttributeTarget)
  /-- To change styles of an element. -/
  | applyStyle (path : String) (changes : List StyleChange) (hints : Hints) (disposal : Disposal)
  /-- To replace a text. -/
  | replaceText (path old new : String) (hints : Hints) (disposal : Disposal)
  deriving DecidableEq, Repr

/-! ### Declarations -/

/-- The option that asks for an explanation. -/
def helpOption : OptionSpec := ⟨"--help", "help", some "on", .word⟩

/-- The options by which an element is described. -/
def hintOptions : List OptionSpec := [
  ⟨"--line", "line", none, .whole⟩, ⟨"--column", "column", none, .whole⟩,
  ⟨"--text", "text", none, .word⟩, ⟨"--selector", "selector", none, .word⟩,
  ⟨"--class-name", "classes", none, .word⟩]

/-- The option to show what would be written. -/
def showOption : OptionSpec := ⟨"--dry-run", "show", some "on", .word⟩

/-- The argument for a source file. -/
def sourceArgument : ArgumentSpec := ⟨"SOURCE", .file, false⟩

/-- The program itself, whose argument is a command. -/
def programSpec : CommandSpec where
  name := "liveedit"
  options := [⟨"--version", "version", some "on", .word⟩,
    ⟨"--log-level", "level", none, .choice logLevels⟩, helpOption]
  isGroup := true

/-- The command to serve a project. -/
def serveSpec : CommandSpec where
  name := "serve"
  options := [⟨"--root", "root", none, .folder⟩, ⟨"--host", "host", none, .word⟩,
    ⟨"--port", "port", none, .whole⟩, ⟨"--upload-dir", "uploads", none, .word⟩,
    ⟨"--debug", "debug", some "on", .word⟩, ⟨"--no-debug", "debug", some "off", .word⟩, helpOption]

/-- The command to find an element. -/
def locateSpec : CommandSpec where
  name := "locate"
  options := hintOptions ++ [⟨"--style", "target", some "style", .word⟩,
    ⟨"--class", "target", some "class", .word⟩, helpOption]
  arguments := [sourceArgument]

/-- The command to change styles. -/
def applyStyleSpec : CommandSpec where
  name := "apply-style"
  options := hintOptions ++ [⟨"--inline", "inline", some "on", .word⟩, showOption, helpOption]
  arguments := [sourceArgument, ⟨"CHANGES...", .word, true⟩]

/-- The command to replace a text. -/
def replaceTextSpec : CommandSpec where
  name := "replace-text"
  options := hintOptions ++ [showOption, helpOption]
  arguments := [sourceArgument, ⟨"OLD_TEXT", .word, false⟩, ⟨"NEW_TEXT", .word, false⟩]

/-- The commands. -/
def commandSpecs : List CommandSpec := [applyStyleSpec, locateSpec, replaceTextSpec, serveSpec]

/-! ### Reading -/

/-- Why words are refused, and by which command. -/
structure Refusal where
  /-- The command. -/
  command : CommandSpec
  /-- Why it refuses the words. -/
  fault : UsageFault
  deriving DecidableEq, Repr

/-- What a command is given by words that fit it; or the question among them that is answered in
place of the command, the first one if there are two. -/
def CommandSpec.read (c : CommandSpec) (d : Directory) (words : List String) :
    Except Refusal (Command ⊕ Given) :=
  match c.scan {} words with
  | .error fault => .error ⟨c, fault⟩
  | .ok g =>
    match g.options.findSome? fun (field, _) =>
        if field == "help" then some (Command.help c)
        else if field == "version" then some Command.version
        else none with
    | some question => .ok (.inl question)
    | none =>
      match c.fault? d g with
      | some fault => .error ⟨c, fault⟩
      | none => .ok (.inr g)

namespace Given

/-- The description of an element. -/
def hints (g : Given) : Hints where
  selector := (g.value? "selector").getD ""
  line? := (g.value? "line").bind whole?
  column? := (g.value? "column").bind whole?
  text? := g.value? "text"
  classes? := g.value? "classes"

/-- What becomes of the changed source text. -/
def disposal (g : Given) : Disposal := if g.isOn "show" then .show else .write

/-- The argument at a place. -/
def argument (g : Given) (i : Nat) : String := g.arguments.getD i ""

/-- The attribute that is looked for. -/
def target (g : Given) : AttributeTarget :=
  if g.value? "target" == some "style" then .style else .classes

/-- How a project is served, at a level of verbosity. -/
def serving (g : Given) (level : String) : Serving :=
  let base : Serving := {}
  { root := (g.value? "root").getD base.root
    host := (g.value? "host").getD base.host
    port := ((g.value? "port").bind whole?).getD base.port
    uploadFolder := ((g.value? "uploads").filter (!·.isEmpty)).getD base.uploadFolder
    logLevel := level
    isDebugged := g.isOn "debug" }

end Given

/-- A style change written as a property, an equals sign and a value. -/
def readChange (usesInline : Bool) (word : String) : Except UsageFault StyleChange :=
  match splitValue word with
  | (property, some value) =>
    if property.isEmpty then .error (.badChange word)
    else .ok ⟨Text.stripString property, "", Text.stripString value, usesInline⟩
  | (_, none) => .error (.badChange word)

/-- A command from what it is given, at a level of verbosity. -/
def CommandSpec.command (c : CommandSpec) (level : String) (g : Given) :
    Except UsageFault Command :=
  if c == serveSpec then .ok (.serve (g.serving level))
  else if c == locateSpec then .ok (.locate (g.argument 0) g.hints g.target)
  else if c == replaceTextSpec then
    .ok (.replaceText (g.argument 0) (g.argument 1) (g.argument 2) g.hints g.disposal)
  else
    ((g.arguments.drop 1).mapM (readChange (g.isOn "inline"))).map fun changes =>
      .applyStyle (g.argument 0) changes g.hints g.disposal

/-- A letter or a digit starts a word that cannot be an option. -/
def startsPlain (word : String) : Bool :=
  match word.toList with
  | [] => true
  | c :: _ => Text.isAlphanumeric c

/-- The command that words ask for. A word in the place of a command that looks like an option is
read as an option of the program first. -/
def readCommand (d : Directory) (words : List String) : Except Refusal Command := do
  match ← programSpec.read d words with
  | .inl question => .ok question
  | .inr g =>
    let level := String.ofList (Text.upper ((g.value? "level").getD "info").toList)
    match g.arguments with
    | [] => .error ⟨programSpec, .noCommand⟩
    | name :: rest =>
      match commandSpecs.find? (·.name == name) with
      | some c =>
        match ← c.read d rest with
        | .inl question => .ok question
        | .inr g => (c.command level g).mapError (⟨c, ·⟩)
      | none =>
        let unknown : UsageFault :=
          .noSuchCommand name (Compare.suggestions name (commandSpecs.map (·.name)))
        if startsPlain name then .error ⟨programSpec, unknown⟩
        else
          match ← programSpec.read d (name :: rest) with
          | .inl question => .ok question
          | .inr _ => .error ⟨programSpec, unknown⟩

end Retouch.CommandLine
