import Retouch.Compare.Blocks
import Retouch.Json.Value
import Retouch.Project.Directory

/-!
# Options and arguments

A command takes options, which start with a hyphen, and arguments. An option stands for a constant, or
its value follows it, behind an equals sign or as the next word; given twice, the later value counts.
After two hyphens there are arguments only. Words that do not fit are refused before any value is
looked at; values are looked at in the order in which they were given, and arguments after options.
-/

namespace Retouch.CommandLine

/-! ### Values -/

/-- What a value may be. -/
inductive ValueKind where
  /-- Any word. -/
  | word
  /-- A whole number. -/
  | whole
  /-- One of some words, in any case. -/
  | choice (words : List String)
  /-- The path of a file. -/
  | file
  /-- The path of a folder. -/
  | folder
  deriving DecidableEq, Repr

/-- Why a value is refused. -/
inductive ValueFault where
  /-- It is no whole number. -/
  | notWhole (value : String)
  /-- It is none of the words. -/
  | notAmong (value : String) (words : List String)
  /-- There is no such file. -/
  | noFile (path : String)
  /-- It is a folder. -/
  | isFolder (path : String)
  /-- There is no such folder. -/
  | noFolder (path : String)
  /-- It is a file. -/
  | isFile (path : String)
  /-- It is no path at all. -/
  | notAPath
  deriving DecidableEq, Repr

/-- The fault in words. -/
def ValueFault.message : ValueFault → String
  | .notWhole value => Text.quote value ++ " is not a valid integer."
  | .notAmong value words =>
    Text.quote value ++ " is not one of " ++ Text.joinStrings ", " (words.map Text.quote) ++ "."
  | .noFile path => "File " ++ Text.quote path ++ " does not exist."
  | .isFolder path => "File " ++ Text.quote path ++ " is a directory."
  | .noFolder path => "Directory " ++ Text.quote path ++ " does not exist."
  | .isFile path => "Directory " ++ Text.quote path ++ " is a file."
  | .notAPath => FileFault.notAPath.message

/-- The whole number that a word spells. -/
def whole? (value : String) : Option Int := (Json.toInteger (.str value)).toOption

/-- A word in lower case. -/
def lowered (s : String) : String := String.ofList (Text.lower s.toList)

/-- Why a value of a kind is refused. -/
def ValueKind.fault? (d : Directory) (value : String) : ValueKind → Option ValueFault
  | .word => none
  | .whole => if (whole? value).isSome then none else some (.notWhole value)
  | .choice words =>
    if words.contains (lowered value) then none else some (.notAmong value words)
  | .file =>
    if !Directory.isPath value then some .notAPath
    else
      match d.find? value with
      | none => some (.noFile value)
      | some (_, .folder) => some (.isFolder value)
      | some (_, .file _) => none
  | .folder =>
    if !Directory.isPath value then some .notAPath
    else
      match d.find? value with
      | none => some (.noFolder value)
      | some (_, .file _) => some (.isFile value)
      | some (_, .folder) => none

/-! ### Declarations -/

/-- An option. Options of one field exclude each other: the later one counts. -/
structure OptionSpec where
  /-- The option as it is written. -/
  name : String
  /-- What it sets. -/
  field : String
  /-- What it stands for, if no value follows it. -/
  constant? : Option String := none
  /-- What its value may be. -/
  kind : ValueKind := .word
  deriving DecidableEq, Repr

/-- An argument. -/
structure ArgumentSpec where
  /-- Its name in messages. -/
  name : String
  /-- What its value may be. -/
  kind : ValueKind := .word
  /-- It takes all the words that are left, of which there is at least one. -/
  isMany : Bool := false
  deriving DecidableEq, Repr

/-- A command. -/
structure CommandSpec where
  /-- How it is called. -/
  name : String
  /-- Its options. -/
  options : List OptionSpec
  /-- Its arguments. -/
  arguments : List ArgumentSpec := []
  /-- The first argument is a command of its own, to which all further words belong. -/
  isGroup : Bool := false
  deriving DecidableEq, Repr

/-- Why words are refused. -/
inductive UsageFault where
  /-- An option that the command does not take. -/
  | noSuchOption (name : String) (meant : List String)
  /-- A command that there is not. -/
  | noSuchCommand (name : String) (meant : List String)
  /-- There is no command. -/
  | noCommand
  /-- The value of an option is missing. -/
  | needsValue (name : String)
  /-- An option that takes no value has one. -/
  | takesNoValue (name : String)
  /-- An argument is missing. -/
  | missingArgument (name : String)
  /-- There are too many arguments. -/
  | extraArguments (arguments : List String)
  /-- The value of an option or an argument is refused. -/
  | badValue (name : String) (fault : ValueFault)
  /-- A change that is not written as a property and a value. -/
  | badChange (change : String)
  deriving DecidableEq, Repr

/-- The fault in words. -/
def UsageFault.message : UsageFault → String
  | .noSuchOption name meant =>
    "No such option " ++ Text.quote name ++ "." ++ Compare.suggestionText meant
  | .noSuchCommand name meant =>
    "No such command " ++ Text.quote name ++ "." ++ Compare.suggestionText meant
  | .noCommand => "Missing command."
  | .needsValue name => "Option " ++ Text.quote name ++ " requires an argument."
  | .takesNoValue name => "Option " ++ Text.quote name ++ " does not take a value."
  | .missingArgument name => "Missing argument '" ++ name ++ "'."
  | .extraArguments arguments =>
    "Got unexpected extra argument" ++ (if arguments.length == 1 then "" else "s") ++ " (" ++
      Text.joinStrings " " arguments ++ ")"
  | .badValue name fault => "Invalid value for '" ++ name ++ "': " ++ fault.message
  | .badChange change =>
    "Invalid value for CHANGES: expected PROPERTY=VALUE, got " ++ Text.quote change

/-! ### Reading words -/

/-- What a command is given. -/
structure Given where
  /-- The values of the options by field, with the options, in the order in which the fields were
  first given. -/
  options : Table String (OptionSpec × String) := []
  /-- The arguments. -/
  arguments : List String := []
  deriving DecidableEq, Repr

namespace Given

/-- What a field is set to. -/
def value? (g : Given) (field : String) : Option String :=
  (Table.get? g.options field).map (·.2)

/-- A field is set to a constant. -/
def isOn (g : Given) (field : String) : Bool := g.value? field == some "on"

/-- An option with its value. -/
def set (g : Given) (o : OptionSpec) (value : String) : Given :=
  { g with options := Table.set g.options o.field (o, value) }

end Given

/-- A word that is read as an option. -/
def isOption (word : String) : Bool :=
  match word.toList with
  | '-' :: _ :: _ => true
  | _ => false

/-- The part of a word before its first equals sign, and the part after it. -/
def splitValue (word : String) : String × Option String :=
  let name := word.toList.takeWhile (· != '=')
  (String.ofList name, match word.toList.drop name.length with
    | _ :: value => some (String.ofList value)
    | [] => none)

/-- The option that a word stands for, and the value behind its equals sign. An unknown option with
one hyphen is read letter by letter, so its first letter is what is refused. -/
def CommandSpec.option? (c : CommandSpec) (word : String) :
    Except UsageFault (OptionSpec × Option String) :=
  let (name, value?) := splitValue word
  match c.options.find? (·.name == name) with
  | some o => .ok (o, value?)
  | none =>
    if word.startsWith "--" then
      .error (.noSuchOption name (Compare.suggestions name (c.options.map (·.name))))
    else .error (.noSuchOption (Text.cutString word 2) [])

/-- The words of a command, sorted into options and arguments. -/
def CommandSpec.scan (c : CommandSpec) (g : Given) : List String → Except UsageFault Given
  | [] => .ok g
  | word :: rest =>
    if word == "--" then .ok { g with arguments := g.arguments ++ rest }
    else if !isOption word then
      if c.isGroup then .ok { g with arguments := g.arguments ++ word :: rest }
      else scan c { g with arguments := g.arguments ++ [word] } rest
    else
      match c.option? word with
      | .error fault => .error fault
      | .ok (o, value?) =>
        match o.constant?, value? with
        | some _, some _ => .error (.takesNoValue o.name)
        | some constant, none => scan c (g.set o constant) rest
        | none, some value => scan c (g.set o value) rest
        | none, none =>
          match rest with
          | value :: rest => scan c (g.set o value) rest
          | [] => .error (.needsValue o.name)

/-! ### Checking values -/

/-- Why a value is refused, under the name of what it was given for. -/
def refusal? (d : Directory) (name : String) (kind : ValueKind) (value : String) :
    Option UsageFault :=
  (kind.fault? d value).map (.badValue name)

/-- Why arguments do not fit. -/
def argumentFault? (d : Directory) : List ArgumentSpec → List String → Option UsageFault
  | [], [] => none
  | [], extra => some (.extraArguments extra)
  | a :: _, [] => some (.missingArgument a.name)
  | a :: more, value :: rest =>
    if a.isMany then (value :: rest).findSome? (refusal? d a.name a.kind)
    else (refusal? d a.name a.kind value) <|> argumentFault? d more rest

/-- Why what a command is given does not fit. -/
def CommandSpec.fault? (c : CommandSpec) (d : Directory) (g : Given) : Option UsageFault :=
  (g.options.findSome? fun (_, o, value) => refusal? d o.name o.kind value) <|>
    (if c.isGroup then none else argumentFault? d c.arguments g.arguments)

end Retouch.CommandLine
