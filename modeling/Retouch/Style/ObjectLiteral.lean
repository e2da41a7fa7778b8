import Retouch.Json.Writer
import Retouch.Style.Change
import Retouch.Style.Property
import Retouch.Text.Digit

/-!
# Style objects

An inline style in code is an object literal. It can be edited as long as it is plain: members are
pairs of a name or string and a value, or spreads, and values are strings, numbers, templates without
substitutions, or names joined by dots.

A text is cut into tokens, and an automaton reads the members off the tokens.
-/

namespace Retouch.Style

open Retouch.Text

/-- One member of a style object. -/
structure StyleEntry where
  /-- The key as it is written; none for a spread. -/
  key? : Option Text
  /-- The value as it is written; a spread with its dots. -/
  raw : Text
  deriving DecidableEq, Repr

namespace StyleEntry

/-- The name that a key gives: a quoted key without its quotes. -/
def nameOfKey : Text → Text
  | '"' :: rest => rest.dropLast
  | '\'' :: rest => rest.dropLast
  | key => key

/-- The name of the property that a member sets. -/
def name? (e : StyleEntry) : Option Text := e.key?.map nameOfKey

/-- A member as text. -/
def text (e : StyleEntry) : Text :=
  match e.key? with
  | none => e.raw
  | some key => key ++ ':' :: ' ' :: e.raw

end StyleEntry

namespace ObjectLiteral

/-! ### Tokens -/

/-- A token of an object literal. -/
inductive Token where
  /-- An opening brace. -/
  | opening
  /-- A closing brace. -/
  | closing
  /-- A comma. -/
  | comma
  /-- A colon. -/
  | colon
  /-- A dot. -/
  | dot
  /-- Three dots. -/
  | spread
  /-- A name. -/
  | name (t : Text)
  /-- A string in quotes, quotes included. -/
  | string (t : Text)
  /-- A number or a template. -/
  | constant (t : Text)
  deriving DecidableEq, Repr

/-- The blanks between tokens. -/
def isSpace (c : Char) : Bool :=
  c == ' ' || c == '\t' || c == '\n' || c == '\r' || c.toNat == 12

/-- The first character of a name. -/
def isNameStart (c : Char) : Bool := isCapital c || isSmall c || c == '_' || c == '$'

/-- A later character of a name. -/
def isNameChar (c : Char) : Bool := isWord c || c == '$'

/-- The length of a string up to and with its closing quote; a backslash covers the next character,
which must not be a line feed. -/
def stringLength? (quote : Char) : Text → Option Nat
  | [] => none
  | '\\' :: c :: rest => if c == '\n' then none else (stringLength? quote rest).map (· + 2)
  | c :: rest =>
    if c == '\\' then none
    else if c == quote then some 1
    else (stringLength? quote rest).map (· + 1)

/-- The length of a template up to and with its closing quote; it holds no dollar sign. -/
def templateLength? (t : Text) : Option Nat :=
  let n := (t.takeWhile fun c => c != '\x60' && c != '$').length
  if t[n]? == some '\x60' then some (n + 1) else none

/-- The length of an exponent at the start of a text; zero if there is none. -/
def exponentLength : Text → Nat
  | c :: rest =>
    if c == 'e' || c == 'E' then
      let sign := match rest with
        | '+' :: _ => 1
        | '-' :: _ => 1
        | _ => 0
      let n := ((rest.drop sign).takeWhile isFigure).length
      if n == 0 then 0 else 1 + sign + n
    else 0
  | [] => 0

/-- The length of a number at the start of a text. -/
def numberLength? (t : Text) : Option Nat :=
  let sign := match t with
    | '+' :: _ => 1
    | '-' :: _ => 1
    | _ => 0
  let body := t.drop sign
  let whole := (body.takeWhile isFigure).length
  let digits := match body.drop whole with
    | '.' :: rest =>
      let fraction := (rest.takeWhile isFigure).length
      if whole == 0 && fraction == 0 then 0 else whole + 1 + fraction
    | _ => whole
  if digits == 0 then none else some (sign + digits + exponentLength (body.drop digits))

/-- The token at the start of a text that starts with no blank, and its length. -/
def tokenAt? (t : Text) : Option (Token × Nat) :=
  match t with
  | [] => none
  | c :: rest =>
    if c == '{' then some (.opening, 1)
    else if c == '}' then some (.closing, 1)
    else if c == ',' then some (.comma, 1)
    else if c == ':' then some (.colon, 1)
    else if startsWith t ['.', '.', '.'] then some (.spread, 3)
    else if isNameStart c then
      let tail := rest.takeWhile isNameChar
      some (.name (c :: tail), tail.length + 1)
    else if c == '"' || c == '\'' then
      (stringLength? c rest).map fun n => (.string (t.take (n + 1)), n + 1)
    else if c == '\x60' then
      (templateLength? rest).map fun n => (.constant (t.take (n + 1)), n + 1)
    else match numberLength? t with
      | some n => some (.constant (t.take n), n)
      | none => if c == '.' then some (.dot, 1) else none

/-- The tokens of a text; `skip` counts characters of a token still to be passed over. -/
def tokensFrom? : Nat → Text → Option (List Token)
  | _, [] => some []
  | skip + 1, _ :: rest => tokensFrom? skip rest
  | 0, c :: rest =>
    if isSpace c then tokensFrom? 0 rest
    else match tokenAt? (c :: rest) with
      | some (token, n) => (tokensFrom? (n - 1) rest).map (token :: ·)
      | none => none

/-! ### Members -/

/-- What the automaton has read of the object. -/
inductive State where
  /-- Nothing. -/
  | start
  /-- The opening brace, or a comma after a member. -/
  | members
  /-- The opening brace alone. -/
  | opened
  /-- The key of a member. -/
  | key (key : Text)
  /-- The key and the colon. -/
  | value (key : Text)
  /-- Dots that a name must follow, after what is in hand of the value. -/
  | needsName (key? : Option Text) (raw : Text)
  /-- A name that dots may follow. -/
  | reference (key? : Option Text) (raw : Text)
  /-- A member that is complete. -/
  | complete (entry : StyleEntry)
  /-- The closing brace. -/
  | closed

/-- The state after a token that ends the member `entry`. -/
def afterEntry (entry : StyleEntry) (next : Token) : Option (List StyleEntry × State) :=
  match next with
  | .comma => some ([entry], .members)
  | .closing => some ([entry], .closed)
  | _ => none

/-- The members completed by a token, and the state after it. -/
def step : State → Token → Option (List StyleEntry × State)
  | .start, .opening => some ([], .opened)
  | .opened, .closing => some ([], .closed)
  | .members, .closing => some ([], .closed)
  | .opened, .name t => some ([], .key t)
  | .members, .name t => some ([], .key t)
  | .opened, .string t => some ([], .key t)
  | .members, .string t => some ([], .key t)
  | .opened, .spread => some ([], .needsName none ['.', '.', '.'])
  | .members, .spread => some ([], .needsName none ['.', '.', '.'])
  | .key k, .colon => some ([], .value k)
  | .value k, .string t => some ([], .complete ⟨some k, t⟩)
  | .value k, .constant t => some ([], .complete ⟨some k, t⟩)
  | .value k, .name t => some ([], .reference (some k) t)
  | .needsName k raw, .name t => some ([], .reference k (raw ++ t))
  | .reference k raw, .dot => some ([], .needsName k (raw ++ ['.']))
  | .reference k raw, token => afterEntry ⟨k, raw⟩ token
  | .complete entry, token => afterEntry entry token
  | _, _ => none

/-- The members read off tokens from a state on; the object must be closed at the end. -/
def run : State → List Token → Option (List StyleEntry)
  | .closed, [] => some []
  | _, [] => none
  | s, token :: rest =>
    match step s token with
    | some (entries, s') => (run s' rest).map (entries ++ ·)
    | none => none

/-- The members of a style object. -/
def read? (t : Text) : Option (List StyleEntry) := (tokensFrom? 0 (strip t)).bind (run .start)

/-- Members as a style object. -/
def write (entries : List StyleEntry) : Text :=
  if entries.isEmpty then ['{', '}']
  else '{' :: ' ' :: join [',', ' '] (entries.map StyleEntry.text) ++ [' ', '}']

/-! ### Changes -/

/-- The name can stand without quotes; a line feed at its end does no harm. -/
def isIdentifier (name : Text) : Bool :=
  match dropFinalBreak name with
  | [] => false
  | c :: rest => isNameStart c && rest.all isNameChar

/-- A name as a key: quoted unless it is an identifier. -/
def keyText (name : Text) : Text := if isIdentifier name then name else Json.asciiStringText name

/-- A value as a string: in single quotes if nothing in it needs an escape. -/
def valueText (value : Text) : Text :=
  if value.contains '\'' || value.contains '\\' || value.contains '\n' then Json.stringText value
  else '\'' :: value ++ ['\'']

/-- The members with the first one of a name set to a value, or set at the end. -/
def set (name value : Text) : List StyleEntry → List StyleEntry
  | [] => [⟨some (keyText name), valueText value⟩]
  | e :: rest =>
    if e.name? == some name then ⟨some (keyText name), valueText value⟩ :: rest
    else e :: set name value rest

/-- The members without the first one of a name. -/
def erase (name : Text) : List StyleEntry → List StyleEntry
  | [] => []
  | e :: rest => if e.name? == some name then rest else e :: erase name rest

/-- A change folded into members. -/
def apply (entries : List StyleEntry) (change : StyleChange) : List StyleEntry :=
  let name := camelCase change.property.toList
  let value := strip change.newValue.toList
  if value.isEmpty then erase name entries else set name value entries

end ObjectLiteral

/-- The members of a style object, or why it cannot be edited. -/
def parseStyleObject (t : Text) : Except ConversionError (List StyleEntry) :=
  match ObjectLiteral.read? t with
  | some entries => .ok entries
  | none => .error (.notPlainObject (String.ofList t))

/-- Changes folded into a style object; a blank text stands for an empty one. -/
def applyToStyleObject (t : Text) (changes : List StyleChange) : Except ConversionError Text := do
  let entries ← if isBlankText t then .ok [] else parseStyleObject t
  .ok (ObjectLiteral.write (changes.foldl ObjectLiteral.apply entries))

end Retouch.Style
