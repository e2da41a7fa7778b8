import Retouch.Decimal.Numeral
import Retouch.Table
import Retouch.Text.Quoted

/-!
# JSON values

Messages arrive as JSON values. Whole numbers and numbers with a point or an exponent are kept
apart, and an object keeps its members in the order in which their keys first came. This module has
the values, their look-up, the way they are shown inside messages, and the readings by which a
number or a text is made of any value.
-/

namespace Retouch

/-- A JSON value. -/
inductive Json where
  /-- Nothing. -/
  | null
  /-- A truth value. -/
  | bool (b : Bool)
  /-- A whole number. -/
  | int (n : Int)
  /-- A number written with a point or an exponent. -/
  | float (x : Float)
  /-- A string. -/
  | str (s : String)
  /-- A list of values. -/
  | arr (items : List Json)
  /-- An object: its members in order. -/
  | obj (members : List (String × Json))
  deriving Inhabited

/-- The members of an object. -/
abbrev Members := Table String Json

/-- The value under a key, `null` if there is none. -/
def Members.get (ms : Members) (key : String) : Json := (Table.get? ms key).getD .null

namespace Json

/-- The value is not `null`, false, zero or empty. -/
def truthy : Json → Bool
  | .null => false
  | .bool b => b
  | .int n => n != 0
  | .float x => !(x == 0)
  | .str s => !s.isEmpty
  | .arr items => !items.isEmpty
  | .obj members => !members.isEmpty

/-- The members of an object, of anything else none. -/
def members : Json → Members
  | .obj members => members
  | _ => []

/-- The value is an object. -/
def isObject : Json → Bool
  | .obj _ => true
  | _ => false

/-- A string value. -/
def string? : Json → Option String
  | .str s => some s
  | _ => none

/-- A string, or `null`. -/
def ofString? : Option String → Json
  | some s => .str s
  | none => .null

/-- A natural number. -/
def nat (n : Nat) : Json := .int n

/-- A list of strings. -/
def strings (ss : List String) : Json := .arr (ss.map .str)

/-- The word for the kind of a value in messages. -/
def kind : Json → String
  | .null => "NoneType"
  | .bool _ => "bool"
  | .int _ => "int"
  | .float _ => "float"
  | .str _ => "str"
  | .arr _ => "list"
  | .obj _ => "dict"

/-! ### The text of a value -/

/-- The text of a whole number. -/
def intText (n : Int) : String := toString n

mutual
/-- The text of a value inside another one: strings are quoted. -/
def inner : Json → String
  | .null => "None"
  | .bool true => "True"
  | .bool false => "False"
  | .int n => intText n
  | .float x => String.ofList (Decimal.floatText x)
  | .str s => Text.quote s
  | .arr items => "[" ++ innerItems items ++ "]"
  | .obj members => "\x7b" ++ innerMembers members ++ "\x7d"
/-- The texts of list items, separated by commas. -/
def innerItems : List Json → String
  | [] => ""
  | [v] => inner v
  | v :: rest => inner v ++ ", " ++ innerItems rest
/-- The texts of members, separated by commas. -/
def innerMembers : List (String × Json) → String
  | [] => ""
  | [(k, v)] => Text.quote k ++ ": " ++ inner v
  | (k, v) :: rest => Text.quote k ++ ": " ++ inner v ++ ", " ++ innerMembers rest
end

/-- The text of a value: strings stand for themselves. -/
def text : Json → String
  | .str s => s
  | v => inner v

/-! ### Numbers made of values -/

/-- Why no number can be made of a value. -/
inductive NumberFault where
  /-- A text that spells no whole number. -/
  | badInteger (t : String)
  /-- A text that spells a whole number of too many digits. -/
  | longInteger (digits : Nat)
  /-- A text that spells no number. -/
  | badNumber (t : String)
  /-- A value of a kind that has no whole number. -/
  | noInteger (kind : String)
  /-- A value of a kind that has no number. -/
  | noNumber (kind : String)
  /-- No number in place of a whole number. -/
  | nanInteger
  /-- An infinity in place of a whole number. -/
  | infiniteInteger
  /-- A whole number beyond the floating-point range. -/
  | tooLarge
  deriving DecidableEq

/-- How much of a text that spells no whole number is shown, its opening quote included. -/
def NumberFault.shown : Nat := 200

/-- The wording of a fault. -/
def NumberFault.message : NumberFault → String
  | .badInteger t =>
    "invalid literal for int() with base 10: " ++
      String.ofList ((Text.quoted t.toList).take NumberFault.shown)
  | .longInteger n =>
    "Exceeds the limit (" ++ toString Decimal.maxDigits ++
      " digits) for integer string conversion: value has " ++ toString n ++
      " digits; use sys.set_int_max_str_digits() to increase the limit"
  | .badNumber t => "could not convert string to float: " ++ Text.quote t
  | .noInteger k =>
    "int() argument must be a string, a bytes-like object or a real number, not '" ++ k ++ "'"
  | .noNumber k => "float() argument must be a string or a real number, not '" ++ k ++ "'"
  | .nanInteger => "cannot convert float NaN to integer"
  | .infiniteInteger => "cannot convert float infinity to integer"
  | .tooLarge => "int too large to convert to float"

/-- The value has a number, but it is beyond the range asked for. -/
def NumberFault.isRange : NumberFault → Bool
  | .infiniteInteger | .tooLarge => true
  | _ => false

/-- The whole number of a value: of a floating-point number its part on the side of zero, of a
string what it spells. -/
def toInteger : Json → Except NumberFault Int
  | .bool b => .ok (if b then 1 else 0)
  | .int n => .ok n
  | .float x =>
    match (Decimal.Parts.of x).truncate? with
    | some n => .ok n
    | none => .error (if x.isNaN then .nanInteger else .infiniteInteger)
  | .str s =>
    match Decimal.integerOf s.toList with
    | .ok n => .ok n
    | .error .malformed => .error (.badInteger s)
    | .error (.tooLong digits) => .error (.longInteger digits)
  | v => .error (.noInteger v.kind)

/-- The floating-point number of a value, of a string what it spells. -/
def toNumber : Json → Except NumberFault Float
  | .bool b => .ok (if b then 1 else 0)
  | .int n =>
    match Decimal.floatOfInt? n with
    | some x => .ok x
    | none => .error .tooLarge
  | .float x => .ok x
  | .str s =>
    match Decimal.floatOf? s.toList with
    | some x => .ok x
    | none => .error (.badNumber s)
  | v => .error (.noNumber v.kind)

end Json

end Retouch
