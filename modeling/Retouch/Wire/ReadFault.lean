import Retouch.Json.Value

/-!
# Why a message cannot be read

A message that carries a known type may still be malformed. The causes are those of the protocol
itself and those of the values in it: something is no number, or cannot be gone through item by item.
When a whole message is read, a bad value makes the message malformed; only a number beyond its range
stays what it is.
-/

namespace Retouch.Wire

/-- What a message does against the protocol. -/
inductive ProtocolError where
  /-- Something is not an object. -/
  | notAnObject (what : String)
  /-- Something is not a string. -/
  | notAString (what : String)
  /-- Something is not a list. -/
  | notAList (what : String)
  /-- Something is not there, or empty. -/
  | required (what : String)
  /-- Something is not a string, or empty. -/
  | notFilled (what : String)
  /-- The element of a hover message is not there. -/
  | elementMissing
  /-- The entries of a list are not objects. -/
  | entriesNotObjects
  /-- The line or column of a position is no number. -/
  | badPosition
  /-- The counters of an upload are no integers. -/
  | badCounters
  /-- The direction of a step in the history is unknown. -/
  | unknownDirection (direction : String)
  /-- A value in a message of the given type is of no use. -/
  | malformed (type cause : String)
  deriving DecidableEq

/-- The wording of an error. -/
def ProtocolError.message : ProtocolError → String
  | .notAnObject what => what ++ " must be an object"
  | .notAString what => what ++ " must be a string"
  | .notAList what => what ++ " must be a list"
  | .required what => what ++ " is required"
  | .notFilled what => what ++ " must be a non-empty string"
  | .elementMissing => "element is required (may be null)"
  | .entriesNotObjects => "failed entries must be objects"
  | .badPosition => "sourceLocation has non-numeric positions"
  | .badCounters => "chunkIndex and totalChunks must be integers"
  | .unknownDirection d => "unknown history direction " ++ Text.quote d
  | .malformed type cause => "Malformed " ++ type ++ " message: " ++ cause

/-- Why a message, or a part of it, cannot be read. -/
inductive ReadFault where
  /-- It goes against the protocol. -/
  | protocol (e : ProtocolError)
  /-- A value has no number. -/
  | number (f : Json.NumberFault)
  /-- A value of the given kind has no items. -/
  | notIterable (kind : String)
  deriving DecidableEq

/-- The outcome of reading a part of a message. -/
abbrev Read (α : Type) := Except ReadFault α

namespace ReadFault

/-- A bad value makes the message of the given type malformed; a number beyond its range does not. -/
def within (type : String) : ReadFault → ReadFault
  | .protocol e => .protocol e
  | .number f => if f.isRange then .number f else .protocol (.malformed type f.message)
  | .notIterable kind =>
    .protocol (.malformed type ("'" ++ kind ++ "' object is not iterable"))

end ReadFault

/-! ### Parts of messages -/

/-- Fails against the protocol. -/
def refuse {α : Type} (e : ProtocolError) : Read α := .error (.protocol e)

/-- The whole number of a value. -/
def readInteger (v : Json) : Read Int := v.toInteger.mapError .number

/-- The number of a value. -/
def readNumber (v : Json) : Read Float := v.toNumber.mapError .number

/-- A string that may be missing; an empty one counts as missing. -/
def readString? (ms : Members) (key : String) : Read (Option String) :=
  match Members.get ms key with
  | .null => .ok none
  | .str s => .ok (if s.isEmpty then none else some s)
  | _ => refuse (.notAString key)

/-- A string that must be there, empty or not. -/
def readAnyString (ms : Members) (key : String) : Read String :=
  match Members.get ms key with
  | .str s => .ok s
  | _ => refuse (.required key)

/-- A string that must be there and not empty. -/
def readString (ms : Members) (key : String) : Read String :=
  match Members.get ms key with
  | .str s => if s.isEmpty then refuse (.required key) else .ok s
  | _ => refuse (.required key)

/-- A truth value, with a value for a missing one. -/
def readBool (ms : Members) (key : String) (missing : Bool) : Bool :=
  match Table.get? ms key with
  | some v => v.truthy
  | none => missing

/-- The text of a value; nothing, zero and empty values have none. -/
def readText (ms : Members) (key : String) : String :=
  let v := Members.get ms key
  if v.truthy then v.text else ""

/-- The items of a value: of a list its items, of a string its characters, of an object its keys;
nothing, zero and empty values have none. -/
def readItems (v : Json) : Read (List Json) :=
  if !v.truthy then .ok []
  else match v with
    | .arr items => .ok items
    | .str s => .ok (s.toList.map fun c => .str (String.singleton c))
    | .obj members => .ok (members.map fun m => .str m.1)
    | v => .error (.notIterable v.kind)

/-- A map from names to texts; nothing has no text. Anything but an object is empty. -/
def readTexts (v : Json) : Table String String :=
  v.members.map fun (k, v) =>
    (k, match v with
      | .null => ""
      | v => v.text)

/-- A map from names to texts as an object. -/
def textsJson (m : Table String String) : Json := .obj (m.map fun (k, v) => (k, .str v))

/-- A member that is left out if there is no value. -/
def member? (key : String) (value : Option String) : Members :=
  match value with
  | some s => [(key, .str s)]
  | none => []

end Retouch.Wire
