import Retouch.Json.Encoding
import Retouch.Json.Writer
import Retouch.Text.CaseMap

/-!
# Requests and replies

A request names a method and a target, which holds a path and perhaps a host before it and a query
behind it. Its body counts as JSON only if its media type says so. A reply has a status, says whether
pages of other origins may read it, and may hold a JSON value.
-/

namespace Retouch.Http

/-- A request. -/
structure Request where
  /-- The method. -/
  method : String
  /-- The target as it was written. -/
  target : String
  /-- The media type of the body, with its parameters. -/
  mediaType : String := "application/json"
  /-- The body. -/
  body : Text := []
  deriving DecidableEq, Repr

/-- A reply. -/
structure Reply where
  /-- The status. -/
  status : Nat
  /-- Pages of other origins may read the reply. -/
  isShared : Bool := false
  /-- The value in the body, if there is one. -/
  body? : Option Json := none

/-! ### Paths -/

/-- The characters that percent signs stand for, read as bytes; what is no text becomes the
replacement character. -/
def unescapePath : Text → List UInt8
  | [] => []
  | '%' :: a :: b :: rest =>
    match Json.hexValue? a, Json.hexValue? b with
    | some x, some y => UInt8.ofNat (16 * x + y) :: unescapePath rest
    | _, _ => UInt8.ofNat 0x25 :: unescapePath (a :: b :: rest)
  | c :: rest => Utf8.encodeChar c ++ unescapePath rest

/-- The bytes as a text; a piece that is no character becomes the replacement character. -/
def lenientText (bytes : List UInt8) : Text :=
  (Utf8.pieces bytes).map fun p => (Utf8.charOf? p).getD (Char.ofNat 0xFFFD)

/-- The target without a host before the path. -/
def dropHost : Text → Text
  | '/' :: '/' :: rest => rest.dropWhile fun c => !(c == '/' || c == '?' || c == '#')
  | t => t

/-- The path that a target names, with one slash at its start. -/
def pathOf (target : Text) : Text :=
  let path := (dropHost target).takeWhile fun c => !(c == '?' || c == '#')
  '/' :: (lenientText (unescapePath path)).dropWhile (· == '/')

/-- Every pair of slashes replaced by one. -/
def mergeSlashes : Text → Text
  | [] => []
  | '/' :: '/' :: rest => '/' :: mergeSlashes rest
  | c :: rest => c :: mergeSlashes rest

/-! ### Bodies -/

/-- The media type without its parameters, in lower case. -/
def bareMediaType (t : String) : Text :=
  Text.lower (Text.strip (t.toList.takeWhile (· != ';')))

/-- The media type says that a body is JSON. -/
def isJson (t : String) : Bool :=
  let bare := bareMediaType t
  bare == "application/json".toList ||
    (Text.startsWith bare "application/".toList && Text.endsWith bare "+json".toList)

/-- The value that the bytes of a body hold. -/
def readBody? (body : Text) : Option Json := Json.readBytes? (Utf8.encode body)

/-- The brackets of a body that is read as JSON nest too deep. -/
def Request.isTooDeep (r : Request) : Bool := isJson r.mediaType && Json.isTooDeep r.body

/-- The JSON value that a request carries. -/
def Request.json? (r : Request) : Option Json :=
  if isJson r.mediaType then readBody? r.body else none

/-! ### The address of the service -/

/-- Where messages are sent to. -/
def messagesPath : String := "/api/design-mode/messages"

/-- Where the state of the service is asked for. -/
def healthPath : String := "/api/design-mode/health"

end Retouch.Http
