import Retouch.Base64
import Retouch.Project.Path
import Retouch.Text.Digit
import Retouch.Text.Latin
import Retouch.Upload.FileType

/-!
# Uploaded files

The bytes of an upload come as base 64, with or without the head of a data address. The file gets a
name of plain characters, so that it is one component of a path and nothing else.
-/

namespace Retouch.Upload

open Retouch.Text

/-- A character of a type in a data address. -/
def isTypeChar (c : Char) : Bool := isWord c || c == '.' || c == '+' || c == '-'

/-- The data after the head `data:<type>/<type>;base64,` of a data address. -/
def afterHead? (t : Text) : Option Text := do
  let rest ← dropHead? "data:".toList t
  let major := rest.takeWhile isTypeChar
  let rest ← dropHead? ['/'] (rest.drop major.length)
  let minor := rest.takeWhile isTypeChar
  let rest ← dropHead? ";base64,".toList (rest.drop minor.length)
  if major.isEmpty || minor.isEmpty then none else some rest

/-- The bytes of a payload. -/
def decode? (payload : String) : Option (List UInt8) :=
  let body := strip payload.toList
  Base64.decode? ((afterHead? body).getD body)

/-- How many more pieces than characters a declared size allows for, so that there is room for the
head of a data address. -/
def headAllowance : Int := 128

/-- The most pieces that a declared size can need: one character a piece. -/
def maxPieces (size : Int) : Int := 4 * -(Int.fdiv (-size) 3) + headAllowance

/-- A character that a file name may hold. -/
def isFileChar (c : Char) : Bool :=
  ('a' ≤ c && c ≤ 'z') || ('A' ≤ c && c ≤ 'Z') || ('0' ≤ c && c ≤ '9') ||
    c == '_' || c == '.' || c == '-'

/-- Dots and underscores, which no file name starts or ends with. -/
def isEdgeChar (c : Char) : Bool := c == '.' || c == '_'

/-- The name in plain characters: accents dropped, slashes and blanks turned to single underscores,
anything else left out. -/
def safeName (name : Text) : Text :=
  let plain := (latin name).map fun c => if c == '/' then ' ' else c
  let kept := (join ['_'] (words plain)).filter isFileChar
  ((kept.dropWhile isEdgeChar).reverse.dropWhile isEdgeChar).reverse

/-- The name under which an upload is kept: the start of its id, a hyphen and its own name, with an
ending. -/
def assetName (upload fileName mimeType : String) : String :=
  let safe := safeName fileName.toList
  let name := if safe.isEmpty then "image".toList else safe
  let full := if (Path.ending name).isEmpty then name ++ (endingFor mimeType).toList else name
  String.ofList (upload.toList.take 8 ++ '-' :: full)

end Retouch.Upload
