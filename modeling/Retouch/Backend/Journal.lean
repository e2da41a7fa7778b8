import Retouch.Locate.Strategy
import Retouch.Table
import Retouch.Wire.Request

/-!
# The journal of edits

The journal remembers, for the latest edits, the text of the tag before and after, so that an edit can
be taken back and made again to the letter. It holds a limited number of records; the one recorded
longest ago goes first.
-/

namespace Retouch

/-- What an edit did to a tag. -/
structure EditRecord where
  /-- The file. -/
  path : String
  /-- The text of the tag before. -/
  before : Text
  /-- The text of the tag after. -/
  after : Text
  deriving DecidableEq, Repr

/-- The latest edits by their ids, the latest last. -/
structure Journal where
  /-- How many records are kept. -/
  capacity : Nat := 500
  /-- The records in order. -/
  records : Table String EditRecord := []
  deriving Inhabited

namespace Journal

/-- The record of an edit. -/
def get? (j : Journal) (id : String) : Option EditRecord := Table.get? j.records id

/-- The journal with one more edit, which becomes the latest. -/
def record (j : Journal) (id : String) (r : EditRecord) : Journal :=
  let records := Table.erase j.records id ++ [(id, r)]
  { j with records := records.drop (records.length - j.capacity) }

/-- How often a text stands in another one, without overlap; an empty text stands between all
characters. -/
def countFrom (needle : Text) : Nat → Text → Nat
  | _, [] => if needle.isEmpty then 1 else 0
  | skip + 1, _ :: rest => countFrom needle skip rest
  | 0, c :: rest =>
    if Text.startsWith (c :: rest) needle then 1 + countFrom needle (needle.length - 1) rest
    else countFrom needle 0 rest

/-- The source with `wanted` in place of `current`: in the tag that the hints lead to if it reads
`current`, otherwise where `current` stands if it stands there only. -/
def swap? (source current wanted : Text) (hints : Hints) (limits : SearchLimits) : Option Text :=
  let tag? := (Locate.findTag? source hints limits).map (·.1)
  match tag?.filter fun tag => tag.text source == current with
  | some tag => some (Text.splice source tag.start (tag.close + 1) wanted)
  | none =>
    if countFrom current 0 source == 1 then
      (Text.find? current source).map fun i =>
        Text.splice source i (i + current.length) wanted
    else none

/-- The source with a recorded edit taken back or made again; none if that cannot be done to the
letter. -/
def replay? (j : Journal) (id : String) (direction : Direction) (path : String) (source : Text)
    (hints : Hints) (limits : SearchLimits) : Option Text :=
  match (j.get? id).filter fun r => r.path == path with
  | none => none
  | some r =>
    match direction with
    | .undo => swap? source r.after r.before hints limits
    | .redo => swap? source r.before r.after hints limits

end Journal

end Retouch
