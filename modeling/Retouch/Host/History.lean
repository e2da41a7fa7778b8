import Retouch.Style.Change
import Retouch.Wire.Position

/-!
# The history of edits

Edits in the order in which they were made, and how many of them are in effect. Taking an edit back
and making it again move that boundary; a new edit drops everything beyond it.
-/

namespace Retouch

/-- An edit: changes to one element, and what it takes to find the element in the source again. -/
structure HistoryEntry where
  /-- The id of the edit. -/
  id : String
  /-- The element. -/
  selector : String
  /-- The changes. -/
  changes : List StyleChange
  /-- The file of the element. -/
  path? : Option String := none
  /-- The position of the element's markup. -/
  position? : Option SourcePosition := none
  /-- The text of the element. -/
  text? : Option String := none
  /-- The classes of the element. -/
  classes? : Option String := none
  deriving DecidableEq, Repr, Inhabited

/-- The edit that takes this one back. -/
def HistoryEntry.inverted (e : HistoryEntry) : HistoryEntry :=
  { e with changes := e.changes.map StyleChange.inverted }

/-- Taking back what takes an edit back is the edit. -/
@[simp] theorem HistoryEntry.inverted_inverted (e : HistoryEntry) : e.inverted.inverted = e := by
  simp [inverted, Function.comp_def]

/-- Edits in order, the first `applied` of them in effect. -/
structure History where
  /-- The edits, the oldest first. -/
  entries : List HistoryEntry := []
  /-- How many are in effect. -/
  applied : Nat := 0
  deriving DecidableEq, Repr, Inhabited

namespace History

/-- The number of the latest edit in effect, minus one if there is none. -/
def index (h : History) : Int := (h.applied : Int) - 1

/-- Some edit is in effect. -/
def canUndo (h : History) : Bool := 0 < h.applied

/-- Some edit was taken back. -/
def canRedo (h : History) : Bool := h.applied < h.entries.length

/-- The history with a new edit in effect. -/
def push (h : History) (e : HistoryEntry) : History :=
  let entries := h.entries.take h.applied ++ [e]
  ⟨entries, entries.length⟩

/-- The edit that would be taken back. -/
def undoEntry? (h : History) : Option HistoryEntry :=
  if h.canUndo then h.entries[h.applied - 1]? else none

/-- The edit that would be made again. -/
def redoEntry? (h : History) : Option HistoryEntry := h.entries[h.applied]?

/-- The boundary moved one edit back. -/
def stepBack (h : History) : History := { h with applied := h.applied - 1 }

/-- The boundary moved one edit forward. -/
def stepForward (h : History) : History :=
  if h.canRedo then { h with applied := h.applied + 1 } else h

/-- The edit with an id. -/
def find? (h : History) (id : String) : Option HistoryEntry := h.entries.find? fun e => e.id == id

/-- The history without the first edit of an id; the others stay in effect or not, as they were. -/
def discard (h : History) (id : String) : History :=
  match h.entries.findIdx? fun e => e.id == id with
  | none => h
  | some i => ⟨h.entries.eraseIdx i, if i < h.applied then h.applied - 1 else h.applied⟩

end History

end Retouch
