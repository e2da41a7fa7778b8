import Retouch.Proofs.Json.Number
import Retouch.Proofs.Wire.Styles
import Retouch.Wire.FrameMessage

/-!
# Numbers beyond their range in messages

Reading a part of a message comes upon a number beyond its range (`Wire.OutOfRange`) if it reaches one:
its steps go in order, and a step that fails for another reason ends the reading before
(`Wire.outOfRange_bind`, `Wire.isRead_bind`). From this it can be told of the values alone when a
position, a rectangle or a snapshot comes upon such a number (`SourcePosition.IsBeyond`,
`Rect.IsBeyond`, `Snapshot.IsBeyond`).
-/

namespace Retouch

open Wire

variable {α β : Type}

namespace Wire

/-! ### Reading -/

/-- A part of a message can be read. -/
def IsRead (r : Read α) : Prop := ∃ a, r = .ok a

/-- Reading a part of a message comes upon a number beyond its range. -/
def OutOfRange (r : Read α) : Prop := ∃ f, r = .error (.number f) ∧ f.isRange = true

@[simp] theorem isRead_ok (a : α) : IsRead (.ok a) := ⟨a, rfl⟩

@[simp] theorem exists_eq_ok_iff (r : Read α) : (∃ a, r = .ok a) ↔ IsRead r := Iff.rfl

@[simp] theorem not_isRead_refuse (e : ProtocolError) : ¬ IsRead (refuse e : Read α) := nofun

@[simp] theorem refuse_ne_ok (e : ProtocolError) (a : α) : (refuse e : Read α) ≠ .ok a := nofun

/-- Two steps can be read exactly if the first one can, and the second one with its result. -/
@[simp] theorem isRead_bind (x : Read α) (f : α → Read β) :
    IsRead (x >>= f) ↔ ∃ a, x = .ok a ∧ IsRead (f a) := by
  constructor
  · rintro ⟨b, done⟩
    obtain ⟨a, first, rest⟩ := bind_eq_ok.mp done
    exact ⟨a, first, b, rest⟩
  · rintro ⟨a, first, b, rest⟩
    exact ⟨b, bind_eq_ok.mpr ⟨a, first, rest⟩⟩

@[simp] theorem not_outOfRange_ok (a : α) : ¬ OutOfRange (.ok a : Read α) := nofun

@[simp] theorem not_outOfRange_refuse (e : ProtocolError) : ¬ OutOfRange (refuse e : Read α) := nofun

/-- Two steps come upon a number beyond its range exactly if the first one does, or else the second
one with the result of the first. -/
@[simp] theorem outOfRange_bind (x : Read α) (f : α → Read β) :
    OutOfRange (x >>= f) ↔ OutOfRange x ∨ ∃ a, x = .ok a ∧ OutOfRange (f a) := by
  cases x with
  | error fault =>
    refine ⟨?_, ?_⟩
    · rintro ⟨f, ⟨⟩, range⟩
      exact Or.inl ⟨f, rfl, range⟩
    · rintro (⟨f, ⟨⟩, range⟩ | ⟨a, ⟨⟩, -⟩)
      exact ⟨f, rfl, range⟩
  | ok a =>
    refine ⟨fun second => Or.inr ⟨a, rfl, second⟩, ?_⟩
    rintro (⟨f, ⟨⟩, -⟩ | ⟨_, ⟨⟩, second⟩)
    exact second

/-- Reading part by part comes upon no number beyond its range if no part does. -/
theorem not_outOfRange_mapM {read : α → Read β} (none : ∀ a, ¬ OutOfRange (read a)) (l : List α) :
    ¬ OutOfRange (l.mapM read) := by
  induction l with
  | nil => simp [pure, Except.pure]
  | cons a l ih =>
    rw [List.mapM_cons]
    simp [none a, ih, pure, Except.pure]

/-! ### Members -/

@[simp] theorem not_outOfRange_readString? (ms : Members) (key : String) :
    ¬ OutOfRange (readString? ms key) := by
  unfold readString?
  split <;> simp

@[simp] theorem not_outOfRange_readAnyString (ms : Members) (key : String) :
    ¬ OutOfRange (readAnyString ms key) := by
  unfold readAnyString
  split <;> simp

@[simp] theorem not_outOfRange_readString (ms : Members) (key : String) :
    ¬ OutOfRange (readString ms key) := by
  unfold readString
  split
  · split <;> simp
  · simp

@[simp] theorem not_outOfRange_readFilled (ms : Members) (key : String) :
    ¬ OutOfRange (readFilled ms key) := by
  unfold readFilled
  split
  · split <;> simp
  · simp

@[simp] theorem not_outOfRange_readPlain (ms : Members) (key : String) :
    ¬ OutOfRange (readPlain ms key) := by
  unfold readPlain
  split <;> simp

@[simp] theorem not_outOfRange_readItems (v : Json) : ¬ OutOfRange (readItems v) := by
  unfold readItems
  split
  · simp
  · split
    · simp
    · simp
    · simp
    · exact nofun

/-- A whole number is out of range exactly if it is infinite. -/
@[simp] theorem outOfRange_readInteger (v : Json) : OutOfRange (readInteger v) ↔ v.IsInfinite := by
  rw [← v.outOfRange_toInteger_iff]
  unfold OutOfRange readInteger
  simp [mapError_eq_error]

@[simp] theorem isRead_readInteger (v : Json) : IsRead (readInteger v) ↔ v.IsWhole := by
  unfold IsRead readInteger Json.IsWhole
  simp only [mapError_eq_ok]

/-- A number is out of range exactly if it is a whole number that is huge. -/
@[simp] theorem outOfRange_readNumber (v : Json) : OutOfRange (readNumber v) ↔ v.IsHuge := by
  rw [← v.outOfRange_toNumber_iff]
  unfold OutOfRange readNumber
  simp [mapError_eq_error]

@[simp] theorem isRead_readNumber (v : Json) : IsRead (readNumber v) ↔ v.IsNumber := by
  unfold IsRead readNumber Json.IsNumber
  simp only [mapError_eq_ok]

/-- A whole number; what has none is refused for a reason, unless it is beyond its range. -/
def readWhole (e : ProtocolError) (v : Json) : Read Int :=
  match v.toInteger with
  | .ok n => .ok n
  | .error f => if f.isRange then .error (.number f) else refuse e

theorem outOfRange_readWhole (e : ProtocolError) (v : Json) :
    OutOfRange (readWhole e v) ↔ v.IsInfinite := by
  rw [← v.outOfRange_toInteger_iff]
  unfold readWhole
  cases v.toInteger with
  | ok n => simp
  | error f =>
    by_cases range : f.isRange = true
    · simp [OutOfRange, range]
    · simp [range]

theorem isRead_readWhole (e : ProtocolError) (v : Json) : IsRead (readWhole e v) ↔ v.IsWhole := by
  unfold readWhole Json.IsWhole
  cases v.toInteger with
  | ok n => simp
  | error f => by_cases range : f.isRange = true <;> simp [IsRead, refuse, range]

/-- A number that is not refused is beyond its range. -/
theorem isRange_of_readWhole {e : ProtocolError} {v : Json} {f : Json.NumberFault}
    (failed : readWhole e v = .error (.number f)) : f.isRange = true := by
  unfold readWhole at failed
  split at failed
  · cases failed
  · split at failed
    · rename_i range
      cases failed
      exact range
    · cases failed

/-! ### Numbers that may be missing -/

/-- A number that counts as zero if it is missing. -/
def unlessMissing (read : Json → Read Int) (v : Json) : Read Int := if v.truthy then read v else .ok 0

/-- A number that may be `null`. -/
def unlessNull (read : Json → Read Int) (v : Json) : Read (Option Int) :=
  match v with
  | .null => .ok none
  | v => do .ok (some (← read v))

/-- The text of a value that may be `null`. -/
def textUnlessNull (v : Json) : Option String :=
  match v with
  | .null => none
  | v => some v.text

section Missing

variable {read : Json → Read Int} {v : Json}

/-- A whole number is read as it was written. -/
theorem unlessMissing_int {n : Int} (whole : read (.int n) = .ok n) :
    unlessMissing read (.int n) = .ok n := by
  unfold unlessMissing
  split
  · exact whole
  · rename_i zero
    rw [show n = 0 by simpa [Json.truthy] using zero]

theorem outOfRange_unlessMissing (range : OutOfRange (read v) ↔ v.IsInfinite) :
    OutOfRange (unlessMissing read v) ↔ v.IsInfinite := by
  unfold unlessMissing
  split
  · exact range
  · rename_i missing
    simp only [not_outOfRange_ok, false_iff]
    exact fun infinite => missing infinite.truthy

theorem isRead_unlessMissing (whole : IsRead (read v) ↔ v.IsWhole) :
    IsRead (unlessMissing read v) ↔ v.IsCount := by
  unfold unlessMissing Json.IsCount
  split
  · rename_i there
    simp [whole, there]
  · rename_i missing
    simp [missing]

theorem outOfRange_unlessNull (range : OutOfRange (read v) ↔ v.IsInfinite) :
    OutOfRange (unlessNull read v) ↔ v.IsInfinite := by
  unfold unlessNull
  split
  · simp
  · simp [range]

theorem isRead_unlessNull (whole : IsRead (read v) ↔ v.IsWhole) :
    IsRead (unlessNull read v) ↔ v = .null ∨ v.IsWhole := by
  unfold unlessNull
  split
  · simp
  · rename_i there
    rw [isRead_bind]
    simp only [isRead_ok, and_true, exists_eq_ok_iff, whole]
    exact ⟨Or.inr, fun whole => whole.resolve_left there⟩

end Missing

end Wire

/-! ### Members left out -/

theorem Members.get_of_get? {ms : Members} {key : String} {v : Json}
    (there : Table.get? ms key = some v) : ms.get key = v := by
  unfold get
  rw [there]
  rfl

/-- Members without those under some keys. -/
def Members.without (ms : Members) (keys : List String) : Members :=
  ms.filter fun m => !keys.contains m.1

@[simp] theorem Members.get?_without (ms : Members) (keys : List String) (key : String) :
    Table.get? (ms.without keys) key = if keys.contains key then none else Table.get? ms key := by
  unfold without
  induction ms with
  | nil => simp
  | cons m ms ih =>
    by_cases out : keys.contains m.1 = true
    · rw [List.filter_cons_of_neg (by simpa using out), ih, Table.get?_cons]
      by_cases here : key = m.1
      · subst here
        rw [if_pos out, if_pos out]
      · simp [here]
    · rw [List.filter_cons_of_pos (by simpa using out), Table.get?_cons, Table.get?_cons, ih]
      by_cases here : key = m.1
      · subst here
        have kept : m.1 ∉ keys := by simpa using out
        simp [kept]
      · simp [here]

@[simp] theorem Members.get_without (ms : Members) (keys : List String) (key : String) :
    (ms.without keys).get key = if keys.contains key then .null else ms.get key := by
  unfold get
  rw [get?_without]
  split <;> rfl

namespace Wire

section LeftOut

variable {ms : Members} {keys : List String} {key : String}

/-- Members that are not left out are read as before. -/
@[simp] theorem readString?_without (kept : keys.contains key = false) :
    readString? (ms.without keys) key = readString? ms key := by
  simp only [readString?, Members.get_without, kept, Bool.false_eq_true, if_false]

@[simp] theorem readAnyString_without (kept : keys.contains key = false) :
    readAnyString (ms.without keys) key = readAnyString ms key := by
  simp only [readAnyString, Members.get_without, kept, Bool.false_eq_true, if_false]

@[simp] theorem readString_without (kept : keys.contains key = false) :
    readString (ms.without keys) key = readString ms key := by
  simp only [readString, Members.get_without, kept, Bool.false_eq_true, if_false]

@[simp] theorem readFilled_without (kept : keys.contains key = false) :
    readFilled (ms.without keys) key = readFilled ms key := by
  simp only [readFilled, Members.get_without, kept, Bool.false_eq_true, if_false]

@[simp] theorem readPlain_without (kept : keys.contains key = false) :
    readPlain (ms.without keys) key = readPlain ms key := by
  simp only [readPlain, Members.get_without, kept, Bool.false_eq_true, if_false]

/-- A text that is left out is none. -/
theorem readString?_leftOut (out : keys.contains key = true) :
    readString? (ms.without keys) key = .ok none := by
  simp only [readString?, Members.get_without, out, if_true]

end LeftOut

end Wire

/-! ### Source positions -/

namespace SourcePosition

/-- A place is out of range exactly if it is infinite. -/
@[simp] theorem outOfRange_readPlace (v : Json) : OutOfRange (readPlace v) ↔ v.IsInfinite :=
  outOfRange_readWhole .badPosition v

@[simp] theorem isRead_readPlace (v : Json) : IsRead (readPlace v) ↔ v.IsWhole :=
  isRead_readWhole .badPosition v

@[simp] theorem read?_null : read? .null = .ok none := rfl

/-- The value of a position whose line, or else whose column, is infinite. -/
def IsBeyond (v : Json) : Prop :=
  ∃ (ms : Members) (path : String), v = .obj ms ∧ ms.get "filePath" = .str path ∧
    ((ms.get "lineNumber").IsInfinite ∨
      (ms.get "lineNumber").IsCount ∧ (ms.get "columnNumber").IsInfinite)

/-- The position in an object with a path. -/
theorem read?_obj {ms : Members} {path : String} (named : ms.get "filePath" = .str path) :
    read? (.obj ms) = (do
      let line ← unlessMissing readPlace (ms.get "lineNumber")
      let column ← unlessNull readPlace (ms.get "columnNumber")
      .ok (some ⟨path, line, column⟩)) := by
  have mapped (r : Read Int) (rest : Option Int → Read (Option SourcePosition)) :
      r.map some >>= rest = (do .ok (some (← r))) >>= rest := by
    cases r <;> rfl
  unfold read? unlessMissing unlessNull
  simp only [named]
  cases ms.get "columnNumber" with
  | null => split <;> rfl
  | _ =>
    simp only [mapped]
    split <;> rfl

/-- A number that makes a position unreadable, and not just bad, is beyond its range. -/
theorem isRange_of_read? {v : Json} {f : Json.NumberFault} (failed : read? v = .error (.number f)) :
    f.isRange = true := by
  unfold read? at failed
  split at failed
  · cases failed
  · rename_i ms
    by_cases named : ∃ path, Members.get ms "filePath" = .str path
    · obtain ⟨path, named⟩ := named
      have failed : read? (.obj ms) = .error (.number f) := by
        unfold read?
        exact failed
      rw [read?_obj named] at failed
      obtain line | ⟨line, -, failed⟩ := bind_eq_error.mp failed
      · unfold unlessMissing at line
        split at line
        · exact isRange_of_readWhole line
        · cases line
      · obtain column | ⟨column?, -, ⟨⟩⟩ := bind_eq_error.mp failed
        unfold unlessNull at column
        split at column
        · cases column
        · obtain column | ⟨_, _, ⟨⟩⟩ := bind_eq_error.mp column
          exact isRange_of_readWhole column
    · split at failed
      · rename_i path there
        exact absurd ⟨path, there⟩ named
      · cases failed
  · cases failed

/-- **A position comes upon a number beyond its range** exactly if its line is infinite, or else its
column. -/
theorem outOfRange_read? (v : Json) : OutOfRange (read? v) ↔ IsBeyond v := by
  cases v with
  | obj ms =>
    by_cases named : ∃ path, Members.get ms "filePath" = .str path
    · obtain ⟨path, named⟩ := named
      rw [read?_obj named]
      simp [outOfRange_unlessMissing, isRead_unlessMissing, outOfRange_unlessNull, IsBeyond, named]
    · unfold read?
      dsimp only
      split
      · rename_i path there
        exact absurd ⟨path, there⟩ named
      · simpa [IsBeyond] using fun path there => absurd ⟨path, there⟩ named
  | null => simp [read?, IsBeyond]
  | _ => simp [read?, IsBeyond]

end SourcePosition

/-! ### Rectangles and snapshots -/

namespace Rect

/-- One number of a rectangle, zero if it is missing. -/
def edge (ms : Members) (key : String) : Json := (Table.get? ms key).getD (.int 0)

@[simp] theorem outOfRange_readEdge (ms : Members) (key : String) :
    OutOfRange (readEdge ms key) ↔ (edge ms key).IsHuge := outOfRange_readNumber _

@[simp] theorem isRead_readEdge (ms : Members) (key : String) :
    IsRead (readEdge ms key) ↔ (edge ms key).IsNumber := isRead_readNumber _

/-- The value of a rectangle of which the first number that is none is a huge one. -/
def IsBeyond (v : Json) : Prop :=
  ∃ ms, v = .obj ms ∧ ((edge ms "top").IsHuge ∨ (edge ms "top").IsNumber ∧
    ((edge ms "left").IsHuge ∨ (edge ms "left").IsNumber ∧
      ((edge ms "width").IsHuge ∨ (edge ms "width").IsNumber ∧ (edge ms "height").IsHuge)))

end Rect

namespace Snapshot

/-- The value of a snapshot in which everything before a number beyond its range is as it should be:
first the names, then the rectangle, the position and the count. -/
def IsBeyond (v : Json) : Prop :=
  ∃ (ms : Members) (selector tagName : String), v = .obj ms ∧
    ms.get "selector" = .str selector ∧ selector ≠ "" ∧ ms.get "tagName" = .str tagName ∧
    (Rect.IsBeyond (ms.get "boundingRect") ∨ IsRead (Rect.read (ms.get "boundingRect")) ∧
      (SourcePosition.IsBeyond (ms.get "sourceLocation") ∨
        IsRead (SourcePosition.read? (ms.get "sourceLocation")) ∧
        (ms.get "childCount").IsInfinite))

/-- The snapshot in an object with a selector and a tag. -/
theorem read_obj {ms : Members} {selector tagName : String}
    (named : ms.get "selector" = .str selector) (filled : selector ≠ "")
    (tagged : ms.get "tagName" = .str tagName) :
    read (.obj ms) = (do
      let rect ← Rect.read (ms.get "boundingRect")
      let position? ← SourcePosition.read? (ms.get "sourceLocation")
      let childCount ← unlessMissing readInteger (ms.get "childCount")
      .ok {
        selector, tagName
        classes := readText ms "className"
        computedStyles := readTexts (ms.get "computedStyles")
        inlineStyles := readTexts (ms.get "inlineStyles")
        rect
        text? := textUnlessNull (ms.get "textContent")
        isTextEditable := readBool ms "isTextEditable" false
        position?
        parentSelector := ms.get "parentSelector"
        childCount
        kind := ElementKind.read (ms.get "elementType") }) := by
  unfold read unlessMissing textUnlessNull
  simp only [named, tagged, String.isEmpty_iff, filled, if_false]
  refine bind_congr fun rect => bind_congr fun position? => ?_
  split <;> rfl

/-- The value of a snapshot that has its names: a selector that is not empty, and the name of a tag. -/
def IsNamed (v : Json) : Prop :=
  ∃ (ms : Members) (selector tagName : String), v = .obj ms ∧
    ms.get "selector" = .str selector ∧ selector ≠ "" ∧ ms.get "tagName" = .str tagName

/-- A snapshot that lacks its names is refused. -/
theorem refused_of_not_isNamed {v : Json} (unnamed : ¬ IsNamed v) : ∃ e, read v = refuse e := by
  unfold read
  split
  · rename_i ms
    split
    · rename_i selector named
      split
      · exact ⟨_, rfl⟩
      · rename_i filled
        split
        · rename_i tagName tagged
          exact absurd ⟨ms, selector, tagName, rfl, named, by simpa using filled, tagged⟩ unnamed
        · exact ⟨_, rfl⟩
    · exact ⟨_, rfl⟩
  · exact ⟨_, rfl⟩

end Snapshot

end Retouch
