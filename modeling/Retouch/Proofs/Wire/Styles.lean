import Retouch.Proofs.Outcome
import Retouch.Wire.Response

/-!
# Style changes on the wire

Requests for style changes and the reports on them are read as they were written, except that empty
texts among the optional members count as missing (`read_request`, `read_report`). A request without a
selector, or with a change without a property, is not read at all.
-/

namespace Retouch

namespace Wire

/-! ### Members of an object -/

/-- A text that may be missing; an empty one is. -/
def filled (value : Option String) : Option String := value.filter fun s => !s.isEmpty

theorem get?_append (ms ms' : Members) (key : String) :
    Table.get? (ms ++ ms') key = (Table.get? ms key).or (Table.get? ms' key) := List.lookup_append

theorem get?_member? (key key' : String) (value : Option String) :
    Table.get? (member? key value) key' = if key' == key then value.map Json.str else none := by
  cases value with
  | none => simp [member?]
  | some s => simp [member?, Table.get?_cons]

/-- An optional text is read as it was written. -/
theorem readString?_eq {ms : Members} {key : String} {value : Option String}
    (there : Table.get? ms key = value.map Json.str) : readString? ms key = .ok (filled value) := by
  unfold readString? Members.get
  rw [there]
  cases value with
  | none => rfl
  | some s =>
    by_cases empty : s.isEmpty = true
    · simp [filled, Option.filter, empty]
    · simp [filled, Option.filter, empty]

/-- A text that must be there is read as it was written, an empty one too. -/
theorem readText_eq {ms : Members} {key value : String}
    (there : Table.get? ms key = some (.str value)) : readText ms key = value := by
  unfold readText Members.get
  rw [there]
  by_cases empty : value.isEmpty = true
  · simp [Json.truthy, String.isEmpty_iff.mp empty]
  · simp [Json.truthy, empty, Json.text]

/-- Values that are read one by one. -/
theorem mapM_read {α : Type} {read : Json → Read α} {write : α → Json} {l : List α}
    (each : ∀ a ∈ l, read (write a) = .ok a) : (l.map write).mapM read = .ok l := by
  induction l with
  | nil => rfl
  | cons a l ih =>
    rw [List.map_cons, List.mapM_cons, each a (List.mem_cons_self ..),
      ih fun b hb => each b (List.mem_cons_of_mem _ hb)]
    rfl

/-- Of values that are all read, each one is. -/
theorem of_mapM_read {α : Type} {read : Json → Read α} {items : List Json} {l : List α}
    (done : items.mapM read = .ok l) : ∀ v ∈ items, ∃ a, read v = .ok a := by
  induction items generalizing l with
  | nil => exact fun _ none => nomatch none
  | cons v items ih =>
    rw [List.mapM_cons] at done
    obtain ⟨a, first, done⟩ := bind_eq_ok.mp done
    obtain ⟨l', rest, -⟩ := bind_eq_ok.mp done
    intro v' hv'
    obtain rfl | later := List.mem_cons.mp hv'
    · exact ⟨a, first⟩
    · exact ih rest v' later

end Wire

open Wire

/-! ### Changes and positions -/

/-- A change of a property is read as it was written. -/
theorem StyleChange.read_toJson (c : StyleChange) :
    StyleChange.read c.toJson =
      if c.property.isEmpty then refuse (.required "change.property") else .ok c := by
  obtain ⟨property, oldValue, newValue, usesInline⟩ := c
  have old : readText (("property", .str property) :: ("oldValue", .str oldValue) ::
      ("newValue", .str newValue) :: if usesInline then [("useInlineStyle", .bool true)] else [])
      "oldValue" = oldValue := readText_eq rfl
  unfold StyleChange.toJson StyleChange.read
  simp only [List.cons_append, List.nil_append, old, Members.get, Table.get?_cons]
  simp only [beq_self_eq_true, if_true, Option.getD_some]
  cases usesInline <;> simp [readBool, Table.get?_cons, Json.truthy, Json.text]

/-- A position is read as it was written. -/
theorem SourcePosition.read?_toJson (p : SourcePosition) :
    SourcePosition.read? p.toJson = .ok (some p) := by
  obtain ⟨path, line, column?⟩ := p
  cases column? with
  | none =>
    simp only [toJson, read?, Members.get, Table.get?_cons, List.append_nil]
    by_cases zero : line = 0
    · subst zero
      simp [Json.truthy, bind, Except.bind]
    · simp [Json.truthy, zero]
      rfl
  | some n =>
    simp only [toJson, read?, Members.get, Table.get?_cons, List.cons_append, List.nil_append]
    by_cases zero : line = 0
    · subst zero
      simp [Json.truthy, bind, Except.bind]
      rfl
    · simp [Json.truthy, zero]
      rfl

/-! ### Requests -/

/-- A request with empty optional texts left out. -/
def StyleUpdate.normal (r : StyleUpdate) : StyleUpdate :=
  { r with
    path? := filled r.path?
    text? := filled r.text?
    classes? := filled r.classes?
    entryId? := filled r.entryId? }

theorem Request.get?_positionMember? (position? : Option SourcePosition) (key : String) :
    Table.get? (positionMember? position?) key =
      if key == "sourceLocation" then position?.map SourcePosition.toJson else none := by
  cases position? with
  | none => simp [positionMember?]
  | some p => simp [positionMember?, Table.get?_cons]

/-- The members of a request for style changes, type included. -/
def Request.styleMembers (r : StyleUpdate) : Members :=
  ("type", .str "style_update") :: (Request.styles r).payload

/-- What the members of a request for style changes are. -/
theorem Request.get?_styleMembers (r : StyleUpdate) :
    Table.get? (styleMembers r) "selector" = some (.str r.selector) ∧
      Table.get? (styleMembers r) "changes" = some (.arr (r.changes.map StyleChange.toJson)) ∧
      Table.get? (styleMembers r) "skipDeploy" = some (.bool r.skipsDeploy) ∧
      Table.get? (styleMembers r) "filePath" = r.path?.map Json.str ∧
      Table.get? (styleMembers r) "textContent" = r.text?.map Json.str ∧
      Table.get? (styleMembers r) "className" = r.classes?.map Json.str ∧
      Table.get? (styleMembers r) "sourceLocation" = r.position?.map SourcePosition.toJson ∧
      Table.get? (styleMembers r) "entryId" = r.entryId?.map Json.str ∧
      Table.get? (styleMembers r) "direction" = (r.direction?.map Direction.label).map Json.str := by
  simp [styleMembers, payload, Table.get?_cons, get?_append, get?_member?, get?_positionMember?]

/-- A request for style changes is read by its members. -/
theorem Request.read_styleMembers (r : StyleUpdate) :
    Request.read (Request.styles r).toJson = match readStyles (styleMembers r) with
      | .ok request => .ok (some request)
      | .error f => .error (f.within "style_update") := by
  unfold Request.read typed?
  rw [show (styles r).toJson = .obj (styleMembers r) from rfl]
  dsimp only
  rw [show Members.get (styleMembers r) "type" = .str "style_update" from rfl]
  dsimp only
  rw [show ofMembers? "style_update" (styleMembers r) = some (readStyles (styleMembers r)) from rfl]
  cases readStyles (styleMembers r) <;> rfl

theorem Direction.read?_eq {ms : Members} {d? : Option Direction}
    (there : Table.get? ms "direction" = (d?.map label).map Json.str) : read? ms = .ok d? := by
  unfold read?
  rw [readString?_eq there]
  match d? with
  | none => rfl
  | some .undo => rfl
  | some .redo => rfl

/-- **Requests are read as they were written**, if they name an element and every change a property. -/
theorem Request.read_styles {r : StyleUpdate} (selector : r.selector.isEmpty = false)
    (properties : ∀ c ∈ r.changes, c.property.isEmpty = false) :
    Request.read (Request.styles r).toJson = .ok (some (.styles r.normal)) := by
  obtain ⟨sel, ch, sk, path, text, classes, position, entry, direction⟩ := get?_styleMembers r
  have changes : (r.changes.map StyleChange.toJson).mapM StyleChange.read = .ok r.changes :=
    mapM_read fun c hc => by rw [StyleChange.read_toJson, properties c hc]; rfl
  have place : SourcePosition.read? (Members.get (styleMembers r) "sourceLocation") = .ok r.position? := by
    unfold Members.get
    rw [position]
    cases r.position? with
    | none => rfl
    | some p => exact p.read?_toJson
  have done : readStyles (styleMembers r) = .ok (.styles r.normal) := by
    unfold readStyles
    rw [Direction.read?_eq direction, readString?_eq path, readString?_eq text, readString?_eq classes,
      readString?_eq entry, place]
    unfold readString readBool Members.get
    rw [sel, ch, sk]
    dsimp only [Option.getD_some]
    rw [selector, if_neg Bool.false_ne_true]
    change ((r.changes.map StyleChange.toJson).mapM StyleChange.read >>= _) = _
    rw [changes]
    rfl
  rw [read_styleMembers, done]

/-- Only a request that names an element, and a property in every change, is read. -/
theorem Request.of_read_styles {r : StyleUpdate} {request : Request}
    (read : Request.read (Request.styles r).toJson = .ok (some request)) :
    r.selector.isEmpty = false ∧ ∀ c ∈ r.changes, c.property.isEmpty = false := by
  obtain ⟨sel, ch, -⟩ := get?_styleMembers r
  rw [read_styleMembers] at read
  split at read
  · rename_i done
    unfold readStyles Members.get at done
    rw [ch] at done
    obtain ⟨items, listed, done⟩ := bind_eq_ok.mp done
    obtain ⟨direction, -, done⟩ := bind_eq_ok.mp done
    obtain ⟨selector, named, done⟩ := bind_eq_ok.mp done
    obtain ⟨changes, each, -⟩ := bind_eq_ok.mp done
    cases listed
    constructor
    · unfold readString Members.get at named
      rw [sel] at named
      dsimp only [Option.getD_some] at named
      split at named
      · cases named
      · rename_i filled
        exact Bool.eq_false_iff.mpr filled
    · intro c hc
      obtain ⟨c', written⟩ := of_mapM_read each c.toJson (List.mem_map_of_mem hc)
      rw [StyleChange.read_toJson] at written
      split at written
      · cases written
      · rename_i filled
        exact Bool.eq_false_iff.mpr filled
  · cases read

/-! ### Reports -/

/-- A report with empty optional texts left out. -/
def StyleReport.normal (r : StyleReport) : StyleReport :=
  { r with path? := filled r.path?, error? := filled r.error?, entryId? := filled r.entryId? }

/-- The members of a report on style changes, type included. -/
def Response.styleMembers (r : StyleReport) : Members :=
  ("type", .str "style_updated") :: (Response.styles r).payload

/-- What the members of a report on style changes are. -/
theorem Response.get?_styleMembers (r : StyleReport) :
    Table.get? (styleMembers r) "success" = some (.bool r.success) ∧
      Table.get? (styleMembers r) "selector" = some (.str r.selector) ∧
      Table.get? (styleMembers r) "applied" = some (.strings r.applied) ∧
      Table.get? (styleMembers r) "failed" = some (.arr (r.failed.map failedJson)) ∧
      Table.get? (styleMembers r) "filePath" = r.path?.map Json.str ∧
      Table.get? (styleMembers r) "error" = r.error?.map Json.str ∧
      Members.get (styleMembers r) "attempted" =
        (if r.attempted.isEmpty then .null else .strings r.attempted) ∧
      Table.get? (styleMembers r) "entryId" = r.entryId?.map Json.str := by
  cases none : r.attempted.isEmpty <;>
    simp [styleMembers, payload, Members.get, Table.get?_cons, get?_append, get?_member?, none]

theorem Wire.readItems_arr (items : List Json) : readItems (.arr items) = .ok items := by
  cases items <;> rfl

/-- A list of texts is read as it was written. -/
theorem Response.readStrings_strings (l : List String) : readStrings (.strings l) = .ok l := by
  unfold readStrings Json.strings
  rw [readItems_arr]
  change Except.ok ((l.map Json.str).map Json.text) = _
  rw [List.map_map]
  exact congrArg Except.ok (List.map_id l)

/-- **Reports are read as they were written.** -/
theorem Response.read_report (r : StyleReport) :
    Response.read (Response.styles r).toJson = .ok (some (.styles r.normal)) := by
  obtain ⟨success, selector, applied, failed, path, error, attempted, entry⟩ := get?_styleMembers r
  have failures : (r.failed.map failedJson).mapM readFailed = .ok r.failed := mapM_read fun f _ => rfl
  have tried : readStrings (Members.get (styleMembers r) "attempted") = .ok r.attempted := by
    rw [attempted]
    split
    · rename_i none
      rw [List.isEmpty_iff.mp none]
      rfl
    · exact readStrings_strings r.attempted
  have done : readStyles (styleMembers r) = .ok (.styles r.normal) := by
    unfold readStyles
    rw [readString?_eq path, readString?_eq error, readString?_eq entry, tried,
      readText_eq selector]
    unfold readBool Members.get
    rw [success, applied, failed]
    dsimp only [Option.getD_some]
    rw [readItems_arr, readStrings_strings]
    change ((r.failed.map failedJson).mapM readFailed >>= _) = _
    rw [failures]
    rfl
  unfold Response.read typed?
  rw [show (styles r).toJson = .obj (styleMembers r) from rfl]
  dsimp only
  rw [show Members.get (styleMembers r) "type" = .str "style_updated" from rfl]
  dsimp only
  rw [show ofMembers? "style_updated" (styleMembers r) = some (readStyles (styleMembers r)) from rfl,
    done]

end Retouch
