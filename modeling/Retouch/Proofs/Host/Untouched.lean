import Retouch.Host.Connection
import Retouch.Proofs.Backend.Undo
import Retouch.Proofs.Host.Numbering
import Retouch.Proofs.Wire.Styles

/-!
# An edit that wrote nothing, taken back

A host that works with a backend in the same process sets values that the markup of an element has
already. The backend tells of success and changes nothing; so it records nothing either, while the host
enters an edit into its history. When that edit is taken back, there is nothing to swap, and the
values that the element had before are converted instead. What the conversion of these values writes,
it writes although the edit wrote nothing (`undo_of_unchanged`).
-/

namespace Retouch

open Retouch.Wire Retouch.Patch

namespace Patch

/-- A batch that leaves the source leaves its tag. -/
theorem StylePatch.Edits.unchanged {patch : StylePatch} {source : Text} {tag : Markup.Tag}
    (edits : patch.Edits source tag) (same : patch.modified = source) : patch.changed = false := by
  have after := edits.tagAfter tag (by rw [same]; exact edits.read)
  rw [same, ← edits.tagBefore] at after
  unfold StylePatch.changed
  rw [after]
  exact bne_self_eq_false _

end Patch

namespace Backend

variable {σ : Type} [Storage σ]

/-- A request for style changes is answered as it was written, empty optional texts left out. -/
theorem handle_styles {b : Backend σ} {r : StyleUpdate} (selector : r.selector.isEmpty = false)
    (properties : ∀ c ∈ r.changes, c.property.isEmpty = false) :
    b.handle (Request.styles r).toJson =
      ((b.answerStyles r.normal).1, .ok [.styles (b.answerStyles r.normal).2]) := by
  unfold handle
  rw [Request.read_styles selector properties]
  rfl

/-- Only a request that names an element, and a property in every change, is answered by a report. -/
theorem of_handle_report {b : Backend σ} {r : StyleUpdate} {report : StyleReport}
    (answered : (b.handle (Request.styles r).toJson).2 = .ok [.styles report]) :
    r.selector.isEmpty = false ∧ ∀ c ∈ r.changes, c.property.isEmpty = false := by
  unfold handle at answered
  split at answered
  · cases answered
  · rename_i request read
    exact Request.of_read_styles read
  · cases answered
  · cases answered
  · cases answered

/-- Changes that leave the files leave the text of their file. -/
theorem Written.text_of_same {b : Backend σ} {r : StyleUpdate} {file : SourceFile} {w : Restyling}
    {answer : Backend σ × StyleReport} (written : b.Written r file w answer)
    (distinct : (Table.keys (Storage.files b.store)).Nodup)
    (same : Storage.files answer.1.store = Storage.files b.store) : w.modified = file.2 := by
  have listed := written.restyles.listed distinct
  rw [← same, written.files, Table.get?_set, if_pos (beq_self_eq_true file.1)] at listed
  exact Option.some.inj listed

/-- An edit that leaves the files is not recorded. -/
theorem unchanged_unrecorded [FaithfulStorage σ] {b : Backend σ} {r : StyleUpdate}
    (distinct : (Table.keys (Storage.files b.store)).Nodup) (edit : r.direction? = none)
    (same : Storage.files (b.answerStyles r).1.store = Storage.files b.store)
    (success : (b.answerStyles r).2.success = true) :
    (b.answerStyles r).1.journal = b.journal := by
  obtain ⟨failed, -⟩ | ⟨file, w, written⟩ := b.answerStyles_cases r distinct
  · cases success.symm.trans failed
  have text := written.text_of_same distinct same
  have converted := written.restyles.restyled
  unfold restyle at converted
  rw [replay?_undirected b edit] at converted
  obtain ⟨patch, patched, modified, record⟩ := convert_ok converted
  obtain ⟨tag, -, edits⟩ := applyStyleChanges_edits patched
  rw [edits.unchanged (modified.symm.trans text), Bool.and_false, if_neg Bool.false_ne_true] at record
  rw [written.journal, record]
  unfold enter
  cases r.entryId? <;> rfl

omit [Storage σ] in
/-- A request whose edit is not on record is converted. -/
theorem restyle_unrecorded {b : Backend σ} {r : StyleUpdate} {id : String} {d : Direction}
    (named : r.entryId? = some id) (directed : r.direction? = some d)
    (unrecorded : b.journal.get? id = none) (file : SourceFile) :
    b.restyle r file = b.convert r r.hints file := by
  have unreplayed : b.journal.replay? id d file.1 file.2 r.hints b.settings.search = none := by
    unfold Journal.replay?
    rw [unrecorded]
    rfl
  unfold restyle
  rw [replay?_eq b named directed, unreplayed]
  rfl

/-- A step in the history is not recorded, and is saved if it changes the text. -/
theorem saveStyles_directed {b : Backend σ} {r : StyleUpdate} {id : String} {d : Direction}
    (named : r.entryId? = some id) (directed : r.direction? = some d) {file : SourceFile} {w : Restyling}
    (converted : b.convert r r.hints file = .ok w) :
    ((b.enter r.entryId? w.record?).saveStyles r file w.modified).2 =
      if w.modified == file.2 then none else (b.save file.1 w.modified (styleNote r)).2 := by
  obtain ⟨patch, -, -, record⟩ := convert_ok converted
  rw [directed, Option.isNone_some, Bool.and_false, Bool.false_and, if_neg Bool.false_ne_true] at record
  rw [record, named]
  unfold saveStyles
  change (if w.modified == file.2 then (b, none) else b.save file.1 w.modified (styleNote r)).2 = _
  split <;> rfl

/-- A request whose edit is not on record leaves the files exactly if converting its changes writes
nothing new, or cannot be saved. -/
theorem unrecorded_leaves_iff [FaithfulStorage σ] {b : Backend σ} {r : StyleUpdate} {id : String}
    (distinct : (Table.keys (Storage.files b.store)).Nodup) (named : r.entryId? = some id)
    {d : Direction} (directed : r.direction? = some d) (unrecorded : b.journal.get? id = none) :
    Storage.files (b.answerStyles r).1.store = Storage.files b.store ↔
      ∀ file w, b.resolve r.path? r.position? r.hints = .ok file → b.convert r r.hints file = .ok w →
        w.modified = file.2 ∨ (b.save file.1 w.modified (styleNote r)).2 ≠ none := by
  have restyled := restyle_unrecorded named directed unrecorded
  obtain ⟨-, same, unsaved⟩ | ⟨file, w, written⟩ := b.answerStyles_cases r distinct
  · refine ⟨fun _ file w resolved converted => ?_, fun _ => same⟩
    have refused := unsaved file w ⟨resolved, (restyled file).trans converted⟩
    rw [saveStyles_directed named directed converted] at refused
    by_cases text : w.modified = file.2
    · exact Or.inl text
    · rw [if_neg (by simpa using text)] at refused
      exact Or.inr refused
  · have converted := (restyled file).symm.trans written.restyles.restyled
    constructor
    · intro same file' w' resolved converted'
      obtain ⟨rfl, rfl⟩ := written.restyles.unique ⟨resolved, (restyled file').trans converted'⟩
      exact Or.inl (written.text_of_same distinct same)
    · intro leaves
      have text : w.modified = file.2 := by
        obtain text | refused := leaves file w written.restyles.resolved converted
        · exact text
        · by_contra differs
          have saved := written.saved
          rw [saveStyles_directed named directed converted, if_neg (by simpa using differs)] at saved
          exact refused saved
      rw [written.files, text]
      exact Table.set_of_get? (written.restyles.listed distinct)

end Backend

namespace Host

/-! ### The edit in the history -/

/-- The edit that was pushed last would be taken back first. -/
theorem undoEntry?_push (history : History) (e : HistoryEntry) :
    History.undoEntry? (history.push e) = some e := by
  have some : (history.push e).canUndo = true := by simp [History.canUndo, History.push]
  unfold History.undoEntry?
  rw [if_pos some]
  simp [History.push]

/-- An edit that the backend tells to be written stays in the history. -/
theorem perform_written {κ : Type} [Link κ] {h : Host κ} {shown : HistoryEntry} {step : EditStep}
    {history : History} {link link' : κ} {v : Json} {r : StyleReport} (linked : h.link? = some link)
    (sending : Link.send link (Request.styles (styleRequest shown (stepDirection? step))).toJson =
      (link', .ok [v]))
    (read : Response.read v = .ok (some (.styles r))) (success : r.success = true) :
    (h.perform shown step history).1.history = history := by
  obtain ⟨-, presented, -, -⟩ := present_committed (h.asked shown step history) shown
  rw [perform_answered history linked sending read, (take_written _ success).history]
  exact presented

/-- A request names its edit: an id is not empty. -/
theorem normal_entryId {entry : HistoryEntry} {n : Nat} (id : entry.id = idText n)
    (direction? : Option Direction) :
    (styleRequest entry direction?).normal.entryId? = some entry.id := by
  unfold StyleUpdate.normal styleRequest Wire.filled
  dsimp only
  rw [id, Option.filter_some, idText_isEmpty]
  rfl

/-! ### A backend in the same process -/

variable {σ : Type} [Storage σ]

/-- The files of the project that a host works on. -/
def files? (h : Host (LocalLink σ)) : Option (Table String Text) :=
  h.link?.map fun l => Storage.files l.backend.store

/-- An open local link hands a request to the backend. -/
theorem send_open (b : Backend σ) (v : Json) :
    Link.send (⟨b, false⟩ : LocalLink σ) v = (⟨(b.handle v).1, false⟩, .ok (match (b.handle v).2 with
      | .ok responses => responses.map Response.toJson
      | .error _ => [])) := rfl

/-- An open local link delivers the report of the backend. -/
theorem send_report {b : Backend σ} {r : StyleUpdate} {report : StyleReport}
    (answered : (b.handle (Request.styles r).toJson).2 = .ok [.styles report]) :
    Link.send (⟨b, false⟩ : LocalLink σ) (Request.styles r).toJson =
      (⟨(b.handle (Request.styles r).toJson).1, false⟩, .ok [(Response.styles report).toJson]) := by
  rw [send_open, answered]
  rfl

/-- Values that the backend tells to be written are the latest edit of the history. -/
theorem applyStyles_written {h : Host (LocalLink σ)} {b : Backend σ}
    (linked : h.link? = some ⟨b, false⟩) {element : Snapshot} (selected : h.selected? = some element)
    {values : List (String × String)} (asks : values ≠ []) (usesInline : Bool) {report : StyleReport}
    (answered : (b.handle (Request.styles
      (styleRequest (h.nextEntry element values usesInline) none)).toJson).2 = .ok [.styles report])
    (success : report.success = true) :
    (h.applyStyles values usesInline).1.history =
        h.history.push (h.nextEntry element values usesInline) ∧
      (h.applyStyles values usesInline).1.link? = some ⟨(b.handle (Request.styles
        (styleRequest (h.nextEntry element values usesInline) none)).toJson).1, false⟩ := by
  rw [congrArg Prod.fst (applyStyles_eq selected asks usesInline)]
  have sending := send_report answered
  constructor
  · exact perform_written linked sending (Response.read_report report) success
  · exact perform_link _ linked sending

/-- To take back the latest edit is one request to the backend, for the inverted changes. -/
theorem undo_files {h : Host (LocalLink σ)} {b : Backend σ} {history : History} {e : HistoryEntry}
    (latest : h.history = history.push e) (linked : h.link? = some ⟨b, false⟩)
    (selector : e.selector.isEmpty = false)
    (properties : ∀ c ∈ e.changes, c.property.isEmpty = false) :
    h.undo.1.files? = some (Storage.files
      (b.answerStyles (styleRequest e.inverted (some .undo)).normal).1.store) := by
  have handled := Backend.handle_styles (b := b) (r := styleRequest e.inverted (some .undo)) selector
    fun c hc => by
      obtain ⟨c', hc', rfl⟩ := List.mem_map.mp hc
      exact properties c' hc'
  unfold undo
  rw [latest, undoEntry?_push]
  dsimp only
  unfold files?
  rw [perform_link _ linked (send_open b _)]
  exact congrArg (fun b => some (Storage.files b.store)) (congrArg Prod.fst handled)

/-- **An edit that wrote nothing, taken back.** A host sets values on the selected element, and the
backend tells of success but has not changed the files; the id of the edit is new to the backend. Then
taking the edit back leaves the files exactly if converting the values from before writes nothing
new, or cannot be saved. -/
theorem undo_of_unchanged [FaithfulStorage σ] {h : Host (LocalLink σ)} {b : Backend σ}
    (linked : h.link? = some ⟨b, false⟩) (distinct : (Table.keys (Storage.files b.store)).Nodup)
    {element : Snapshot} (selected : h.selected? = some element) {values : List (String × String)}
    (asks : values ≠ []) (usesInline : Bool)
    (unused : b.journal.get? (h.nextEntry element values usesInline).id = none)
    {report : StyleReport}
    (answered : (b.handle (Request.styles
      (styleRequest (h.nextEntry element values usesInline) none)).toJson).2 = .ok [.styles report])
    (success : report.success = true)
    (same : (h.applyStyles values usesInline).1.files? = h.files?) :
    let b₁ := (b.handle (Request.styles
      (styleRequest (h.nextEntry element values usesInline) none)).toJson).1
    let back := (styleRequest (h.nextEntry element values usesInline).inverted (some .undo)).normal
    (h.applyStyles values usesInline).1.undo.1.files? = h.files? ↔
      ∀ file w, b₁.resolve back.path? back.position? back.hints = .ok file →
        b₁.convert back back.hints file = .ok w →
          w.modified = file.2 ∨ (b₁.save file.1 w.modified (Backend.styleNote back)).2 ≠ none := by
  intro b₁ back
  let e := h.nextEntry element values usesInline
  obtain ⟨selector, properties⟩ := Backend.of_handle_report answered
  obtain ⟨history, link⟩ := applyStyles_written linked selected asks usesInline answered success
  -- the edit has left the files, so the backend has no record of it
  have before : h.files? = some (Storage.files b.store) := by
    unfold files?
    rw [linked]
    rfl
  have files : Storage.files b₁.store = Storage.files b.store := by
    rw [before] at same
    unfold files? at same
    rw [link] at same
    exact Option.some.inj same
  have handled := Backend.handle_styles (b := b) selector properties
  have answer : b₁ = (b.answerStyles (styleRequest e none).normal).1 := congrArg Prod.fst handled
  have told : report = (b.answerStyles (styleRequest e none).normal).2 := by
    rw [handled] at answered
    cases answered
    rfl
  have unrecorded : b₁.journal.get? e.id = none := by
    rw [answer, Backend.unchanged_unrecorded distinct rfl (answer ▸ files) (told ▸ success)]
    exact unused
  -- so what taking it back does is decided by converting the inverted changes
  have named : back.entryId? = some e.id := normal_entryId rfl (some .undo)
  rw [undo_files history link selector properties, before, ← files]
  rw [Option.some.injEq]
  exact Backend.unrecorded_leaves_iff (files ▸ distinct) named rfl unrecorded

/-- A bold paragraph in a project of one file. -/
def boldParagraph : Backend Memory :=
  { store := { sources := [("a.tsx", "<p className=\"font-bold\"/>".toList)] } }

/-- A host over this project; the paragraph is selected, and the frame reports a weight for it. -/
def overBold (weight : String) : Host (LocalLink Memory) :=
  { link? := some ⟨boldParagraph, false⟩
    selected? := some {
      selector := "p", tagName := "p", computedStyles := [("fontWeight", weight)]
      position? := some ⟨"a.tsx", 1, none⟩ } }

/-- The paragraph is made bold and was reported to be bold; so taking that back converts to nothing new. -/
theorem overBold_bold :
    let e := (overBold "bold").nextEntry (overBold "bold").selected?.get! [("fontWeight", "bold")] false
    let b := (boldParagraph.handle (Request.styles (styleRequest e none)).toJson).1
    let back := (styleRequest e.inverted (some .undo)).normal
    ∀ file w, b.resolve back.path? back.position? back.hints = .ok file →
      b.convert back back.hints file = .ok w →
        w.modified = file.2 ∨ (b.save file.1 w.modified (Backend.styleNote back)).2 ≠ none :=
  (undo_of_unchanged rfl (by decide) rfl (by decide) false rfl
    (congrArg Prod.snd (Backend.handle_styles rfl (by decide))) (by decide +kernel)
    (by decide +kernel)).mp (by decide +kernel)

/-- To make the paragraph bold writes nothing and is told to be done; but to take that back rewrites the
paragraph if its weight was reported as a number. -/
theorem overBold_400 :
    let h := ((overBold "400").applyStyles [("fontWeight", "bold")] false).1
    h.files? = (overBold "400").files? ∧ h.hasPendingChanges = true ∧ h.syncError? = none ∧
      h.undo.1.files? = some [("a.tsx", "<p className=\"font-normal\"/>".toList)] ∧
      h.undo.1.files? ≠ (overBold "400").files? := by
  decide +kernel

end Host

end Retouch
