import Retouch.Proofs.Backend.Styling
import Retouch.Proofs.Backend.Swap
import Retouch.Proofs.Patch.Span

/-!
# An edit taken back

A request made style changes, and the next one takes them back. Whether the project is then what it
was before is decided by where the backend looks: it has to come to the same file and, there, to swap
the text of the tag that was edited (`undo_restores_iff`). To lead it elsewhere takes no more than a
second tag that reads like the edited one, and that the hints lead to once the edit is made.
-/

namespace Retouch

open Retouch.Text Retouch.Markup Retouch.Locate Retouch.Patch

/-- The request that takes back what a request did: the same hints, every change inverted. -/
def StyleUpdate.takenBack (r : StyleUpdate) (skipsDeploy : Bool) : StyleUpdate :=
  { r with
    changes := r.changes.map StyleChange.inverted
    direction? := some .undo
    skipsDeploy }

namespace Backend

variable {σ : Type} [Storage σ]

/-! ### How a file is restyled -/

omit [Storage σ] in
/-- What the journal makes of a request in a direction. -/
theorem replay?_eq (b : Backend σ) {r : StyleUpdate} {id : String} {d : Direction}
    (named : r.entryId? = some id) (directed : r.direction? = some d) (file : SourceFile) :
    b.replay? r r.hints file =
      (b.journal.replay? id d file.1 file.2 r.hints b.settings.search).map fun modified =>
        ⟨modified, r.changes.map fun c => c.property ++ ": " ++ Patch.valueWords c.newValue, [], none⟩ := by
  unfold replay?
  rw [named, directed]
  change (b.journal.replay? id d file.1 file.2 r.hints b.settings.search).bind _ = _
  cases b.journal.replay? id d file.1 file.2 r.hints b.settings.search <;> rfl

omit [Storage σ] in
/-- Without a direction, nothing is replayed. -/
theorem replay?_undirected (b : Backend σ) {r : StyleUpdate} (undirected : r.direction? = none)
    (file : SourceFile) : b.replay? r r.hints file = none := by
  unfold replay?
  rw [undirected]
  cases r.entryId? <;> rfl

omit [Storage σ] in
/-- Changes that are converted are written by a batch; a new edit that changes its tag is recorded. -/
theorem convert_ok {b : Backend σ} {r : StyleUpdate} {file : SourceFile} {w : Restyling}
    (converted : b.convert r r.hints file = .ok w) :
    ∃ patch, applyStyleChanges file.2 r.changes r.hints b.settings.search (Path.isMarkup file.1) =
        .ok patch ∧ w.modified = patch.modified ∧
      w.record? = if r.entryId?.isSome && r.direction?.isNone && patch.changed then
        some ⟨file.1, patch.tagBefore, patch.tagAfter⟩ else none := by
  unfold convert at converted
  dsimp only at converted
  split at converted
  · cases converted
  · rename_i patch patched
    split at converted
    · cases converted
    · cases converted
      exact ⟨patch, patched, rfl, rfl⟩

/-- A request that makes an edit: the file that holds the element, the tag that is found in it, and
what a batch of changes makes of them. -/
structure Edits (b : Backend σ) (r : StyleUpdate) (path : String) (source : Text) (tag : Tag)
    (patch : StylePatch) : Prop where
  /-- The file holds the element. -/
  resolved : b.resolve r.path? r.position? r.hints = .ok (path, source)
  /-- The tag is found in it. -/
  located : findTag? source r.hints b.settings.search = some (tag, patch.strategy)
  /-- The changes are written. -/
  patched : applyStyleChanges source r.changes r.hints b.settings.search (Path.isMarkup path) =
    .ok patch

/-- A request makes one edit. -/
theorem Edits.unique {b : Backend σ} {r : StyleUpdate} {path path' : String} {source source' : Text}
    {tag tag' : Tag} {patch patch' : StylePatch} (one : b.Edits r path source tag patch)
    (other : b.Edits r path' source' tag' patch') :
    path' = path ∧ source' = source ∧ tag' = tag ∧ patch' = patch := by
  obtain ⟨rfl, rfl⟩ := Prod.mk.inj (Except.ok.inj (other.resolved.symm.trans one.resolved))
  have same : patch' = patch := Except.ok.inj (other.patched.symm.trans one.patched)
  subst same
  exact ⟨rfl, rfl, congrArg Prod.fst (Option.some.inj (other.located.symm.trans one.located)), rfl⟩

/-! ### When the text comes back -/

/-- How the request that takes an edit back can give the text of the file back. -/
inductive TakesBack (b : Backend σ) (r : StyleUpdate) (id path : String) (source : Text) (tag : Tag)
    (patch : StylePatch) : Prop where
  /-- The edit is on record, its tag is swapped where it was edited, and what stands behind the tag is
  what stood there. -/
  | swapped (changed : patch.changed = true)
      (recorded : b.journal.get? id = some ⟨path, patch.tagBefore, patch.tagAfter⟩)
      (place : Journal.swapPlace? patch.modified patch.tagAfter r.hints b.settings.search =
        some tag.start)
      (rest : patch.modified.drop (tag.start + patch.tagAfter.length) =
        source.drop (tag.start + patch.tagBefore.length))
  /-- The edit left its tag as it was and so is not on record, but an earlier one of the same id is,
  and swapping its texts happens to give the text back. -/
  | outdated (unchanged : patch.changed = false)
      (replayed : b.journal.replay? id .undo path patch.modified r.hints b.settings.search =
        some source)
  /-- Nothing can be swapped, and the inverted changes happen to be converted to the text. -/
  | converted
      (unreplayed : b.journal.replay? id .undo path patch.modified r.hints b.settings.search = none)
      {patch' : StylePatch}
      (patched : applyStyleChanges patch.modified r.changes r.hints b.settings.search
        (Path.isMarkup path) = .ok patch')
      (restores : patch'.modified = source)

omit [Storage σ] in
/-- With an edit on record, the journal takes it back where it finds its tag. -/
theorem replay?_recorded {j : Journal} {id path : String} {before after : Text}
    (recorded : j.get? id = some ⟨path, before, after⟩) (modified : Text) (hints : Hints)
    (limits : SearchLimits) :
    j.replay? id .undo path modified hints limits =
      (Journal.swapPlace? modified after hints limits).map fun i =>
        splice modified i (i + after.length) before := by
  unfold Journal.replay?
  rw [recorded, Option.filter_some, if_pos (beq_self_eq_true path)]
  exact Journal.swap?_eq modified after before hints limits

/-- A new edit that changes its tag is on record afterwards, if anything is. -/
theorem Edits.recorded {b b' : Backend σ} {r : StyleUpdate} {id path : String} {source : Text}
    {tag : Tag} {patch : StylePatch} {w : Restyling} (edits : b.Edits r path source tag patch)
    (edit : r.direction? = none) (named : r.entryId? = some id)
    (restyled : b.restyle r (path, source) = .ok w)
    (journal : b'.journal = (b.enter r.entryId? w.record?).journal) (changed : patch.changed = true) :
    b'.journal.get? id = if b.journal.capacity = 0 then none else
      some ⟨path, patch.tagBefore, patch.tagAfter⟩ := by
  unfold restyle at restyled
  rw [replay?_undirected b edit] at restyled
  obtain ⟨patch', patched, -, record⟩ := convert_ok restyled
  obtain rfl : patch' = patch := Except.ok.inj (patched.symm.trans edits.patched)
  rw [named, edit, changed] at record
  rw [journal, named, record]
  exact Journal.get?_record b.journal id _

/-- With an edit on record that changed its tag, what is replayed is the text from before exactly if the
tag is swapped where it was edited, and what stands behind the tag is what stood there. -/
theorem Edits.replayed_iff {b : Backend σ} {r : StyleUpdate} {id path : String} {source m : Text}
    {tag : Tag} {patch : StylePatch} (edits : b.Edits r path source tag patch)
    (changed : patch.changed = true) {j : Journal} {hints : Hints} {limits : SearchLimits}
    (recorded : j.get? id = some ⟨path, patch.tagBefore, patch.tagAfter⟩)
    (replayed : j.replay? id .undo path patch.modified hints limits = some m) :
    m = source ↔
      Journal.swapPlace? patch.modified patch.tagAfter hints limits = some tag.start ∧
        patch.modified.drop (tag.start + patch.tagAfter.length) =
          source.drop (tag.start + patch.tagBefore.length) := by
  rw [replay?_recorded recorded] at replayed
  obtain ⟨i, place, rfl⟩ := Option.map_eq_some_iff.mp replayed
  obtain ⟨tag', located, edited⟩ := applyStyleChanges_edits edits.patched
  obtain rfl : tag' = tag :=
    congrArg Prod.fst (Option.some.inj (located.symm.trans edits.located))
  obtain ⟨tagBefore, tagAfter, differ, stood, stands⟩ := edited.changed changed
  have restores := splice_restores_iff tagBefore tagAfter differ stood stands edited.before
    (Journal.swapPlace?_prefix place)
  rw [restores, place, Option.some.injEq]

/-- **When the text of an edited file comes back.** The request that takes an edit back restyles the file
to what it was exactly if it takes the edit back in one of the three ways. -/
theorem restyled_iff_takesBack {b b' : Backend σ} {r r' : StyleUpdate} {id path : String}
    {source : Text} {tag : Tag} {patch : StylePatch} {w w' : Restyling}
    (edits : b.Edits r path source tag patch) (edit : r.direction? = none)
    (named : r.entryId? = some id) (restyled : b.restyle r (path, source) = .ok w)
    (journal : b'.journal = (b.enter r.entryId? w.record?).journal)
    (named' : r'.entryId? = some id) (directed : r'.direction? = some .undo)
    (restyled' : b'.restyle r' (path, patch.modified) = .ok w') :
    w'.modified = source ↔ TakesBack b' r' id path source tag patch := by
  unfold restyle at restyled'
  rw [replay?_eq b' named' directed] at restyled'
  cases replayed : b'.journal.replay? id .undo path patch.modified r'.hints b'.settings.search with
  | none =>
    rw [replayed] at restyled'
    obtain ⟨patch', patched', modified, -⟩ := convert_ok restyled'
    rw [modified]
    constructor
    · exact fun restores => .converted replayed patched' restores
    · rintro (⟨-, recorded, place, -⟩ | ⟨-, again⟩ | ⟨-, again, restores⟩)
      · rw [replay?_recorded recorded, place] at replayed
        cases replayed
      · cases replayed.symm.trans again
      · rw [← restores, Except.ok.inj (patched'.symm.trans again)]
  | some m =>
    rw [replayed] at restyled'
    have modified : w'.modified = m := by
      cases restyled'
      rfl
    rw [modified]
    cases changed : patch.changed with
    | false =>
      constructor
      · rintro rfl
        exact .outdated changed replayed
      · rintro (⟨differs, -⟩ | ⟨-, again⟩ | ⟨unreplayed, -⟩)
        · cases changed.symm.trans differs
        · exact Option.some.inj (replayed.symm.trans again)
        · cases replayed.symm.trans unreplayed
    | true =>
      -- the record of this edit is what was replayed, so the texts of its tag are swapped
      have recorded : b'.journal.get? id = some ⟨path, patch.tagBefore, patch.tagAfter⟩ := by
        have := edits.recorded edit named restyled journal changed
        split at this
        · unfold Journal.replay? at replayed
          rw [this] at replayed
          cases replayed
        · exact this
      rw [edits.replayed_iff changed recorded replayed]
      constructor
      · rintro ⟨place, rest⟩
        exact .swapped changed recorded place rest
      · rintro (⟨-, -, place, rest⟩ | ⟨unchanged, -⟩ | ⟨unreplayed, -⟩)
        · exact ⟨place, rest⟩
        · cases changed.symm.trans unchanged
        · cases replayed.symm.trans unreplayed

/-! ### When the project is what it was -/

/-- A file that is restyled without a direction is edited. -/
theorem Restyles.edits {b : Backend σ} {r : StyleUpdate} {file : SourceFile} {w : Restyling}
    (restyles : b.Restyles r file w) (edit : r.direction? = none) :
    ∃ tag patch, b.Edits r file.1 file.2 tag patch ∧ w.modified = patch.modified := by
  have converted := restyles.restyled
  unfold restyle at converted
  rw [replay?_undirected b edit] at converted
  obtain ⟨patch, patched, modified, -⟩ := convert_ok converted
  obtain ⟨tag, located, -⟩ := applyStyleChanges_edits patched
  exact ⟨tag, patch, ⟨restyles.resolved, located, patched⟩, modified⟩

/-- **An edit taken back.** A request makes an edit that changes a file, and the next one takes it back.
The files are then what they were exactly if the second request comes to the same file, and takes the
edit back there in one of the three ways. -/
theorem undo_restores_iff [FaithfulStorage σ] {b : Backend σ} {r : StyleUpdate} {id : String}
    (skipsDeploy : Bool) (distinct : (Table.keys (Storage.files b.store)).Nodup)
    (named : r.entryId? = some id) (edit : r.direction? = none)
    (made : (b.answerStyles r).2.success = true)
    (changed : Storage.files (b.answerStyles r).1.store ≠ Storage.files b.store)
    (back : ((b.answerStyles r).1.answerStyles (r.takenBack skipsDeploy)).2.success = true) :
    let b₁ := (b.answerStyles r).1
    Storage.files (b₁.answerStyles (r.takenBack skipsDeploy)).1.store = Storage.files b.store ↔
      ∃ path source tag patch, b.Edits r path source tag patch ∧
        b₁.resolve r.path? r.position? r.hints = .ok (path, patch.modified) ∧
        b₁.TakesBack (r.takenBack skipsDeploy) id path source tag patch := by
  intro b₁
  obtain ⟨failed, -⟩ | ⟨⟨path, source⟩, w, written⟩ := b.answerStyles_cases r distinct
  · cases made.symm.trans failed
  have restyles := written.restyles
  have files₁ := written.files
  obtain ⟨tag, patch, edits, modified⟩ := restyles.edits edit
  have listed := restyles.listed distinct
  have distinct₁ : (Table.keys (Storage.files b₁.store)).Nodup := by
    rw [files₁, Table.keys_set_of_get? listed]
    exact distinct
  obtain ⟨failed, -⟩ | ⟨⟨path', source'⟩, w', written'⟩ :=
    b₁.answerStyles_cases (r.takenBack skipsDeploy) distinct₁
  · cases back.symm.trans failed
  have restyles' := written'.restyles
  have files₂ := written'.files
  have listed' := restyles'.listed distinct₁
  dsimp only at listed listed' files₁ files₂ modified
  rw [modified] at files₁
  -- in the file of the edit, the second request finds what the edit left
  have reads (same : path' = path) : source' = patch.modified := by
    rw [same, files₁, Table.get?_set, if_pos (beq_self_eq_true path)] at listed'
    exact (Option.some.inj listed').symm
  have comesBack : path' = path → source' = patch.modified →
      (w'.modified = source ↔ b₁.TakesBack (r.takenBack skipsDeploy) id path source tag patch) := by
    rintro rfl rfl
    exact restyled_iff_takesBack edits edit named restyles.restyled written.journal named rfl
      restyles'.restyled
  rw [files₂, files₁, Table.set_set_eq_iff listed (files₁ ▸ changed)]
  constructor
  · rintro ⟨same, text⟩
    have read := reads same
    refine ⟨path, source, tag, patch, edits, ?_, (comesBack same read).mp text⟩
    rw [← read, ← same]
    exact restyles'.resolved
  · rintro ⟨path₀, source₀, tag₀, patch₀, edits₀, resolved, takes⟩
    obtain ⟨rfl, rfl, rfl, rfl⟩ := edits.unique edits₀
    obtain ⟨same, read⟩ := Prod.mk.inj (Except.ok.inj (restyles'.resolved.symm.trans resolved))
    exact ⟨same, (comesBack same read).mpr takes⟩

/-- A project with two tags that differ in one class. -/
def twins : Backend Memory :=
  { store := { sources :=
      [("a.tsx", "<p class=\"text-xl promo\"/><p class=\"text-lg promo\"/>".toList)] } }

/-- A project with one of these tags. -/
def single : Backend Memory :=
  { store := { sources := [("a.tsx", "<p class=\"text-lg promo\"/>".toList)] } }

/-- A larger font asked for, for the tag with the smaller one. -/
def enlarge : StyleUpdate :=
  { selector := "p", changes := [⟨"fontSize", "18px", "20px", false⟩], path? := some "a.tsx",
    classes? := some "text-lg promo", entryId? := some "e1" }

/-- A tag that stands alone is swapped where it was edited. -/
theorem single_takesBack :
    ∃ path source tag patch, single.Edits enlarge path source tag patch ∧
      (single.answerStyles enlarge).1.resolve enlarge.path? enlarge.position? enlarge.hints =
        .ok (path, patch.modified) ∧
      (single.answerStyles enlarge).1.TakesBack (enlarge.takenBack true) "e1" path source tag patch :=
  (undo_restores_iff true (by decide) rfl rfl (by decide +kernel) (by decide +kernel)
    (by decide +kernel)).mp (by decide +kernel)

/-- Once the second of two tags reads like the first one, the first one is swapped. -/
theorem twins_swapped :
    twins.store.sources ≠ (twins.answerStyles enlarge).1.store.sources ∧
      (twins.answerStyles enlarge).2.success = true ∧
      ((twins.answerStyles enlarge).1.answerStyles (enlarge.takenBack true)).2.success = true ∧
      ((twins.answerStyles enlarge).1.answerStyles (enlarge.takenBack true)).1.store.sources =
        [("a.tsx", "<p class=\"text-lg promo\"/><p class=\"text-xl promo\"/>".toList)] ∧
      ((twins.answerStyles enlarge).1.answerStyles (enlarge.takenBack true)).1.store.sources ≠
        twins.store.sources := by
  decide +kernel

end Backend

end Retouch
