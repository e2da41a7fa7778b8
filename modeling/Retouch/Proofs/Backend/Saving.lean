import Retouch.Proofs.Backend.Refusal
import Retouch.Proofs.Upload.Receiving

/-!
# What a message saves

A message that is answered saves one text at most, and an image at most if it brings the last piece of
one. It saves anything only if it is answered by success, every save is on record under its path, and
whatever is not saved stays as it was (`Backend.handle_saves`).
-/

namespace Retouch

/-- The request was met. -/
def Response.succeeds : Response → Bool
  | .styles r => r.success
  | .text r => r.success
  | .image r => r.success
  | .refreshed success _ => success
  | .code place => place.success
  | .progress .. | .error .. => false

namespace Memory

/-- From one state of the storage to the next, an image and a text are saved at most: each is set under
its path and entered on record under it, the image first, and nothing else happens. -/
structure Saves (before after : Memory) (image? : Option (String × List UInt8))
    (text? : Option (String × Text)) : Prop where
  /-- The text is set under its path. -/
  sources : after.sources = text?.elim before.sources fun e => Table.set before.sources e.1 e.2
  /-- The image is set under its path. -/
  binaries : after.binaries = image?.elim before.binaries fun e => Table.set before.binaries e.1 e.2
  /-- Each is entered on record under its path. -/
  commits : ∃ new, after.commits = before.commits ++ new ∧
    new.map (·.1) = (image?.map (·.1)).toList ++ (text?.map (·.1)).toList
  /-- Saves are refused or not as before. -/
  refuses : after.refuses = before.refuses

/-- To save nothing changes nothing. -/
theorem Saves.nothing (m : Memory) : Saves m m none none :=
  ⟨rfl, rfl, ⟨[], (List.append_nil _).symm, rfl⟩, rfl⟩

/-- If nothing is saved, nothing has changed. -/
theorem Saves.eq {before after : Memory} (saves : Saves before after none none) : after = before := by
  obtain ⟨sources, binaries, ⟨new, commits, none⟩, refuses⟩ := saves
  cases List.map_eq_nil_iff.mp none
  cases before
  cases after
  simp_all

/-- An image is saved first, and then a text. -/
theorem Saves.then {before between after : Memory} {image? : Option (String × List UInt8)}
    {text? : Option (String × Text)} (first : Saves before between image? none)
    (second : Saves between after none text?) : Saves before after image? text? := by
  obtain ⟨new, commits, paths⟩ := first.commits
  obtain ⟨new', commits', paths'⟩ := second.commits
  refine ⟨?_, ?_, ⟨new ++ new', ?_, ?_⟩, second.refuses.trans first.refuses⟩
  · rw [second.sources, first.sources]
    rfl
  · rw [second.binaries, first.binaries]
    rfl
  · rw [commits', commits, List.append_assoc]
  · simp_all

/-- The files that no text is saved to are what they were. -/
theorem Saves.source_of_ne {before after : Memory} {image? : Option (String × List UInt8)}
    {text? : Option (String × Text)} (saves : Saves before after image? text?) {path : String}
    (other : text?.map (·.1) ≠ some path) :
    Table.get? after.sources path = Table.get? before.sources path := by
  rw [saves.sources]
  cases text? with
  | none => rfl
  | some e =>
    have other : path ≠ e.1 := fun same => other (congrArg some same.symm)
    simp [Table.get?_set, other]

/-- The images that are not saved are what they were. -/
theorem Saves.binary_of_ne {before after : Memory} {image? : Option (String × List UInt8)}
    {text? : Option (String × Text)} (saves : Saves before after image? text?) {path : String}
    (other : image?.map (·.1) ≠ some path) :
    Table.get? after.binaries path = Table.get? before.binaries path := by
  rw [saves.binaries]
  cases image? with
  | none => rfl
  | some e =>
    have other : path ≠ e.1 := fun same => other (congrArg some same.symm)
    simp [Table.get?_set, other]

/-- A text that is not refused is saved. -/
theorem save_text {m m' : Memory} {path note : String} {t : Text}
    (accepted : Storage.save m path (.text t) note = (m', none)) : Saves m m' none (some (path, t)) := by
  change m.save path (.text t) note = (m', none) at accepted
  unfold save at accepted
  split at accepted
  · cases accepted
  · cases accepted
    exact ⟨rfl, rfl, ⟨[(path, note)], rfl, rfl⟩, rfl⟩

/-- An image that is not refused is saved. -/
theorem save_bytes {m m' : Memory} {path note : String} {data : List UInt8}
    (accepted : Storage.save m path (.bytes data) note = (m', none)) :
    Saves m m' (some (path, data)) none := by
  change m.save path (.bytes data) note = (m', none) at accepted
  unfold save at accepted
  split at accepted
  · cases accepted
  · cases accepted
    exact ⟨rfl, rfl, ⟨[(path, note)], rfl, rfl⟩, rfl⟩

end Memory

namespace Upload

/-- An upload that is lost leaves the storage as it is. -/
theorem finish_error {σ : Type} [Storage σ] [AtomicStorage σ] {limits : Limits} {store store' : σ}
    {upload : String} {p : Pending} {e : UploadError}
    (failed : finish limits store upload p = (store', .error e)) : store' = store := by
  rcases finish_cases limits store upload p with ⟨e, done⟩ | ⟨data, kept, refusal?, saved, done, ok⟩
  · rw [done] at failed
    cases failed
    rfl
  · rw [failed] at done ok
    subst done
    cases refusal? with
    | none => cases ok.mpr rfl
    | some reason =>
      have kept := AtomicStorage.refused store _ _ _ _ (congrArg Prod.snd saved)
      rwa [saved] at kept

/-- A piece saves an image at most, and only if its upload is complete. -/
theorem receive_saves (limits : Limits) (now : Float) (m : Memory) (uploads : Uploads)
    (chunk : ImageChunk) {m' : Memory} {uploads' : Uploads} {status : Status}
    (received : receive limits now m uploads chunk = (m', uploads', status)) :
    (m' = m ∧ ∀ n path data, status ≠ .complete n path data) ∨
      ∃ n path data, status = .complete n path data ∧ Memory.Saves m m' (some (path, data)) none := by
  have takes := receive_takes limits now m uploads chunk
  rw [received] at takes
  cases takes with
  | refused | waiting => exact Or.inl ⟨rfl, nofun⟩
  | lost _ _ failed => exact Or.inl ⟨finish_error failed, nofun⟩
  | saved _ _ finished =>
    obtain ⟨-, -, -, accepted⟩ := finish_eq_ok.mp finished
    exact Or.inr ⟨_, _, _, rfl, Memory.save_bytes accepted⟩

end Upload

namespace Backend

open Memory

/-- A step from one backend to the next saves a text at most, and none unless it succeeds. -/
def SavesText (b b' : Backend Memory) (success : Bool) : Prop :=
  ∃ text?, Saves b.store b'.store none text? ∧ (text? ≠ none → success = true)

variable {b b' : Backend Memory}

theorem SavesText.nothing {success : Bool} (same : b'.store = b.store) : SavesText b b' success :=
  ⟨none, same ▸ .nothing _, fun some => absurd rfl some⟩

/-- What comes after the save does not matter if it leaves the storage. -/
theorem SavesText.congr {b'' : Backend Memory} {success : Bool} (saves : SavesText b b' success)
    (same : b''.store = b'.store) : SavesText b b'' success := by
  unfold SavesText
  rw [same]
  exact saves

/-- To save a text saves it, unless it is refused. -/
theorem save_savesText (b : Backend Memory) (path : String) (t : Text) (note : String) :
    SavesText b (b.save path t note).1 (b.save path t note).2.isNone := by
  obtain ⟨⟨m, refusal?⟩, outcome⟩ : ∃ outcome,
    Storage.save b.store path (.text t) ("design mode: " ++ note) = outcome := ⟨_, rfl⟩
  unfold save
  rw [outcome]
  cases refusal? with
  | none => exact ⟨some (path, t), save_text outcome, fun _ => rfl⟩
  | some reason =>
    have kept := AtomicStorage.refused b.store _ _ _ _ (congrArg Prod.snd outcome)
    rw [outcome] at kept
    exact .nothing kept

theorem saveStyles_savesText (b : Backend Memory) (r : StyleUpdate) (file : SourceFile)
    (modified : Text) :
    SavesText b (b.saveStyles r file modified).1 (b.saveStyles r file modified).2.isNone := by
  unfold saveStyles
  split
  · exact .nothing rfl
  · exact save_savesText ..

theorem answerStyles_savesText (b : Backend Memory) (r : StyleUpdate) :
    SavesText b (b.answerStyles r).1 (b.answerStyles r).2.success := by
  unfold answerStyles
  dsimp only
  split
  · exact .nothing rfl
  · rename_i file resolved
    split
    · exact .nothing rfl
    · rename_i w restyled
      have saves := saveStyles_savesText (b.enter r.entryId? w.record?) r file w.modified
      unfold SavesText at saves
      rw [(enter_store b r.entryId? w.record?).1] at saves
      split
      · rename_i refused
        rw [refused] at saves
        exact saves
      · rename_i saved
        rw [saved] at saves
        exact SavesText.congr saves (deployUnless_store _ r.skipsDeploy).1

theorem answerText_savesText (b : Backend Memory) (r : TextUpdate) :
    SavesText b (b.answerText r).1 (b.answerText r).2.success := by
  unfold answerText
  split
  · exact .nothing rfl
  · rename_i path modified replaced
    have saves := save_savesText b path modified ("update text for " ++ r.selector)
    split
    · rename_i refused
      rw [refused] at saves
      exact saves
    · rename_i saved
      rw [saved] at saves
      exact saves.congr (deployUnless_store _ r.skipsDeploy).1

/-- To show an image at its element saves a text at most. -/
theorem showImage_saves (b : Backend Memory) (context : Members) (address : String)
    (isBackground : Bool) :
    ∃ text?, Saves b.store (b.showImage context address isBackground).1.store none text? := by
  unfold showImage
  dsimp only
  split
  · exact ⟨none, .nothing _⟩
  · exact ⟨none, .nothing _⟩
  · rename_i target path written planned
    obtain ⟨text?, saves, -⟩ :=
      save_savesText b path written ("use uploaded image for " ++ target.selector)
    exact ⟨text?, saves⟩

/-- A piece of an image saves an image and a text at most, and only if it is answered by success. -/
theorem answerImage_saves {b : Backend Memory} {chunk : ImageChunk} {response : Response}
    (answered : (b.answerImage chunk).2 = .ok response) :
    ∃ image? text?, Saves b.store (b.answerImage chunk).1.store image? text? ∧
      (image? ≠ none ∨ text? ≠ none → response.succeeds = true) := by
  obtain ⟨⟨m, uploads, status⟩, received⟩ : ∃ outcome,
    Upload.receive b.settings.upload b.clock b.store b.uploads chunk = outcome := ⟨_, rfl⟩
  have first := Upload.receive_saves _ _ _ _ _ received
  unfold answerImage at answered ⊢
  rw [received] at answered ⊢
  cases status with
  | inProgress n total =>
    obtain ⟨rfl, -⟩ | ⟨_, _, _, ⟨⟩, -⟩ := first
    exact ⟨none, none, .nothing _, by simp⟩
  | failed total e =>
    obtain ⟨rfl, -⟩ | ⟨_, _, _, ⟨⟩, -⟩ := first
    exact ⟨none, none, .nothing _, by simp⟩
  | complete n path data =>
    obtain ⟨-, incomplete⟩ | ⟨n, path, data, ⟨⟩, first⟩ := first
    · exact absurd rfl (incomplete n path data)
    · obtain ⟨text?, second⟩ := showImage_saves
        (tell { b with store := m, uploads } (.uploadCompleted chunk.upload path)) chunk.context
        (Path.publicAddress path) chunk.isBackground
      obtain ⟨isShown, -, rfl⟩ := map_eq_ok.mp answered
      exact ⟨some (path, data), text?, first.then second, fun _ => rfl⟩

/-- **What a request saves.** -/
theorem answer_saves {b : Backend Memory} {r : Request} {response : Response}
    (answered : (b.answer r).2 = .ok response) :
    ∃ image? text?, Saves b.store (b.answer r).1.store image? text? ∧
      (image? ≠ none → ∃ chunk, r = .image chunk) ∧
      (image? ≠ none ∨ text? ≠ none → response.succeeds = true) := by
  cases r with
  | styles r =>
    cases answered
    obtain ⟨text?, saves, success⟩ := answerStyles_savesText b r
    exact ⟨none, text?, saves, fun some => absurd rfl some,
      fun some => success (some.resolve_left fun some => some rfl)⟩
  | text r =>
    cases answered
    obtain ⟨text?, saves, success⟩ := answerText_savesText b r
    exact ⟨none, text?, saves, fun some => absurd rfl some,
      fun some => success (some.resolve_left fun some => some rfl)⟩
  | image chunk =>
    obtain ⟨image?, text?, saves, success⟩ := answerImage_saves answered
    exact ⟨image?, text?, saves, fun _ => ⟨chunk, rfl⟩, success⟩
  | refresh =>
    refine ⟨none, none, ?_, by simp, by simp⟩
    rw [show (b.answer .refresh).1.store = b.store from (deployUnless_store b false).1]
    exact .nothing _
  | code r => exact ⟨none, none, .nothing _, by simp, by simp⟩

/-- **What a message saves.** An image and a text at most, the image only if the message brings a piece
of one, and anything at all only if the one answer tells of success; otherwise the storage is what it
was. Every save is entered on record under its path, and no other file has changed. -/
theorem handle_saves (b : Backend Memory) (v : Json) {responses : List Response}
    (answered : (b.handle v).2 = .ok responses) :
    ∃ image? text?, Saves b.store (b.handle v).1.store image? text? ∧
      (image? ≠ none → ∃ chunk, Request.read v = .ok (some (.image chunk))) ∧
      (image? ≠ none ∨ text? ≠ none → ∃ response, responses = [response] ∧ response.succeeds = true) ∧
      ((∀ response ∈ responses, response.succeeds = false) → (b.handle v).1.store = b.store) ∧
      (∀ path, text?.map (·.1) ≠ some path →
        Table.get? (b.handle v).1.store.sources path = Table.get? b.store.sources path) ∧
      ∀ path, image?.map (·.1) ≠ some path →
        Table.get? (b.handle v).1.store.binaries path = Table.get? b.store.binaries path := by
  obtain ⟨image?, text?, saves, image, success⟩ : ∃ image? text?,
      Saves b.store (b.handle v).1.store image? text? ∧
        (image? ≠ none → ∃ chunk, Request.read v = .ok (some (.image chunk))) ∧
        (image? ≠ none ∨ text? ≠ none → ∃ response, responses = [response] ∧ response.succeeds = true) := by
    unfold handle at answered ⊢
    split
    · exact ⟨none, none, .nothing _, by simp, by simp⟩
    · rename_i r read
      rw [read] at answered
      have answered : (b.answer r).2.map ([·]) = .ok responses := answered
      obtain ⟨response, answered, single⟩ := map_eq_ok.mp answered
      obtain ⟨image?, text?, saves, image, success⟩ := answer_saves answered
      refine ⟨image?, text?, saves, fun some => ?_, fun some => ⟨response, single.symm, success some⟩⟩
      obtain ⟨chunk, rfl⟩ := image some
      exact ⟨chunk, read⟩
    · exact ⟨none, none, .nothing _, by simp, by simp⟩
    · exact ⟨none, none, .nothing _, by simp, by simp⟩
    · exact ⟨none, none, .nothing _, by simp, by simp⟩
  refine ⟨image?, text?, saves, image, success, fun fails => ?_, fun path => saves.source_of_ne,
    fun path => saves.binary_of_ne⟩
  have none : ¬ (image? ≠ none ∨ text? ≠ none) := by
    intro some
    obtain ⟨response, rfl, succeeds⟩ := success some
    rw [fails response (List.mem_singleton.mpr rfl)] at succeeds
    cases succeeds
  simp only [not_or, Classical.not_not] at none
  rw [none.1, none.2] at saves
  exact saves.eq

/-- A project with one image element. -/
def gallery : Backend Memory := { store := { sources := [("a.tsx", "<img src=\"old.png\"/>".toList)] } }

/-- A message that brings an image for the element, in one piece. -/
def newPhoto : Json := .obj [("type", .str "image_upload"), ("uploadId", .str "up-1"),
  ("chunk", .str "aGk="), ("chunkIndex", .int 0), ("totalChunks", .int 1),
  ("fileName", .str "a.png"), ("mimeType", .str "image/png"),
  ("elementContext", .obj [("selector", .str "img"), ("filePath", .str "a.tsx"),
    ("sourceLocation", .obj [("filePath", .str "a.tsx"), ("lineNumber", .int 1)])])]

/-- The message is answered by success, and saves the image and the text that shows it. -/
theorem newPhoto_saved :
    (gallery.handle newPhoto).2 = .ok [.image
        { success := true, upload := "up-1", address? := some "/images/up-1-a.png" }] ∧
      ∃ image? text?, Saves gallery.store (gallery.handle newPhoto).1.store image? text? ∧
        image?.map (·.1) = some "public/images/up-1-a.png" ∧ text?.map (·.1) = some "a.tsx" := by
  have answered : (gallery.handle newPhoto).2 = .ok [.image
      { success := true, upload := "up-1", address? := some "/images/up-1-a.png" }] := by rfl
  have recorded : (gallery.handle newPhoto).1.store.commits.map (·.1) =
      ["public/images/up-1-a.png", "a.tsx"] := by rfl
  obtain ⟨image?, text?, saves, -⟩ := handle_saves gallery newPhoto answered
  obtain ⟨new, commits, paths⟩ := saves.commits
  rw [commits, show gallery.store.commits = [] from rfl, List.nil_append, paths] at recorded
  refine ⟨answered, image?, text?, saves, ?_⟩
  cases image? <;> cases text? <;> simp_all

end Backend

end Retouch
