import Retouch.Proofs.Upload.Receiving

/-!
# Where uploads are saved

An upload is saved under a name made of the start of its id, a hyphen, and the name of its file in plain
characters. The name of the file never holds a slash, whatever file name and type are told, and the
hyphen keeps the whole from being a dot or two. The id is taken as it is: an upload stays in its folder
exactly if there is no slash at the start of its id (`saved_inFolder_iff`).
-/

namespace Retouch

open Text

/-! ### One part of a path -/

/-- A name is one part of a path: it has no slash, and stands neither for the folder itself nor for the
one above. -/
structure Path.IsPart (name : Text) : Prop where
  /-- There is no slash in it. -/
  slash : '/' ∉ name
  /-- It is not the folder itself. -/
  here : name ≠ ['.']
  /-- It is not the folder above. -/
  above : name ≠ ['.', '.']

namespace Upload

/-! ### Names of files -/

/-- A safe name holds nothing but the characters of file names. -/
theorem isFileChar_of_mem_safeName {name : Text} {c : Char} (mem : c ∈ safeName name) :
    isFileChar c = true := by
  unfold safeName at mem
  have mem := (List.dropWhile_sublist _).subset (List.mem_reverse.mp mem)
  have mem := (List.dropWhile_sublist _).subset (List.mem_reverse.mp mem)
  exact (List.mem_filter.mp mem).2

/-- No ending of a file type holds a slash. -/
theorem slash_notMem_endings : ∀ e ∈ endings, '/' ∉ e.2.toList := by decide

/-- No ending that a file gets holds a slash, whatever the type is. -/
theorem slash_notMem_endingFor (type : String) : '/' ∉ (endingFor type).toList := by
  unfold endingFor
  cases found : endings.lookup (String.ofList (lower type.toList)) with
  | none => simp
  | some ending => exact slash_notMem_endings _ (Table.mem_of_get? found)

/-- A slash in the name of an upload is one at the start of its id: the name of the file brings none. -/
theorem slash_mem_assetName_iff (upload fileName mimeType : String) :
    '/' ∈ (assetName upload fileName mimeType).toList ↔ '/' ∈ upload.toList.take 8 := by
  have safe : '/' ∉ safeName fileName.toList := by
    intro mem
    have plain := isFileChar_of_mem_safeName mem
    revert plain
    decide
  have image : '/' ∉ "image".toList := by decide
  unfold assetName
  simp only [String.toList_ofList, List.mem_append, List.mem_cons]
  refine or_iff_left ?_
  rintro (hyphen | mem)
  · cases hyphen
  · split at mem <;> split at mem <;> simp_all [slash_notMem_endingFor]

/-- A name with a hyphen in it is neither a dot nor two. -/
theorem ne_of_hyphen_mem {name : Text} (hyphen : '-' ∈ name) : name ≠ ['.'] ∧ name ≠ ['.', '.'] := by
  constructor <;> rintro rfl <;> simp at hyphen

/-- The name of an upload is one part of a path exactly if there is no slash at the start of its id. -/
theorem isPart_assetName_iff (upload fileName mimeType : String) :
    Path.IsPart (assetName upload fileName mimeType).toList ↔ '/' ∉ upload.toList.take 8 := by
  have hyphen : '-' ∈ (assetName upload fileName mimeType).toList := by simp [assetName]
  rw [← slash_mem_assetName_iff upload fileName mimeType]
  exact ⟨Path.IsPart.slash, fun slash => ⟨slash, (ne_of_hyphen_mem hyphen).1, (ne_of_hyphen_mem hyphen).2⟩⟩

/-! ### Paths of uploads -/

/-- The folder that uploads are saved in, without the slashes around it. -/
def Limits.folderText (limits : Limits) : Text := stripSlashes limits.folder.toList

/-- A path leads to a file in the folder for uploads: one part follows the folder. -/
def Limits.Holds (limits : Limits) (path : String) : Prop :=
  ∃ name, Path.IsPart name ∧ path.toList = limits.folderText ++ '/' :: name

theorem holds_savePath_iff (limits : Limits) (upload : String) (p : Pending) :
    limits.Holds (savePath limits upload p) ↔ '/' ∉ upload.toList.take 8 := by
  have path : (savePath limits upload p).toList =
      limits.folderText ++ '/' :: (assetName upload p.fileName p.mimeType).toList := by
    simp [savePath, Limits.folderText]
  rw [← isPart_assetName_iff upload p.fileName p.mimeType]
  constructor
  · rintro ⟨name, part, same⟩
    rw [path] at same
    obtain ⟨-, rfl⟩ := List.cons.inj (List.append_cancel_left same)
    exact part
  · exact fun part => ⟨_, part, path⟩

variable {σ : Type} [Storage σ]

/-- An upload that is complete has been saved at its path. -/
theorem exists_of_complete {limits : Limits} {now : Float} {store store' : σ}
    {uploads uploads' : Uploads} {chunk : ImageChunk} {n : Nat} {path : String} {data : List UInt8}
    (complete : receive limits now store uploads chunk = (store', uploads', .complete n path data)) :
    ∃ p, path = savePath limits chunk.upload p ∧
      Storage.save store path (.bytes data) (saveNote p) = (store', none) := by
  have takes := receive_takes limits now store uploads chunk
  rw [complete] at takes
  cases takes with
  | saved collected complete finished =>
    obtain ⟨-, -, path_eq, accepted⟩ := finish_eq_ok.mp finished
    exact ⟨_, path_eq, accepted⟩

/-- **Where an upload is saved.** It is saved at the path that is told, and that path is in the folder for
uploads exactly if there is no slash at the start of the upload's id. -/
theorem saved_inFolder_iff {limits : Limits} {now : Float} {store store' : σ}
    {uploads uploads' : Uploads} {chunk : ImageChunk} {n : Nat} {path : String} {data : List UInt8}
    (complete : receive limits now store uploads chunk = (store', uploads', .complete n path data)) :
    (∃ note, Storage.save store path (.bytes data) note = (store', none)) ∧
      (limits.Holds path ↔ '/' ∉ chunk.upload.toList.take 8) := by
  obtain ⟨p, rfl, accepted⟩ := exists_of_complete complete
  exact ⟨⟨saveNote p, accepted⟩, holds_savePath_iff limits chunk.upload p⟩

/-- An upload of two bytes in one piece. -/
def greeting (upload : String) : ImageChunk where
  upload
  chunk := "aGk="
  index := 0
  total := 1
  fileName := "../a.png"
  mimeType := "image/png"

/-- The empty project with the two bytes saved at a path. -/
def greeted (path : String) : Memory where
  binaries := [(path, [0x68, 0x69])]
  commits := [(path, "design mode: upload ../a.png")]

/-- An upload with a plain id is saved in the folder, whatever its file is called. -/
theorem greeting_inFolder :
    receive {} 0 ({} : Memory) [] (greeting "up-1") =
        (greeted "public/images/up-1-a.png", [], .complete 1 "public/images/up-1-a.png" [0x68, 0x69]) ∧
      ({} : Limits).Holds "public/images/up-1-a.png" := by
  have complete : receive {} 0 ({} : Memory) [] (greeting "up-1") =
      (greeted "public/images/up-1-a.png", [], .complete 1 "public/images/up-1-a.png" [0x68, 0x69]) := by
    rfl
  exact ⟨complete, (saved_inFolder_iff complete).2.mpr (by decide)⟩

/-- An upload whose id climbs out of the folder is saved above it. -/
theorem climbing_outsideFolder :
    receive {} 0 ({} : Memory) [] (greeting "../../x") =
        (greeted "public/images/../../x-a.png", [],
          .complete 1 "public/images/../../x-a.png" [0x68, 0x69]) ∧
      ¬ ({} : Limits).Holds "public/images/../../x-a.png" := by
  refine ⟨by rfl, ?_⟩
  rintro ⟨name, part, same⟩
  have same : "public/images".toList ++ '/' :: "../../x-a.png".toList =
      "public/images".toList ++ '/' :: name := same
  obtain ⟨-, rfl⟩ := List.cons.inj (List.append_cancel_left same)
  exact part.slash (by decide)

end Upload

end Retouch
