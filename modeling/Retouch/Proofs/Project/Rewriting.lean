import Retouch.CommandLine.Run
import Retouch.Proofs.Table
import Retouch.Proofs.Text
import Retouch.Proofs.Text.LineEnds

/-!
# Source files read and written back

A source file is read with line feeds for its line ends and written as the text then is. When a span of
the text is exchanged in between, the bytes around it are written as they stood just when there is no
return among them; a return outside the span is lost, with whatever else the edit was about
(`edit_keeps_bytes_iff`). This is so for a project that is listed and saved to, and for a file that a
command reads and writes.
-/

namespace Retouch

namespace Directory

open Text Utf8

variable {d d' : Directory} {names : Names} {path : String} {bytes : List UInt8} {text : Text}

/-! ### Places -/

/-- A name that a file or a folder can have. -/
structure IsName (name : Text) : Prop where
  /-- It does not stand for the folder itself. -/
  here : isHere name = false
  /-- It does not stand for the folder around. -/
  around : isAround name = false
  /-- There is no slash in it. -/
  slash : '/' ∉ name

/-- The files of a directory stand at places of their own, under names that files can have. -/
structure IsProper (d : Directory) : Prop where
  distinct : (Table.keys d.files).Nodup
  placed : ∀ names ∈ Table.keys d.files, names ≠ []
  named : ∀ names ∈ Table.keys d.files, ∀ name ∈ names, IsName name

theorem resolveFrom_names (proper : ∀ name ∈ names, IsName name) (inner : Names) :
    resolveFrom inner names = some (names.reverse ++ inner) := by
  induction names generalizing inner with
  | nil => rfl
  | cons name rest ih =>
    obtain ⟨first, later⟩ := List.forall_mem_cons.mp proper
    unfold resolveFrom
    rw [first.here, if_neg Bool.false_ne_true, first.around, if_neg Bool.false_ne_true, ih later,
      List.reverse_cons, List.append_assoc, List.singleton_append]

/-- The path of a place leads to it. -/
theorem resolve?_pathOf (some : names ≠ []) (proper : ∀ name ∈ names, IsName name) :
    resolve? (pathOf names) = Option.some names := by
  rw [resolve?, pathOf, String.toList_ofList, splitOn_join some fun name mem => (proper name mem).slash,
    resolveFrom_names proper, List.append_nil, Option.map_some, List.reverse_reverse]

theorem get?_of_entry? (stands : d.entry? names = some (.file bytes)) :
    Table.get? d.files names = some bytes := by
  unfold entry? at stands
  split at stands
  · rename_i found
    cases stands
    exact found
  · split at stands
    · cases stands
    · cases stands

theorem get?_of_findFrom {inner : Names} {rest : List Text}
    (found : d.findFrom inner rest = some (names, .file bytes)) :
    Table.get? d.files names = some bytes := by
  fun_induction findFrom d inner rest with
  | case1 => cases found
  | case2 inner name rest _ ih => exact ih found
  | case3 inner name rest _ _ ih => exact ih found
  | case4 inner name rest _ _ bytes' stands =>
    cases found
    exact get?_of_entry? stands
  | case5 => cases found
  | case6 inner name rest _ _ _ ih => exact ih found
  | case7 => cases found

/-- A file that a path leads to stands at its place. -/
theorem get?_of_find? (found : d.find? path = some (names, .file bytes)) :
    Table.get? d.files names = some bytes := by
  unfold find? at found
  split at found
  · cases found
  split at found
  · cases found
  · exact get?_of_findFrom found
  · exact get?_of_findFrom found

/-- A source that is listed is a file, read as a text. -/
theorem mem_sources (listed : (path, text) ∈ d.sources) :
    ∃ names bytes, (names, bytes) ∈ d.files ∧ pathOf names = path ∧ readText? bytes = some text := by
  obtain ⟨⟨names, bytes⟩, mem, read⟩ := List.mem_filterMap.mp listed
  obtain ⟨t, read, eq⟩ := Option.map_eq_some_iff.mp read
  cases eq
  exact ⟨names, bytes, (List.mem_filter.mp (List.mem_mergeSort.mp mem)).1, rfl, read⟩

/-! ### Saves -/

/-- To make a folder touches no file. -/
theorem makeFolder_files (d : Directory) (inner : Names) : (d.makeFolder inner).1.files = d.files := by
  fun_induction makeFolder d inner with
  | case7 =>
    rename_i made ih
    rwa [made] at ih
  | case8 | case9 =>
    rename_i made _ ih
    rwa [made] at ih
  | _ => rfl

theorem write_eq_ok (written : d.write names bytes = (d', none)) :
    d' = { d with files := Table.set d.files names bytes } := by
  unfold write at written
  split at written
  · cases written
  split at written
  · cases written
  · cases written
    rfl

/-- A save writes the file at the place that the path leads to. -/
theorem save_eq_ok (saved : d.save path (.text text) = (d', none)) :
    ∃ names, resolve? path = some names ∧ d'.files = Table.set d.files names (encode text) := by
  unfold save at saved
  split at saved
  · cases saved
  split at saved
  · cases saved
  rename_i names place
  split at saved
  · cases saved
  rename_i made folder
  obtain rfl := write_eq_ok saved
  have files := makeFolder_files d names.reverse.tail
  rw [folder] at files
  exact ⟨names, place, by rw [← files]; rfl⟩

/-! ### Spans exchanged -/

/-- The file at a place, read as `pre ++ old ++ post`, is written with `new` for `old`, and no other file
is touched. The bytes around the span are written as they stood just when there is no return in them. -/
def RewritesSpan (d d' : Directory) (names : Names) (pre old new post : Text) : Prop :=
  ∃ before span behind : Text,
    Table.get? d.files names = some (encode before ++ encode span ++ encode behind) ∧
    unifyBreaks before = pre ∧ unifyBreaks span = old ∧ unifyBreaks behind = post ∧
    (Table.get? d'.files names = some (encode before ++ encode new ++ encode behind) ↔
      '\r' ∉ before ++ behind) ∧
    ∀ other, other ≠ names → Table.get? d'.files other = Table.get? d.files other

theorem rewritesSpan {pre old post : Text} (stands : Table.get? d.files names = some bytes)
    (read : readText? bytes = some (pre ++ old ++ post)) (new : Text)
    (written : d'.files = Table.set d.files names (encode (pre ++ new ++ post))) :
    d.RewritesSpan d' names pre old new post := by
  obtain ⟨t, decoded, cut⟩ := Option.map_eq_some_iff.mp read
  obtain ⟨u, behind, rfl, around, rfl⟩ := exists_cut cut
  obtain ⟨before, span, rfl, rfl, rfl⟩ := exists_cut around
  refine ⟨before, span, behind, ?_, rfl, rfl, rfl, ?_, fun other differ => ?_⟩
  · rw [stands, ← encode_of_decode? decoded, encode_append, encode_append]
  · rw [written, Table.get?_set, if_pos (beq_self_eq_true names), Option.some.injEq, encode_unified_iff]
  · rw [written, Table.get?_set, if_neg (by simpa using differ)]

/-- A source that is listed and saved with a span exchanged. -/
theorem saved_rewritesSpan (proper : d.IsProper) {pre old post : Text}
    (listed : (path, pre ++ old ++ post) ∈ d.sources) (new : Text)
    (saved : d.save path (.text (pre ++ new ++ post)) = (d', none)) :
    ∃ names, pathOf names = path ∧ d.RewritesSpan d' names pre old new post := by
  obtain ⟨names, bytes, mem, rfl, read⟩ := mem_sources listed
  have key : names ∈ Table.keys d.files := List.mem_map_of_mem mem
  obtain ⟨place, resolved, written⟩ := save_eq_ok saved
  obtain rfl : names = place := by
    rw [resolve?_pathOf (proper.placed names key) (proper.named names key)] at resolved
    exact Option.some.inj resolved
  exact ⟨names, rfl, rewritesSpan (Table.get?_of_mem proper.distinct mem) read new written⟩

/-- A listed source that is saved as it was read keeps its bytes just when there is no return in it. -/
theorem saved_unchanged_iff (proper : d.IsProper) (listed : (path, text) ∈ d.sources)
    (saved : d.save path (.text text) = (d', none)) :
    ∃ names t, pathOf names = path ∧ Table.get? d.files names = some (encode t) ∧
      (Table.get? d'.files names = Table.get? d.files names ↔ '\r' ∉ t) := by
  -- the whole text stands before an empty span
  have whole : (path, text ++ [] ++ []) ∈ d.sources := by simpa using listed
  have back : d.save path (.text (text ++ [] ++ [])) = (d', none) := by simpa using saved
  obtain ⟨names, path_eq, before, span, behind, stood, -, noSpan, noMore, same, -⟩ :=
    saved_rewritesSpan proper whole [] back
  obtain rfl := eq_nil_of_unifyBreaks noSpan
  obtain rfl := eq_nil_of_unifyBreaks noMore
  simp only [encode_nil, List.append_nil] at stood same
  exact ⟨names, before, path_eq, stood, by rw [stood, same]⟩

end Directory

/-! ### Commands -/

namespace CommandLine

open Text Utf8

/-- A file that a command reads stands at its place. -/
theorem SourceFile.read_eq_ok {d : Directory} {path : String} {f : SourceFile}
    (read : SourceFile.read d path = .ok f) :
    ∃ bytes, Table.get? d.files f.names = some bytes ∧ Directory.readText? bytes = some f.text := by
  unfold SourceFile.read at read
  split at read
  · rename_i names bytes found
    split at read
    · rename_i text decoded
      cases read
      exact ⟨bytes, Directory.get?_of_find? found, decoded⟩
    · cases read
  · cases read

/-- A file that is written without a breakdown holds the new text, and the others what they held. -/
theorem SourceFile.dispose_write {f : SourceFile} {o : Outcome} {new : Text}
    (done : (f.dispose o new .write).breakdown? = none) :
    (f.dispose o new .write).directory.files = Table.set o.directory.files f.names (encode new) := by
  unfold SourceFile.dispose at done ⊢
  dsimp only at done ⊢
  split at done
  · rename_i directory written
    exact congrArg Directory.files (Directory.write_eq_ok written)
  · cases done

/-- **What an edit leaves of the bytes around it**: whether a project is listed and saved to or a command
reads a file and writes it, an exchanged span leaves the bytes around it as they stood just when there is
no return among them. -/
theorem edit_keeps_bytes_iff {d : Directory} (proper : d.IsProper) (pre old new post : Text) :
    (∀ path d', (path, pre ++ old ++ post) ∈ d.sources →
      d.save path (.text (pre ++ new ++ post)) = (d', none) →
        ∃ names, Directory.pathOf names = path ∧ d.RewritesSpan d' names pre old new post) ∧
    ∀ path f, SourceFile.read d path = .ok f → f.text = pre ++ old ++ post →
      ∀ o : Outcome, o.directory = d → (f.dispose o (pre ++ new ++ post) .write).breakdown? = none →
        d.RewritesSpan (f.dispose o (pre ++ new ++ post) .write).directory f.names pre old new post := by
  refine ⟨fun path d' listed saved => Directory.saved_rewritesSpan proper listed new saved, ?_⟩
  rintro path f read text o rfl done
  obtain ⟨bytes, stands, decoded⟩ := SourceFile.read_eq_ok read
  exact Directory.rewritesSpan stands (text ▸ decoded) new (SourceFile.dispose_write done)

/-- A page whose lines end with a return and a line feed. -/
def returnsPage : Directory :=
  { files := [(["App.html".toList], encode "<p>one</p>\r\n".toList)] }

/-- The line end behind a text that is replaced is written without its return. -/
theorem replaced_loses_return :
    ∃ names, Directory.pathOf names = "App.html" ∧
      returnsPage.RewritesSpan (returnsPage.save "App.html" (.text "<p>two</p>\n".toList)).1 names
        "<p>".toList "one".toList "two".toList "</p>\n".toList := by
  have proper : returnsPage.IsProper :=
    ⟨by decide, by decide, fun names mem name inNames => by
      obtain rfl := List.mem_singleton.mp mem
      obtain rfl := List.mem_singleton.mp inNames
      exact ⟨by decide, by decide, by decide⟩⟩
  obtain ⟨names, path, rewrites⟩ := (edit_keeps_bytes_iff proper "<p>".toList "one".toList "two".toList
    "</p>\n".toList).1 "App.html" (returnsPage.save "App.html" (.text "<p>two</p>\n".toList)).1
      (by decide +kernel) (Prod.ext rfl (by decide +kernel))
  exact ⟨names, path, rewrites⟩

/-- To replace the text of the page on the command line changes more than the text: the return is gone. -/
theorem command_loses_return :
    (run returnsPage ["replace-text", "App.html", "one", "two"]).directory.files =
      [(["App.html".toList], encode "<p>two</p>\n".toList)] ∧
    encode "<p>two</p>\n".toList ≠ encode "<p>".toList ++ encode "two".toList ++ encode "</p>\r\n".toList := by
  decide +kernel

end CommandLine

end Retouch
