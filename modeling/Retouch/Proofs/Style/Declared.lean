import Retouch.Proofs.Markup.Value
import Retouch.Proofs.Outcome
import Retouch.Proofs.Style.Edited
import Retouch.Proofs.Style.Plain
import Retouch.Proofs.Text

/-!
# Declarations read back

An inline style in markup is read as declarations, and what is no declaration is passed over. What is read has
keys of a certain form and values without a semicolon (`Declaration.IsReadable`), and lists of such declarations
are written and read back (`read_write`).

So a change of one property leaves all others as they are exactly if they are readable
(`applyToStyleText_keeps_iff`). An underscore in a key or a semicolon within parentheses, as in the data of an
image, is enough to lose a declaration while another one is edited (`image_lost`).
-/

namespace Retouch.Style

open Retouch.Text Retouch.Markup

namespace Declaration

/-! ### Keys and values that are read -/

/-- A key as it is read: at most two hyphens, a letter, and letters, figures and hyphens. -/
def IsKey (key : Text) : Prop :=
  ∃ dashes c rest, key = dashes ++ c :: rest ∧ (∀ d ∈ dashes, d = '-') ∧ dashes.length ≤ 2 ∧
    isKeyStart c = true ∧ ∀ d ∈ rest, isKeyChar d = true

/-- A value as it is read: without semicolons, and with no blanks around it unless it is a single one. -/
def IsValue (value : Text) : Prop :=
  value ≠ [] ∧ ';' ∉ value ∧ (strip value = value ∨ ∃ b, value = [b])

/-- The declaration is one that is read from some text. -/
def IsReadable (d : Declaration) : Prop := IsKey d.key ∧ IsValue d.value

variable {d x : Declaration} {ds : List Declaration} {t rest : Text}

theorem isKeyStart_ne_dash {c : Char} (starts : isKeyStart c = true) : c ≠ '-' :=
  ne_of_class starts (by decide)

/-- What is read as the key at the start of a text. -/
theorem keyAt?_eq_some_iff {key : Text} :
    keyAt? t = some key ↔
      IsKey key ∧ ∃ rest, t = key ++ rest ∧ ∀ c ∈ rest.head?, isKeyChar c = false := by
  obtain ⟨dashes, tail, rfl, run, stops⟩ := exists_run (· == '-') t
  have count : ((dashes ++ tail).takeWhile (· == '-')).length = dashes.length := by
    rw [takeWhile_run run stops]
  unfold keyAt?
  dsimp only
  rw [count, List.drop_left]
  constructor
  · intro read
    cases tail with
    | nil => simp at read
    | cons c tail =>
      obtain ⟨body, behind, rfl, letters, ends⟩ := exists_run isKeyChar tail
      simp only [List.take_left, takeWhile_run letters ends] at read
      split at read
      · rename_i fits
        obtain ⟨few, starts⟩ : dashes.length ≤ 2 ∧ isKeyStart c = true := by simpa using fits
        obtain rfl := Option.some.inj read
        exact ⟨⟨dashes, c, body, rfl, by simpa using run, few, starts, letters⟩, behind, by simp, ends⟩
      · cases read
  · rintro ⟨⟨dashes', c, body, rfl, run', few, starts, letters⟩, behind, same, ends⟩
    have noDash := isKeyStart_ne_dash starts
    have shape : dashes ++ tail = dashes' ++ c :: (body ++ behind) := by simpa using same
    have run'' : ∀ d ∈ dashes', (d == '-') = true := by simpa using run'
    have other : ∀ d, (c :: (body ++ behind)).head? = some d → (d == '-') = false := by
      rintro d ⟨⟩
      simpa using noDash
    obtain rfl : dashes = dashes' := by
      rw [← takeWhile_run run stops, shape, takeWhile_run run'' other]
    obtain rfl := List.append_cancel_left shape
    simp [few, starts, takeWhile_run letters ends]

/-- A blank does not go on with a key. -/
theorem isKeyChar_of_isBlank {c : Char} (blank : isBlank c = true) : isKeyChar c = false :=
  forall_isBlank (P := (isKeyChar · = false)) (by decide) blank

/-- The value that is read from what stands between a colon and a semicolon. -/
def valueOf (span : Text) : Text :=
  if (strip span).isEmpty then span.drop (span.length - 1) else strip span

/-- What is read as the declaration at the start of a text. -/
theorem at?_eq_some_iff {n : Nat} :
    at? t = some (d, n) ↔
      ∃ gap span rest, t = d.key ++ (gap ++ ':' :: (span ++ rest)) ∧ IsKey d.key ∧
        (∀ c ∈ gap, isBlank c = true) ∧ span ≠ [] ∧ ';' ∉ span ∧ (∀ c ∈ rest.head?, c = ';') ∧
        d.value = valueOf span ∧
        n = (d.key ++ (gap ++ ':' :: span)).length + if rest.isEmpty then 0 else 1 := by
  have colon : ∀ u c, (':' :: u : Text).head? = some c → isBlank c = false := by
    rintro u c ⟨⟩
    decide
  constructor
  · intro read
    obtain ⟨key, keyed, read⟩ := Option.bind_eq_some_iff.mp read
    obtain ⟨isKey, after, rfl, -⟩ := keyAt?_eq_some_iff.mp keyed
    obtain ⟨gap, tail, rfl, blanks, stops⟩ := exists_run isBlank after
    simp only [List.drop_left, stripStart, dropWhile_run blanks stops] at read
    split at read
    · rename_i body _
      obtain ⟨span, rest, rfl, run, ends⟩ := exists_run (· != ';') body
      simp only [takeWhile_run run ends] at read
      split at read
      · cases read
      rename_i some
      obtain ⟨same, rfl⟩ := Prod.mk.inj (Option.some.inj read)
      obtain rfl : ⟨key, valueOf span⟩ = d := same
      refine ⟨gap, span, rest, rfl, isKey, blanks, by simpa using some, fun mem => ?_,
        fun c head => by simpa using ends c head, rfl, ?_⟩
      · simpa using run _ mem
      · cases rest <;> simp <;> omega
    · cases read
  · rintro ⟨gap, span, rest, rfl, isKey, blanks, some, noBreak, ends, value, rfl⟩
    have behind : ∀ c ∈ (gap ++ ':' :: (span ++ rest)).head?, isKeyChar c = false := by
      cases gap with
      | nil =>
        rintro c ⟨⟩
        decide
      | cons b gap =>
        rintro c ⟨⟩
        exact isKeyChar_of_isBlank (blanks b (List.mem_cons_self ..))
    have run : ∀ c ∈ span, (c != ';') = true := fun c mem => by
      simpa using fun same : c = ';' => noBreak (same ▸ mem)
    have stops : ∀ c, rest.head? = Option.some c → (c != ';') = false := fun c head => by
      simpa using ends c head
    refine Option.bind_eq_some_iff.mpr ⟨d.key, keyAt?_eq_some_iff.mpr ⟨isKey, _, rfl, behind⟩, ?_⟩
    simp only [List.drop_left, stripStart, dropWhile_run blanks (colon _), takeWhile_run run stops]
    rw [if_neg (by simpa using some)]
    refine congrArg Option.some (Prod.ext ?_ ?_)
    · show (⟨d.key, valueOf span⟩ : Declaration) = d
      rw [← value]
    · cases rest <;> simp <;> omega

/-- What is read as a value can be written as one, -/
theorem isValue_valueOf {span : Text} (some : span ≠ []) (noBreak : ';' ∉ span) :
    IsValue (valueOf span) := by
  unfold valueOf
  split
  · have last : span.drop (span.length - 1) = [span.getLast some] := by
      conv_lhs => rw [← List.dropLast_append_getLast some]
      exact List.drop_left' (by simp)
    rw [last]
    refine ⟨by simp, ?_, .inr ⟨_, rfl⟩⟩
    rintro mem
    exact noBreak (List.mem_singleton.mp mem ▸ List.getLast_mem some)
  · rename_i filled
    refine ⟨by simpa using filled, fun mem => ?_, .inl (strip_strip span)⟩
    exact strip_all (P := (· ≠ ';')) (fun c mem same => noBreak (same ▸ mem)) _ mem rfl

/-- and is read as what it is then. -/
theorem valueOf_cons {value : Text} (is : IsValue value) : valueOf (' ' :: value) = value := by
  obtain ⟨some, -, trimmed⟩ := is
  have inner : strip (' ' :: value) = strip value := rfl
  unfold valueOf
  rw [inner]
  rcases trimmed with trimmed | ⟨b, rfl⟩
  · simp [trimmed, some]
  · by_cases blank : isBlank b = true
    · have empty : strip [b] = [] := by simp [strip, stripStart, stripEnd, blank]
      simp [empty]
    · have filled : strip [b] = [b] := strip_eq_self (by simpa using blank)
      simp [filled]

/-- What is read from a text is readable. -/
theorem isReadable_of_mem_readFrom {skip : Nat} (mem : d ∈ readFrom skip t) : d.IsReadable := by
  fun_induction readFrom skip t with
  | case1 => cases mem
  | case2 _ _ _ ih => exact ih mem
  | case3 c rest first taken read ih =>
    rcases List.mem_cons.mp mem with rfl | later
    · obtain ⟨_, span, _, -, key, -, some, noBreak, -, value, -⟩ := at?_eq_some_iff.mp read
      exact ⟨key, value ▸ isValue_valueOf some noBreak⟩
    · exact ih later
  | case4 _ _ _ ih => exact ih mem

/-! ### Lists of declarations -/

theorem readFrom_skip (skip : Nat) (t : Text) : readFrom skip t = readFrom 0 (t.drop skip) := by
  induction skip generalizing t with
  | zero => rfl
  | succ skip ih =>
    cases t with
    | nil => simp [readFrom]
    | cons c t => rw [readFrom, ih, List.drop_succ_cons]

/-- A readable declaration is read in front of what may follow it. -/
theorem readFrom_text (readable : d.IsReadable) (ends : ∀ c ∈ rest.head?, c = ';') :
    readFrom 0 (d.text ++ rest) = d :: readFrom 0 (rest.drop 1) := by
  obtain ⟨key, value⟩ := readable
  obtain ⟨dashes, c, body, shape, -⟩ := id key
  have shape : ∃ c u, d.text ++ rest = c :: u := by
    cases dashes <;> simp [text, shape]
  obtain ⟨c, u, shape⟩ := shape
  have read : at? (d.text ++ rest) =
      some (d, d.text.length + if rest.isEmpty then 0 else 1) := by
    refine at?_eq_some_iff.mpr ⟨[], ' ' :: d.value, rest, by simp [text], key, List.forall_mem_nil _, by simp,
      ?_, ends, (valueOf_cons value).symm, by simp [text]⟩
    simpa using value.2.1
  have pos : 0 < d.text.length := by
    simp only [text, List.length_append, List.length_cons]
    omega
  have behind : u.drop (d.text.length + (if rest.isEmpty then 0 else 1) - 1) = rest.drop 1 := by
    obtain ⟨n, length⟩ : ∃ n, d.text.length = n + 1 := ⟨_, (Nat.succ_pred_eq_of_pos pos).symm⟩
    have tail : u.drop n = rest := by
      rw [← List.drop_succ_cons (a := c), ← shape, ← length, List.drop_left]
    cases rest with
    | nil => simpa [length] using tail
    | cons e rest =>
      simp only [length, List.isEmpty_cons, Bool.false_eq_true, if_false, Nat.add_sub_cancel]
      rw [← List.drop_drop, tail]
  rw [shape] at read ⊢
  rw [readFrom, read]
  dsimp only
  rw [readFrom_skip, behind]

/-- A blank in front of a text is passed over. -/
theorem readFrom_blank {c : Char} (blank : isBlank c = true) (t : Text) :
    readFrom 0 (c :: t) = readFrom 0 t := by
  have noDash : (c == '-') = false := beq_false_of_ne (ne_of_class blank (by decide))
  have noStart : isKeyStart c = false := by
    have := isKeyChar_of_isBlank blank
    simp only [isKeyChar, Bool.or_eq_false_iff] at this
    exact this.1.1
  have none : at? (c :: t) = none := by simp [at?, keyAt?, noDash, noStart]
  rw [readFrom, none]

/-- In front of any text, readable declarations are read back. -/
theorem read_write_concat (readable : ∀ d ∈ ds, d.IsReadable) (x : Declaration) :
    read (write (ds ++ [x])) = ds ++ read x.text := by
  induction ds with
  | nil => rfl
  | cons d ds ih =>
    obtain ⟨here, later⟩ := List.forall_mem_cons.mp readable
    have shape : write (d :: ds ++ [x]) = d.text ++ ';' :: ' ' :: write (ds ++ [x]) := by
      have more : (ds ++ [x]).map text ≠ [] := by simp
      simp only [write, List.cons_append, List.map_cons]
      rw [join_cons more]
      simp
    rw [shape]
    unfold read at ih ⊢
    rw [readFrom_text here (by simp), List.drop_succ_cons, List.drop_zero, readFrom_blank (by decide), ih later]
    rfl

/-- **Readable declarations are read back.** -/
theorem read_write (readable : ∀ d ∈ ds, d.IsReadable) : read (write ds) = ds := by
  rcases List.eq_nil_or_concat ds with rfl | ⟨front, last, rfl⟩
  · rfl
  · obtain ⟨before, single⟩ := List.forall_mem_append.mp (List.concat_eq_append ▸ readable)
    have one : read last.text = [last] := by
      have alone : readFrom 0 (last.text ++ []) = last :: readFrom 0 [] :=
        readFrom_text (single last (by simp)) (by simp)
      rw [List.append_nil] at alone
      exact alone.trans rfl
    rw [List.concat_eq_append, read_write_concat before, one]

end Declaration

/-! ### One property changed -/

open Declaration

variable {ds ds' : List Declaration} {change : StyleChange} {t : Text}

theorem applyToStyleText_single (t : Text) (change : StyleChange) :
    applyToStyleText t [change] = (Declaration.apply (read t) change).map write := by
  simp [applyToStyleText]

/-- A value that is accepted can be read as the value of a declaration. -/
theorem isValue_freshValue (accepted : IsAccepted change) (some : freshValue change ≠ []) :
    IsValue (freshValue change) :=
  ⟨some, fun mem => accepted ';' mem (by decide), .inl (strip_strip _)⟩

/-- A change that takes a place in the list leaves it readable. -/
theorem isReadable_of_edited (accepted : IsAccepted change) (key : IsKey (changedKey change))
    (edited : Edited (·.key == changedKey change) (declared? change) ds ds')
    (readable : ∀ d ∈ ds, d.IsReadable) : ∀ d ∈ ds', d.IsReadable := by
  intro d mem
  rcases edited.mem mem with old | new
  · exact readable d old
  · unfold declared? at new
    split at new
    · cases new
    · rename_i some
      obtain rfl := Option.some.inj new
      exact ⟨key, isValue_freshValue accepted (by simpa using some)⟩

/-- The change of one property leaves the others alone: what is written is the list in which just the
declaration of that property is set, put at the end or taken out, and from it the other declarations are read
as they were. -/
def KeepsOthers (ds : List Declaration) (change : StyleChange) : Prop :=
  ∃ ds', Edited (·.key == changedKey change) (declared? change) ds ds' ∧
    applyToStyleText (write ds) [change] = .ok (write ds') ∧
    ∀ d ∈ ds, d.key ≠ changedKey change → d ∈ read (write ds')

/-- Among readable declarations, others are read from what a change writes. -/
theorem mem_read_of_edited (accepted : IsAccepted change)
    (edited : Edited (·.key == changedKey change) (declared? change) ds ds')
    (readable : ∀ d ∈ ds, d.IsReadable) {d : Declaration} (mem : d ∈ ds)
    (other : d.key ≠ changedKey change) : d ∈ read (write ds') := by
  have stays := edited.mem_of_other mem (by simpa using other)
  by_cases key : IsKey (changedKey change)
  · rwa [read_write (isReadable_of_edited accepted key edited readable)]
  · -- a key that is not read is not among the others, so it comes last
    cases edited with
    | @found before b after none is =>
      have same : b.key = changedKey change := by simpa using is
      exact absurd (same ▸ (readable b (by simp)).1) key
    | missing none =>
      cases declared? change with
      | none => rwa [Option.toList_none, List.append_nil, read_write readable]
      | some new => simp [read_write_concat readable, mem]

/-- **Every accepted change leaves the others alone exactly if all declarations are readable.** -/
theorem applyToStyleText_keeps_iff :
    (∀ change, IsAccepted change → KeepsOthers ds change) ↔ ∀ d ∈ ds, d.IsReadable := by
  constructor
  · intro keeps d mem
    -- another property is taken away, and the declaration must be read from what is written then
    obtain ⟨change, accepted, other⟩ : ∃ change, IsAccepted change ∧ d.key ≠ changedKey change := by
      by_cases empty : d.key = []
      · exact ⟨⟨"x", "", "", true⟩, by simp [IsAccepted, freshValue, strip, stripEnd, stripStart],
          by rw [empty]; decide⟩
      · exact ⟨⟨"", "", "", true⟩, by simp [IsAccepted, freshValue, strip, stripEnd, stripStart],
          by simpa [changedKey, kebabCase, kebabAfter, strip, stripEnd, stripStart] using empty⟩
    obtain ⟨ds', -, -, others⟩ := keeps change accepted
    exact isReadable_of_mem_readFrom (others d mem other)
  · intro readable change accepted
    obtain ⟨ds', result⟩ : ∃ ds', Declaration.apply ds change = .ok ds' := by
      have breakers : ¬ (freshValue change).any breakers.contains = true := by
        simpa [IsAccepted] using accepted
      exact ⟨_, if_neg breakers⟩
    have edited := (Declaration.apply_eq_ok_iff.mp result).2
    refine ⟨ds', edited, ?_, fun d mem other => mem_read_of_edited accepted edited readable mem other⟩
    rw [applyToStyleText_single, read_write readable, result]
    rfl

/-- In a value, semicolons and colons stand in parentheses only; the number is how many are open. -/
def marksEnclosed : Nat → Text → Bool
  | _, [] => true
  | depth, '(' :: rest => marksEnclosed (depth + 1) rest
  | depth, ')' :: rest => marksEnclosed (depth - 1) rest
  | depth, c :: rest => (0 < depth || c != ';' && c != ':') && marksEnclosed depth rest

/-- Declarations as an author may write them. -/
structure IsWellWritten (ds : List Declaration) : Prop where
  /-- No key comes twice. -/
  distinct : (ds.map (·.key)).Nodup
  /-- Keys have letters, figures, hyphens and underscores. -/
  keys : ∀ d ∈ ds, d.key ≠ [] ∧ ∀ c ∈ d.key, isKeyChar c = true ∨ c = '_'
  /-- Values are not empty, and no blanks are around them. -/
  values : ∀ d ∈ ds, d.value ≠ [] ∧ strip d.value = d.value
  /-- What would end a value or a key stands in parentheses. -/
  marks : ∀ d ∈ ds, marksEnclosed 0 d.value = true

/-- An image in its own data, and a colour. -/
def imageStyle : List Declaration :=
  [⟨"background".toList, "url(data:image/png;base64,AAAA)".toList⟩, ⟨"color".toList, "red".toList⟩]

/-- Another colour. -/
def toBlue : StyleChange := ⟨"color", "red", "blue", true⟩

/-- A well written image is lost when the colour changes: its data ends at the semicolon. -/
theorem image_lost :
    IsWellWritten imageStyle ∧ IsAccepted toBlue ∧
      applyToStyleText (write imageStyle) [toBlue] =
        .ok "background: url(data:image/png; color: blue".toList ∧
      ¬ KeepsOthers imageStyle toBlue := by
  have result : applyToStyleText (write imageStyle) [toBlue] =
      .ok "background: url(data:image/png; color: blue".toList := by decide
  refine ⟨⟨by decide, by decide, by decide, by decide⟩, by decide, result, ?_⟩
  rintro ⟨ds', -, written, others⟩
  have text : write ds' = "background: url(data:image/png; color: blue".toList :=
    Except.ok.inj (written.symm.trans result)
  have kept := others ⟨"background".toList, "url(data:image/png;base64,AAAA)".toList⟩
    (List.mem_cons_self ..) (by decide)
  rw [text] at kept
  revert kept
  decide +kernel

end Retouch.Style
