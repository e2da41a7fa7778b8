import Retouch.Proofs.Style.Declared
import Retouch.Proofs.Style.Folded

/-!
# The value in force

Of several declarations of one property the last one is in force, and of several members of one name as well. A
change edits the first one. So changes of a property take effect exactly if the property stands there at most
once and its name is read back as it is written (`takesEffect_iff`): otherwise a later declaration stays in
force, or is still there when the property is taken away (`repeated_kept`).
-/

namespace Retouch.Style

open Retouch.Text Retouch.Markup

/-- A change that takes the property away. -/
def removing (property : String) : StyleChange := ⟨property, "", "", true⟩

/-- A change that sets the property. -/
def setting (property : String) : StyleChange := ⟨property, "", "x", true⟩

theorem freshValue_removing (property : String) : freshValue (removing property) = [] := by
  show strip "".toList = []
  decide

theorem freshValue_setting (property : String) : freshValue (setting property) = ['x'] := by
  show strip "x".toList = ['x']
  decide

/-! ### In markup -/

section Markup

open Declaration

variable {t : Text} {change : StyleChange}

/-- The change takes effect in the text of a style: with a blank value, no declaration of the property is left,
and otherwise the last one of it holds the new value. -/
def TakesEffect (t : Text) (change : StyleChange) : Prop :=
  ∃ out, applyToStyleText t [change] = .ok out ∧
    if freshValue change = [] then ∀ d ∈ read out, (d.key == changedKey change) = false
    else IsInForce (·.key == changedKey change) (·.value = freshValue change) (read out)

/-- What is read from a text is readable. -/
theorem isReadable_of_mem_read {d : Declaration} (mem : d ∈ read t) : d.IsReadable :=
  isReadable_of_mem_readFrom mem

/-- What an accepted change makes of a text. -/
theorem exists_edited (accepted : IsAccepted change) (t : Text) :
    ∃ ds, applyToStyleText t [change] = .ok (write ds) ∧
      Edited (·.key == changedKey change) (declared? change) (read t) ds := by
  have noBreaker : ¬ (freshValue change).any breakers.contains = true := by simpa [IsAccepted] using accepted
  obtain ⟨ds, result⟩ : ∃ ds, Declaration.apply (read t) change = .ok ds := ⟨_, if_neg noBreaker⟩
  refine ⟨ds, ?_, (Declaration.apply_eq_ok_iff.mp result).2⟩
  rw [applyToStyleText_single, result]
  rfl

/-- A property is taken away if it stands there at most once. -/
theorem takesEffect_blank_iff (accepted : IsAccepted change) (blank : freshValue change = []) :
    TakesEffect t change ↔ (read t).countP (·.key == changedKey change) ≤ 1 := by
  obtain ⟨ds, result, edited⟩ := exists_edited accepted t
  have none : declared? change = none := if_pos (by simp [blank])
  rw [none] at edited
  have back : read (write ds) = ds := by
    refine read_write fun d mem => ?_
    rcases edited.mem mem with old | new
    · exact isReadable_of_mem_read old
    · cases new
  rw [← edited.none_left_iff nofun]
  constructor
  · rintro ⟨out, same, left⟩
    obtain rfl : write ds = out := Except.ok.inj (result.symm.trans same)
    rwa [if_pos blank, back] at left
  · intro left
    exact ⟨_, result, by rwa [if_pos blank, back]⟩

/-- A property that stands there at most once is set. -/
theorem takesEffect_of_single (accepted : IsAccepted change) (some : freshValue change ≠ [])
    (key : IsKey (changedKey change)) (single : (read t).countP (·.key == changedKey change) ≤ 1) :
    TakesEffect t change := by
  obtain ⟨ds, result, edited⟩ := exists_edited accepted t
  have back := read_write (isReadable_of_edited accepted key edited fun _ mem => isReadable_of_mem_read mem)
  have new : declared? change = Option.some ⟨changedKey change, freshValue change⟩ := if_neg (by simpa using some)
  rw [new] at edited
  refine ⟨_, result, ?_⟩
  rw [if_neg some, back]
  exact (edited.isInForce_iff (·.value = freshValue change) rfl single).mpr (beq_self_eq_true _)

/-- What is in force is read, so its key is one that is read. -/
theorem isKey_of_takesEffect (some : freshValue change ≠ []) (takes : TakesEffect t change) :
    IsKey (changedKey change) := by
  obtain ⟨out, -, inForce⟩ := takes
  rw [if_neg some] at inForce
  obtain ⟨d, last, -⟩ := inForce
  obtain ⟨mem, same⟩ := List.mem_filter.mp (List.mem_of_getLast? last)
  exact eq_of_beq same ▸ (isReadable_of_mem_read mem).1

/-- In markup, all changes of a property take effect exactly if it stands there at most once, under a key that is
read back. -/
theorem takesEffect_text_iff (t : Text) (property : String) :
    (∀ change : StyleChange, change.property = property → IsAccepted change → TakesEffect t change) ↔
      IsKey (kebabCase property.toList) ∧ (read t).countP (·.key == kebabCase property.toList) ≤ 1 := by
  constructor
  · intro takes
    have removed : TakesEffect t (removing property) :=
      takes _ rfl (by simp [IsAccepted, freshValue_removing])
    have set : TakesEffect t (setting property) :=
      takes _ rfl (by simp [IsAccepted, freshValue_setting, breakers])
    rw [takesEffect_blank_iff (by simp [IsAccepted, freshValue_removing]) (freshValue_removing property)] at removed
    have key := isKey_of_takesEffect (by simp [freshValue_setting]) set
    exact ⟨key, removed⟩
  · rintro ⟨key, single⟩ change rfl accepted
    by_cases blank : freshValue change = []
    · exact (takesEffect_blank_iff accepted blank).mpr single
    · exact takesEffect_of_single accepted blank key single

end Markup

/-! ### In code -/

section Code

open ObjectLiteral

variable {t out name value : Text} {change : StyleChange} {e : StyleEntry} {entries entries' : List StyleEntry}

/-- The text is an object with the members, or is blank and stands for an empty one. -/
def HasMembers (t : Text) (entries : List StyleEntry) : Prop :=
  isBlankText t = true ∧ entries = [] ∨ parseStyleObject t = .ok entries

/-- The change takes effect in a style object: with a blank value, no member of the name is left, and otherwise
the value of the last one of it stands for the new one. -/
def TakesEffectInCode (t : Text) (change : StyleChange) : Prop :=
  ∃ out entries, applyToStyleObject t [change] = .ok out ∧ parseStyleObject out = .ok entries ∧
    if freshValue change = [] then ∀ e ∈ entries, (e.name? == some (changedName change)) = false
    else IsInForce (·.name? == some (changedName change)) (fun e => StandsFor e.raw (freshValue change)) entries

theorem applyToStyleObject_single_iff :
    applyToStyleObject t [change] = .ok out ↔
      ∃ entries, HasMembers t entries ∧ out = write (ObjectLiteral.apply entries change) := by
  have shape : applyToStyleObject t [change] =
      (if isBlankText t then .ok [] else parseStyleObject t).map fun entries =>
        write (ObjectLiteral.apply entries change) := by
    unfold applyToStyleObject
    split
    · rfl
    · cases parseStyleObject t <;> rfl
  rw [shape]
  constructor
  · intro result
    split at result
    · rename_i blank
      cases result
      exact ⟨[], .inl ⟨blank, rfl⟩, rfl⟩
    · cases parsed : parseStyleObject t with
      | error e => simp [parsed, Except.map] at result
      | ok entries =>
        rw [parsed] at result
        cases result
        exact ⟨entries, .inr parsed, rfl⟩
  · rintro ⟨entries, ⟨blank, rfl⟩ | parsed, rfl⟩
    · rw [if_pos blank]
      rfl
    · rw [if_neg (not_isBlankText_of_read? (parseStyleObject_eq_ok_iff.mp parsed)), parsed]
      rfl

/-- A text has its members once. -/
theorem HasMembers.unique (first : HasMembers t entries) (second : HasMembers t entries') : entries = entries' := by
  rcases first with ⟨blank, rfl⟩ | parsed <;> rcases second with ⟨blank', rfl⟩ | parsed'
  · rfl
  · exact absurd blank (not_isBlankText_of_read? (parseStyleObject_eq_ok_iff.mp parsed'))
  · exact absurd blank' (not_isBlankText_of_read? (parseStyleObject_eq_ok_iff.mp parsed))
  · exact Except.ok.inj (parsed.symm.trans parsed')

/-- The members of a text are of the grammar. -/
theorem HasMembers.isSpelled (members : HasMembers t entries) : ∀ e ∈ entries, IsSpelled e := by
  rcases members with ⟨-, rfl⟩ | parsed
  · exact List.forall_mem_nil _
  · exact isSpelled_of_read? (parseStyleObject_eq_ok_iff.mp parsed)

/-! ### Members as they are read -/

/-- The name can be read back: it is one of the grammar, or has no character that is escaped in a string. -/
def IsPlainName (name : Text) : Prop :=
  IsName name ∨ ∀ c ∈ name, 0x20 ≤ c.toNat ∧ c.toNat < 0x7F ∧ c ≠ '"' ∧ c ≠ '\\'

/-- The member as it is read once it is written: a line feed at the end of its key is not read. -/
def asRead (e : StyleEntry) : StyleEntry := ⟨e.key?.map dropFinalBreak, e.raw⟩

/-- The member is written as the grammar has it as read. -/
def IsWritable (e : StyleEntry) : Prop := ∃ m : Member, Renders e m ∧ m.entry = asRead e

theorem dropFinalBreak_of_isString (is : IsString t) : dropFinalBreak t = t := by
  obtain ⟨q, body, rfl, quote, -⟩ := is
  refine dropFinalBreak_of_getLast? ?_
  rw [← List.cons_append, List.getLast?_concat]
  rcases quote with rfl | rfl <;> decide

/-- A member of the grammar is read as it is. -/
theorem asRead_of_isSpelled (spelled : IsSpelled e) : asRead e = e := by
  obtain ⟨m, proper, rfl⟩ := spelled
  cases m with
  | named name v =>
    have is : IsName name := proper (.name name) (List.mem_cons_self ..)
    simp [asRead, Member.entry, dropFinalBreak_of_isName is]
  | quoted string v =>
    have is : IsString string := proper (.string string) (List.mem_cons_self ..)
    simp [asRead, Member.entry, dropFinalBreak_of_isString is]
  | spread d => rfl

theorem isWritable_of_isSpelled (spelled : IsSpelled e) : IsWritable e := by
  obtain ⟨m, proper, rfl⟩ := id spelled
  exact ⟨m, renders_entry proper, (asRead_of_isSpelled spelled).symm⟩

/-- Members that can be written are read back. -/
theorem read?_write_asRead (writable : ∀ e ∈ entries, IsWritable e) :
    read? (write entries) = some (entries.map asRead) := by
  obtain ⟨ms, spelled, same⟩ : ∃ ms, List.Forall₂ Renders entries ms ∧ ms.map Member.entry = entries.map asRead := by
    induction entries with
    | nil => exact ⟨[], .nil, rfl⟩
    | cons e entries ih =>
      obtain ⟨⟨m, here, same⟩, later⟩ := List.forall_mem_cons.mp writable
      obtain ⟨ms, spelled, others⟩ := ih later
      exact ⟨m :: ms, .cons here spelled, by rw [List.map_cons, List.map_cons, same, others]⟩
  rw [read?_write spelled, same]

/-- A character that is escaped in ASCII is a string in quotes. -/
theorem stringBody_escapeCharAscii (c : Char) : StringBody '"' (Json.escapeCharAscii c) := by
  unfold Json.escapeCharAscii
  dsimp only
  split
  · exact stringBody_escapeChar c
  · split
    · exact stringBody_code _
    · exact (stringBody_code _).append (stringBody_code _)

/-- An identifier is read as the name that it is, and a line feed behind it is a blank. -/
theorem renders_identifier {raw : Text} (is : IsName (dropFinalBreak name)) (string : IsString raw) :
    Renders ⟨some name, raw⟩ (.named (dropFinalBreak name) (.string raw)) := by
  have value : Cuts (':' :: ' ' :: raw) [.colon, .string raw] :=
    cuts_colon_value (v := .string raw) (List.forall_mem_singleton.mpr string)
  obtain ⟨u, shape, cuts, c, v, rfl, ends⟩ : ∃ u, (⟨some name, raw⟩ : StyleEntry).text = dropFinalBreak name ++ u ∧
      Cuts u [.colon, .string raw] ∧ ∃ c v, u = c :: v ∧ ObjectLiteral.isNameChar c = false := by
    rcases eq_dropFinalBreak name with same | feed
    · exact ⟨_, congrArg (· ++ ':' :: ' ' :: raw) same, value, ':', _, rfl, by decide⟩
    · refine ⟨_, ?_, value.space (c := '\n') (by decide), '\n', _, rfl, by decide⟩
      refine (congrArg (· ++ ':' :: ' ' :: raw) feed).trans ?_
      simp
  unfold Renders
  rw [shape]
  refine cuts.cons (.name _) is ?_
  rintro rest - d ⟨⟩
  exact ends

/-- A member that a change writes can be written. -/
theorem isWritable_member (writes : member? change = some e) : IsWritable e := by
  unfold member? at writes
  split at writes
  · cases writes
  obtain rfl := Option.some.inj writes
  have string := (valueText_standsFor (freshValue change)).1
  unfold keyText
  split
  · rename_i identifier
    exact ⟨_, renders_identifier (isIdentifier_iff.mp identifier) string, rfl⟩
  · refine isWritable_of_isSpelled ⟨.quoted _ (.string _), List.forall_mem_cons.mpr ⟨?_, ?_⟩, rfl⟩
    · exact ⟨'"', _, rfl, .inl rfl, StringBody.flatMap stringBody_escapeCharAscii _⟩
    · exact List.forall_mem_cons.mpr ⟨trivial, List.forall_mem_singleton.mpr string⟩

/-- A string in ASCII holds a character as it is if it can be printed and covers and closes nothing, and others
take more characters. -/
theorem escapeCharAscii_cases (c : Char) :
    (0x20 ≤ c.toNat ∧ c.toNat < 0x7F ∧ c ≠ '"' ∧ c ≠ '\\') ∧ Json.escapeCharAscii c = [c] ∨
      ¬ (0x20 ≤ c.toNat ∧ c.toNat < 0x7F ∧ c ≠ '"' ∧ c ≠ '\\') ∧ 2 ≤ (Json.escapeCharAscii c).length := by
  unfold Json.escapeCharAscii
  dsimp only
  split
  · unfold Json.escapeChar
    split
    · rename_i covered
      have covered : c = '"' ∨ c = '\\' := by simpa using covered
      exact .inr ⟨by tauto, by simp⟩
    split
    · rename_i control
      refine .inr ⟨fun is => absurd control (Nat.not_lt.mpr is.1), ?_⟩
      rcases Json.escapeControl_cases c with ⟨letter, shape, -⟩ | shape <;> simp [shape]
    · rename_i low covered control
      simp only [Bool.or_eq_true, beq_iff_eq, not_or] at covered
      exact .inl ⟨⟨Nat.le_of_not_lt control, low, covered⟩, rfl⟩
  · rename_i high
    refine .inr ⟨fun is => high is.2.1, ?_⟩
    split <;> simp

theorem flatMap_eq_self_iff {f : Char → Text} (longer : ∀ c, f c = [c] ∨ 2 ≤ (f c).length) :
    t.flatMap f = t ↔ ∀ c ∈ t, f c = [c] := by
  have length : ∀ t : Text, t.length ≤ (t.flatMap f).length := by
    intro t
    induction t with
    | nil => exact Nat.le_refl 0
    | cons c t ih =>
      rw [List.flatMap_cons, List.length_append, List.length_cons]
      rcases longer c with same | more
      · rw [same, List.length_singleton]
        omega
      · omega
  induction t with
  | nil => simp
  | cons c t ih =>
    rw [List.flatMap_cons, List.forall_mem_cons]
    rcases longer c with same | more
    · rw [same, List.singleton_append, List.cons.injEq]
      exact and_congr (iff_of_true rfl rfl) ih
    · have longer := length t
      refine iff_of_false (fun same => ?_) fun ⟨same, _⟩ => ?_
      · have lengths := congrArg List.length same
        simp only [List.length_append, List.length_cons] at lengths
        omega
      · simp [same] at more

/-- Which names are read back. -/
theorem nameOfKey_keyText_iff :
    StyleEntry.nameOfKey (dropFinalBreak (keyText name)) = name ↔ IsPlainName name := by
  unfold keyText
  split
  · rename_i identifier
    have is := isIdentifier_iff.mp identifier
    have same : StyleEntry.nameOfKey (dropFinalBreak name) = dropFinalBreak name := by
      obtain ⟨c, rest, shape, starts, -⟩ := is
      rw [shape]
      have noDouble : c ≠ '"' := ne_of_class starts (by decide)
      have noSingle : c ≠ '\'' := ne_of_class starts (by decide)
      unfold StyleEntry.nameOfKey
      split
      · simp_all
      · simp_all
      · rfl
    rw [same]
    constructor
    · exact fun whole => .inl (whole ▸ is)
    · rintro (is | plain)
      · exact dropFinalBreak_of_isName is
      · refine dropFinalBreak_of_getLast? fun last => ?_
        exact absurd (plain _ (List.mem_of_getLast? last)).1 (by decide)
  · rename_i other
    have string : IsString (Json.asciiStringText name) :=
      ⟨'"', _, rfl, .inl rfl, StringBody.flatMap stringBody_escapeCharAscii _⟩
    have inner : StyleEntry.nameOfKey (Json.asciiStringText name) = name.flatMap Json.escapeCharAscii :=
      List.dropLast_concat
    have noName : ¬ IsName name := fun is =>
      other (isIdentifier_iff.mpr ((dropFinalBreak_of_isName is).symm ▸ is))
    rw [dropFinalBreak_of_isString string, inner,
      flatMap_eq_self_iff fun c => (escapeCharAscii_cases c).imp And.right And.right]
    constructor
    · intro same
      refine .inr fun c mem => ?_
      rcases escapeCharAscii_cases c with ⟨plain, -⟩ | ⟨-, more⟩
      · exact plain
      · simp [same c mem] at more
    · rintro (is | plain) c mem
      · exact absurd is noName
      · rcases escapeCharAscii_cases c with ⟨-, same⟩ | ⟨escaped, -⟩
        · exact same
        · exact absurd (plain c mem) escaped

/-! ### Changes in code -/

/-- What is read once a member is edited is edited alike. -/
theorem Edited.asRead {named : StyleEntry → Bool} {new? : Option StyleEntry}
    (edited : Edited named new? entries entries') (spelled : ∀ e ∈ entries, IsSpelled e) :
    Edited named (new?.map Style.asRead) entries (entries'.map Style.asRead) := by
  have same : ∀ {es : List StyleEntry}, (∀ e ∈ es, IsSpelled e) → es.map Style.asRead = es := fun all =>
    List.map_congr_left (fun e mem => asRead_of_isSpelled (all e mem)) |>.trans (List.map_id _)
  have new : new?.toList.map Style.asRead = (new?.map Style.asRead).toList := by cases new? <;> rfl
  cases edited with
  | @found before b after none is =>
    obtain ⟨front, behind⟩ := List.forall_mem_append.mp spelled
    rw [List.map_append, List.map_append, new, same front, same (List.forall_mem_cons.mp behind).2]
    exact .found none is
  | missing none =>
    rw [List.map_append, new, same spelled]
    exact .missing none

/-- What a change makes of an object, as it is read. -/
theorem exists_editedInCode (members : HasMembers t entries) (change : StyleChange) :
    ∃ out entries', applyToStyleObject t [change] = .ok out ∧ parseStyleObject out = .ok entries' ∧
      Edited (·.name? == some (changedName change)) ((member? change).map asRead) entries entries' := by
  have edited := edited_apply entries change
  have writable : ∀ e ∈ ObjectLiteral.apply entries change, IsWritable e := fun e mem =>
    (edited.mem mem).elim (fun old => isWritable_of_isSpelled (members.isSpelled e old)) isWritable_member
  exact ⟨_, _, applyToStyleObject_single_iff.mpr ⟨entries, members, rfl⟩,
    parseStyleObject_eq_ok_iff.mpr (read?_write_asRead writable), edited.asRead members.isSpelled⟩

/-- What the change takes effect in is what it makes of the object. -/
theorem takesEffectInCode_iff {entries' : List StyleEntry} (result : applyToStyleObject t [change] = .ok out)
    (parsed : parseStyleObject out = .ok entries') :
    TakesEffectInCode t change ↔
      if freshValue change = [] then ∀ e ∈ entries', (e.name? == some (changedName change)) = false
      else IsInForce (·.name? == some (changedName change)) (fun e => StandsFor e.raw (freshValue change)) entries' := by
  constructor
  · rintro ⟨out', entries'', result', parsed', takes⟩
    obtain rfl : out = out' := Except.ok.inj (result.symm.trans result')
    obtain rfl : entries' = entries'' := Except.ok.inj (parsed.symm.trans parsed')
    exact takes
  · exact fun takes => ⟨out, entries', result, parsed, takes⟩

/-- A name is taken away if at most one member has it. -/
theorem takesEffectInCode_blank_iff (members : HasMembers t entries) (blank : freshValue change = []) :
    TakesEffectInCode t change ↔ entries.countP (·.name? == some (changedName change)) ≤ 1 := by
  obtain ⟨out, entries', result, parsed, edited⟩ := exists_editedInCode members change
  have none : member? change = none := if_pos (by simp [blank])
  rw [none] at edited
  rw [takesEffectInCode_iff result parsed, if_pos blank]
  exact edited.none_left_iff nofun

/-- A name that at most one member has is set if it is read back. -/
theorem takesEffectInCode_some_iff (members : HasMembers t entries) (some : freshValue change ≠ [])
    (single : entries.countP (·.name? == Option.some (changedName change)) ≤ 1) :
    TakesEffectInCode t change ↔ IsPlainName (changedName change) := by
  obtain ⟨out, entries', result, parsed, edited⟩ := exists_editedInCode members change
  have new : member? change = Option.some ⟨Option.some (keyText (changedName change)), valueText (freshValue change)⟩ :=
    if_neg (by simpa using some)
  rw [new, Option.map_some] at edited
  rw [takesEffectInCode_iff result parsed, if_neg some,
    edited.isInForce_iff (fun e => StandsFor e.raw (freshValue change)) (valueText_standsFor _).2 single,
    ← nameOfKey_keyText_iff]
  simp [asRead, StyleEntry.name?]

/-- In code, all changes of a property take effect exactly if at most one member has its name, which is one that
is read back. -/
theorem takesEffect_code_iff (t : Text) (property : String) :
    (∀ change : StyleChange, change.property = property → TakesEffectInCode t change) ↔
      IsPlainName (camelCase property.toList) ∧
        ∃ entries, HasMembers t entries ∧ entries.countP (·.name? == some (camelCase property.toList)) ≤ 1 := by
  constructor
  · intro takes
    have removed : TakesEffectInCode t (removing property) := takes _ rfl
    have set : TakesEffectInCode t (setting property) := takes _ rfl
    obtain ⟨out, -, result, -⟩ := id removed
    obtain ⟨entries, members, -⟩ := applyToStyleObject_single_iff.mp result
    have single : entries.countP (·.name? == some (camelCase property.toList)) ≤ 1 :=
      (takesEffectInCode_blank_iff members (freshValue_removing property)).mp removed
    have filled : freshValue (setting property) ≠ [] := by simp [freshValue_setting]
    have plain : IsPlainName (camelCase property.toList) := (takesEffectInCode_some_iff members filled single).mp set
    exact ⟨plain, entries, members, single⟩
  · rintro ⟨plain, entries, members, single⟩ change rfl
    by_cases blank : freshValue change = []
    · exact (takesEffectInCode_blank_iff members blank).mpr single
    · exact (takesEffectInCode_some_iff members blank single).mpr plain

end Code

/-! ### Both -/

/-- **Changes of a property take effect exactly if it stands there at most once**, in markup and in code, and its
name is read back as it is written. -/
theorem takesEffect_iff (t : Text) (property : String) :
    ((∀ change : StyleChange, change.property = property → IsAccepted change → TakesEffect t change) ↔
        Declaration.IsKey (kebabCase property.toList) ∧
          (Declaration.read t).countP (·.key == kebabCase property.toList) ≤ 1) ∧
      ((∀ change : StyleChange, change.property = property → TakesEffectInCode t change) ↔
        IsPlainName (camelCase property.toList) ∧
          ∃ entries, HasMembers t entries ∧ entries.countP (·.name? == some (camelCase property.toList)) ≤ 1) :=
  ⟨takesEffect_text_iff t property, takesEffect_code_iff t property⟩

/-- A colour that stands there twice, in markup -/
def twoColors : Text := "margin: 0; color: red; color: blue".toList

/-- and in code. -/
def twoColorsInCode : Text := "\x7b margin: 0, color: 'red', color: 'blue' \x7d".toList

/-- A change that takes the colour away. -/
def noColor : StyleChange := ⟨"color", "blue", "", true⟩

/-- A colour that stands there twice is still there once it is taken away. -/
theorem repeated_kept :
    IsAccepted noColor ∧
      applyToStyleText twoColors [noColor] = .ok "margin: 0; color: blue".toList ∧
      ¬ TakesEffect twoColors noColor ∧
      applyToStyleObject twoColorsInCode [noColor] = .ok "\x7b margin: 0, color: 'blue' \x7d".toList ∧
      ¬ TakesEffectInCode twoColorsInCode noColor := by
  have accepted : IsAccepted noColor := by decide
  have blank : freshValue noColor = [] := by decide
  have members : HasMembers twoColorsInCode [⟨some "margin".toList, "0".toList⟩,
      ⟨some "color".toList, "'red'".toList⟩, ⟨some "color".toList, "'blue'".toList⟩] :=
    .inr (by decide)
  refine ⟨accepted, by decide +kernel, ?_, by decide +kernel, ?_⟩
  · rw [takesEffect_blank_iff accepted blank]
    decide
  · rw [takesEffectInCode_blank_iff members blank]
    decide

end Retouch.Style
