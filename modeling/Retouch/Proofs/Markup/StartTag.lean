import Retouch.Proofs.Markup.Value

/-!
# Tags as a browser reads them

A browser reads an ampersand, a name and a semicolon as the characters that the name stands for, and every
other character as itself (`References.decode`). Which names there are is left open; what a name stands for
is shorter than the reference. A character that is in no reference splits a text into two that are decoded
each on its own (`References.decode_append`).

The tag of an element is read one character after the other. In an attribute in quotes only the next
equal quote counts: a backslash is a character like others, and so are braces and brackets (`readFrom_quoted`).
What is read behind an attribute does not depend on those in front of it (`readFrom_behind`).
-/

namespace Retouch.Markup

open Retouch.Text

/-! ## Character references -/

/-- A character of the name of a reference; a number has a sign in front. -/
def isReferenceChar (c : Char) : Bool := c.isAlphanum || c == '#'

/-- The references that a reader knows. -/
structure References where
  /-- What a name stands for. -/
  value? : Text → Option Text
  /-- It is shorter than the name between an ampersand and a semicolon. -/
  shorter : ∀ {name value}, value? name = some value → value.length < name.length + 2

namespace References

/-- A reference as it is written. -/
def written (name : Text) : Text := '&' :: (name ++ [';'])

/-- The reference that a text starts with: what it stands for, and its length. -/
def at? (refs : References) : Text → Option (Text × Nat)
  | '&' :: rest =>
    let name := rest.takeWhile isReferenceChar
    if (rest.dropWhile isReferenceChar).head? = some ';' then (refs.value? name).map (·, name.length + 2)
    else none
  | _ => none

/-- A text with its references read; the number counts the characters still to be passed over. -/
def decodeFrom (refs : References) : Nat → Text → Text
  | _, [] => []
  | skip + 1, _ :: rest => decodeFrom refs skip rest
  | 0, c :: rest =>
    match refs.at? (c :: rest) with
    | some (value, n) => value ++ decodeFrom refs (n - 1) rest
    | none => c :: decodeFrom refs 0 rest

/-- A text with its references read. -/
def decode (refs : References) (t : Text) : Text := refs.decodeFrom 0 t

variable {refs : References}

/-! ### Where a reference stands -/

/-- A text starts with a reference if it starts with one as it is written. -/
theorem at?_eq_some_iff {t value : Text} {n : Nat} :
    refs.at? t = some (value, n) ↔
      ∃ name rest, t = written name ++ rest ∧ (∀ c ∈ name, isReferenceChar c = true) ∧
        refs.value? name = some value ∧ n = (written name).length := by
  constructor
  · intro found
    unfold at? at found
    split at found
    · rename_i rest
      dsimp only at found
      split at found
      · rename_i ends
        obtain ⟨_, known, same⟩ := Option.map_eq_some_iff.mp found
        cases same
        obtain ⟨behind, ends⟩ := List.head?_eq_some_iff.mp ends
        refine ⟨rest.takeWhile isReferenceChar, behind, ?_, fun c mem => List.mem_takeWhile_imp mem, known, ?_⟩
        · have whole := List.takeWhile_append_dropWhile (p := isReferenceChar) (l := rest)
          rw [ends] at whole
          simp [written, whole]
        · simp [written]
      · cases found
    · cases found
  · rintro ⟨name, rest, rfl, run, known, rfl⟩
    have stops : ∀ c, (';' :: rest).head? = some c → isReferenceChar c = false := by
      rintro c ⟨⟩
      decide
    have shape : written name ++ rest = '&' :: (name ++ ';' :: rest) := by simp [written]
    rw [shape, at?, takeWhile_run run stops, dropWhile_run run stops]
    simp [known, written]

/-- Nothing but an ampersand starts a reference. -/
theorem at?_of_ne {c : Char} (other : c ≠ '&') (rest : Text) : refs.at? (c :: rest) = none := by
  unfold at?
  split
  · rename_i same
    cases same
    exact absurd rfl other
  · rfl

/-- A character that neither starts nor ends a reference nor goes on with its name. -/
def IsApart (c : Char) : Prop := isReferenceChar c = false ∧ c ≠ '&' ∧ c ≠ ';'

instance (c : Char) : Decidable (IsApart c) := inferInstanceAs (Decidable (_ ∧ _))

/-- Behind such a character, nothing counts for what is in front of it. -/
theorem at?_append {c : Char} (apart : IsApart c) {s : Text} (some : s ≠ []) (t : Text) :
    refs.at? (s ++ c :: t) = refs.at? s := by
  obtain ⟨stops, noStart, noEnd⟩ := apart
  obtain ⟨d, s, rfl⟩ := List.exists_cons_of_ne_nil some
  by_cases start : d = '&'
  · subst start
    obtain ⟨name, rest, rfl, run, ends⟩ := exists_run isReferenceChar s
    have ends' : ∀ x, (rest ++ c :: t).head? = Option.some x → isReferenceChar x = false := by
      cases rest with
      | nil =>
        rintro x ⟨⟩
        exact stops
      | cons => exact ends
    have shape : '&' :: (name ++ rest) ++ c :: t = '&' :: (name ++ (rest ++ c :: t)) := by simp
    rw [shape, at?, at?, takeWhile_run run ends', takeWhile_run run ends, dropWhile_run run ends',
      dropWhile_run run ends]
    cases rest with
    | nil => simp [noEnd]
    | cons => rfl
  · rw [List.cons_append, at?_of_ne start, at?_of_ne start]

/-! ### How a text is decoded -/

theorem decodeFrom_eq (skip : Nat) (t : Text) : refs.decodeFrom skip t = refs.decode (t.drop skip) := by
  induction skip generalizing t with
  | zero => rfl
  | succ skip ih =>
    cases t with
    | nil => rfl
    | cons c t => exact ih t

/-- A reference is read as what its name stands for. -/
theorem decode_written {name value : Text} (run : ∀ c ∈ name, isReferenceChar c = true)
    (known : refs.value? name = some value) (rest : Text) :
    refs.decode (written name ++ rest) = value ++ refs.decode rest := by
  have here : refs.at? (written name ++ rest) = some (value, (written name).length) :=
    at?_eq_some_iff.mpr ⟨name, rest, rfl, run, known, rfl⟩
  have behind : ((name ++ [';']) ++ rest).drop ((written name).length - 1) = rest := by
    rw [written, List.length_cons, Nat.add_sub_cancel, List.drop_left]
  rw [written, List.cons_append] at here
  rw [decode, written, List.cons_append, decodeFrom, here]
  dsimp only
  rw [decodeFrom_eq, ← written, behind]

/-- Where no reference starts, a character is read as itself. -/
theorem decode_cons {c : Char} {rest : Text} (none : refs.at? (c :: rest) = none) :
    refs.decode (c :: rest) = c :: refs.decode rest := by
  rw [decode, decodeFrom, none]
  rfl

/-- A text starts with a reference that is known, or its first character is read as itself. -/
theorem decode_cases (refs : References) (c : Char) (rest : Text) :
    (∃ name value behind, c :: rest = written name ++ behind ∧ (∀ d ∈ name, isReferenceChar d = true) ∧
        refs.value? name = some value ∧ refs.decode (c :: rest) = value ++ refs.decode behind) ∨
      refs.at? (c :: rest) = none ∧ refs.decode (c :: rest) = c :: refs.decode rest := by
  cases found : refs.at? (c :: rest) with
  | none => exact .inr ⟨rfl, decode_cons found⟩
  | some reference =>
    obtain ⟨name, behind, shape, run, known, -⟩ := at?_eq_some_iff.mp found
    exact .inl ⟨name, _, behind, shape, run, known, by rw [shape, decode_written run known]⟩

/-- **Texts are decoded apart** on both sides of a character that is in no reference. -/
theorem decode_append {c : Char} (apart : IsApart c) (s t : Text) :
    refs.decode (s ++ c :: t) = refs.decode s ++ c :: refs.decode t := by
  induction length : s.length using Nat.strong_induction_on generalizing s with
  | _ n ih =>
    cases s with
    | nil => exact decode_cons (at?_of_ne apart.2.1 t)
    | cons d s =>
      have same : refs.at? (d :: s ++ c :: t) = refs.at? (d :: s) := at?_append apart (List.cons_ne_nil d s) t
      rcases decode_cases refs d s with ⟨name, value, behind, shape, run, known, decoded⟩ | ⟨none, decoded⟩
      · have shorter : behind.length < n := by
          rw [← length, shape]
          simp only [written, List.cons_append, List.append_assoc, List.length_cons, List.length_append]
          omega
        rw [decoded, shape, List.append_assoc, decode_written run known, ih _ shorter behind rfl,
          List.append_assoc]
      · have shorter : s.length < n := by
          rw [← length]
          exact Nat.lt_succ_self _
        have none' : refs.at? (d :: (s ++ c :: t)) = Option.none := same.trans none
        rw [decoded, List.cons_append, decode_cons none', ih _ shorter s rfl, List.cons_append]

/-- No reference stands anywhere in a text. -/
def IsFree (refs : References) (t : Text) : Prop := ∀ k < t.length, refs.at? (t.drop k) = none

instance (refs : References) (t : Text) : Decidable (refs.IsFree t) :=
  inferInstanceAs (Decidable (∀ k < t.length, refs.at? (t.drop k) = none))

theorem isFree_cons_iff {c : Char} {t : Text} :
    refs.IsFree (c :: t) ↔ refs.at? (c :: t) = none ∧ refs.IsFree t := by
  constructor
  · intro free
    exact ⟨free 0 (by simp), fun k lt => free (k + 1) (by simpa using lt)⟩
  · rintro ⟨here, later⟩ k lt
    cases k with
    | zero => exact here
    | succ k => exact later k (by simpa using lt)

/-- A text without references is read as it stands. -/
theorem IsFree.decode_eq {t : Text} (free : refs.IsFree t) : refs.decode t = t := by
  induction t with
  | nil => rfl
  | cons c t ih =>
    obtain ⟨here, later⟩ := isFree_cons_iff.mp free
    rw [decode_cons here, ih later]

/-! ### References in a table -/

/-- The references that a table lists, each with what it stands for. -/
def ofTable (table : List (Text × Text)) (shorter : ∀ e ∈ table, e.2.length < e.1.length + 2) :
    References where
  value? name := (table.find? (·.1 == name)).map (·.2)
  shorter known := by
    obtain ⟨e, found, rfl⟩ := Option.map_eq_some_iff.mp known
    have same := List.find?_some found
    rw [← eq_of_beq same]
    exact shorter e (List.mem_of_find?_eq_some found)

/-- The references for the characters of markup and for quotes. -/
def common : References :=
  ofTable [("amp".toList, ['&']), ("lt".toList, ['<']), ("gt".toList, ['>']), ("quot".toList, ['"']),
    ("#39".toList, ['\''])] (by decide)

end References

/-! ## Tags -/

/-- White space in a tag. -/
def isTagSpace (c : Char) : Bool := c == ' ' || c == '\t' || c == '\n' || c == '\x0c' || c == '\r'

namespace StartTag

/-- Where the reader is in a tag. -/
inductive Place where
  /-- In the name of the element. -/
  | name
  /-- Between attributes. -/
  | gap
  /-- Behind a slash. -/
  | slash
  /-- In the name of an attribute. -/
  | key (key : Text)
  /-- Behind the name of an attribute. -/
  | afterKey (key : Text)
  /-- Behind the equals sign of an attribute. -/
  | sign (key : Text)
  /-- In the value of an attribute, which goes on up to the quote. -/
  | quoted (quote : Char) (key value : Text)
  /-- In the value of an attribute without quotes. -/
  | unquoted (key value : Text)
  deriving DecidableEq

end StartTag

/-- What a browser has read of a tag. -/
structure StartTag where
  /-- The name of the element. -/
  name : Text
  /-- The attributes that are complete, each with its value as it is written. -/
  attributes : List (Text × Text)
  /-- Where the reader is. -/
  place : StartTag.Place
  deriving DecidableEq

namespace StartTag

/-- One more attribute is complete. -/
def push (tag : StartTag) (key value : Text) : StartTag :=
  { tag with attributes := tag.attributes ++ [(key, value)] }

/-- The reader goes to another place. -/
def goTo (tag : StartTag) (place : Place) : StartTag := { tag with place }

/-- A character between attributes; it may start one. -/
def between (tag : StartTag) (c : Char) : StartTag :=
  if isTagSpace c then tag.goTo .gap else if c = '/' then tag.goTo .slash else tag.goTo (.key [c])

/-- One more character. -/
def step (tag : StartTag) (c : Char) : StartTag :=
  match tag.place with
  | .name =>
    if isTagSpace c then tag.goTo .gap else if c = '/' then tag.goTo .slash
    else { tag with name := tag.name ++ [c] }
  | .gap => tag.between c
  | .slash => tag.between c
  | .key key =>
    if isTagSpace c then tag.goTo (.afterKey key) else if c = '=' then tag.goTo (.sign key)
    else if c = '/' then (tag.push key []).goTo .slash else tag.goTo (.key (key ++ [c]))
  | .afterKey key =>
    if isTagSpace c then tag else if c = '=' then tag.goTo (.sign key) else (tag.push key []).between c
  | .sign key =>
    if isTagSpace c then tag else if c = '"' ∨ c = '\'' then tag.goTo (.quoted c key [])
    else tag.goTo (.unquoted key [c])
  | .quoted quote key value =>
    if c = quote then (tag.push key value).goTo .gap else tag.goTo (.quoted quote key (value ++ [c]))
  | .unquoted key value =>
    if isTagSpace c then (tag.push key value).goTo .gap else tag.goTo (.unquoted key (value ++ [c]))

/-- A bracket closes the tag, but not in quotes. -/
def closes (tag : StartTag) (c : Char) : Bool :=
  c == '>' && match tag.place with
    | .quoted _ _ _ => false
    | _ => true

/-- The tag when it is closed: an attribute that was begun is complete. -/
def finish (tag : StartTag) : StartTag :=
  match tag.place with
  | .key key | .afterKey key | .sign key => tag.push key []
  | .unquoted key value => tag.push key value
  | _ => tag

/-- The rest of a tag: the tag when it is closed, and what stands behind it. -/
def readFrom : StartTag → Text → Option (StartTag × Text)
  | _, [] => none
  | tag, c :: t => if tag.closes c then some (tag.finish, t) else (tag.step c).readFrom t

/-- Characters that do not close the tag. -/
def advance : StartTag → Text → Option StartTag
  | tag, [] => some tag
  | tag, c :: t => if tag.closes c then none else (tag.step c).advance t

/-- What has been read behind a bracket and a letter. -/
def start? : Text → Option (StartTag × Text)
  | '<' :: c :: t => if isNameStart c then some (⟨[c], [], .name⟩, t) else none
  | _ => none

/-- The tag that a text starts with, and what stands behind it. -/
def read? (t : Text) : Option (StartTag × Text) := (start? t).bind fun r => r.1.readFrom r.2

/-- What has been read of a tag when a text is over that does not close it. -/
def opened? (t : Text) : Option StartTag := (start? t).bind fun r => r.1.advance r.2

variable {tag : StartTag}

/-! ### One part after the other -/

theorem readFrom_append {tag' : StartTag} {s : Text} (advances : tag.advance s = some tag') (t : Text) :
    tag.readFrom (s ++ t) = tag'.readFrom t := by
  induction s generalizing tag with
  | nil =>
    cases advances
    rfl
  | cons c s ih =>
    rw [advance] at advances
    rw [List.cons_append, readFrom]
    split at advances
    · cases advances
    · rename_i goes
      rw [if_neg goes, ih advances]

/-- A tag that is opened is read on from where it was left. -/
theorem read?_append {s : Text} (opens : opened? s = some tag) (t : Text) :
    read? (s ++ t) = tag.readFrom t := by
  obtain ⟨⟨first, rest⟩, begins, advances⟩ := Option.bind_eq_some_iff.mp opens
  have shape : ∃ c, s = '<' :: c :: rest ∧ isNameStart c = true ∧ first = ⟨[c], [], .name⟩ := by
    unfold start? at begins
    split at begins
    · rename_i c t
      split at begins
      · rename_i letter
        cases begins
        exact ⟨c, rfl, letter, rfl⟩
      · cases begins
    · cases begins
  obtain ⟨c, rfl, letter, rfl⟩ := shape
  rw [← readFrom_append advances, read?, List.cons_append, List.cons_append, start?, if_pos letter]
  rfl

/-- **In quotes only the next equal quote counts**: the value is what stands in front of it. -/
theorem readFrom_quoted {name : Text} {attributes : List (Text × Text)} {quote : Char} {key u : Text}
    (inside : quote ∉ u) (value t : Text) :
    readFrom ⟨name, attributes, .quoted quote key value⟩ (u ++ quote :: t) =
      readFrom ⟨name, attributes ++ [(key, value ++ u)], .gap⟩ t := by
  induction u generalizing value with
  | nil => simp [readFrom, closes, step, push, goTo]
  | cons c u ih =>
    obtain ⟨here, later⟩ := not_or.mp (mt List.mem_cons.mpr inside)
    rw [List.cons_append, readFrom, if_neg (by simp [closes]), step]
    dsimp only
    rw [if_neg (Ne.symm here), goTo, ih later, List.append_assoc, List.singleton_append]

/-! ### Attributes in front -/

/-- The tag with attributes in front of those that have been read. -/
def behind (tag : StartTag) (front : List (Text × Text)) : StartTag :=
  { tag with attributes := front ++ tag.attributes }

section

variable (front : List (Text × Text))

theorem step_behind (c : Char) : (tag.behind front).step c = (tag.step c).behind front := by
  obtain ⟨name, attributes, place⟩ := tag
  cases place <;> simp only [behind, step, between, push, goTo] <;> grind

theorem finish_behind : (tag.behind front).finish = tag.finish.behind front := by
  obtain ⟨name, attributes, place⟩ := tag
  cases place <;> simp [behind, finish, push]

/-- **What is read behind attributes does not depend on them.** -/
theorem readFrom_behind (t : Text) :
    (tag.behind front).readFrom t = (tag.readFrom t).map fun r => (r.1.behind front, r.2) := by
  induction t generalizing tag with
  | nil => rfl
  | cons c t ih =>
    have same : (tag.behind front).closes c = tag.closes c := rfl
    rw [readFrom, readFrom, same, finish_behind, step_behind, ih]
    split <;> rfl

end

/-- **The value of an attribute** is what stands between its quotes; the rest of the tag is read as if nothing
stood in front. -/
theorem readFrom_value {name : Text} {attributes : List (Text × Text)} {key u : Text} {quote : Char}
    (quotes : quote = '"' ∨ quote = '\'') (inside : quote ∉ u) (t : Text) :
    readFrom ⟨name, attributes, .sign key⟩ (quote :: (u ++ quote :: t)) =
      (readFrom ⟨name, [], .gap⟩ t).map fun r => (r.1.behind (attributes ++ [(key, u)]), r.2) := by
  have opens : (⟨name, attributes, .sign key⟩ : StartTag).step quote = ⟨name, attributes, .quoted quote key []⟩ := by
    rcases quotes with rfl | rfl <;> rfl
  have goes : (⟨name, attributes, .sign key⟩ : StartTag).closes quote = false := by
    rcases quotes with rfl | rfl <;> rfl
  have front : (⟨name, attributes ++ [(key, u)], .gap⟩ : StartTag) =
      (⟨name, [], .gap⟩ : StartTag).behind (attributes ++ [(key, u)]) := by simp [behind]
  rw [readFrom, goes, if_neg Bool.false_ne_true, opens, readFrom_quoted inside, List.nil_append, front,
    readFrom_behind]

end StartTag

end Retouch.Markup
