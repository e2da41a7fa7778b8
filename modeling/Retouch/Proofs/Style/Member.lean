import Retouch.Proofs.Patch.Escaping
import Retouch.Proofs.Style.Token
import Retouch.Proofs.Text
import Retouch.Style.ObjectLiteral

/-!
# The grammar of style objects

A style object is members in braces with commas between them, and a comma may stand behind the last one. A
member is a key, a colon and a value, or a spread; values are strings, numbers, templates and names joined by
dots (`Member`, `Body`). The automaton reads tokens one by one. What it accepts from each of its states is what
the grammar allows there (`Accepts`), and it is kept by every step (`accepts_cons_iff`). So the automaton reads
exactly the members of the grammar (`run_start_eq_some_iff`).

A member of a style object is written as its key, a colon and its value. What is written is cut into the tokens
of the member, in front of the comma or the blank that follows it (`renders_entry`). So members that have been
read are written and read back (`read?_write`), and so are those that changes add to them.
-/

namespace Retouch.Style.ObjectLiteral

open Retouch.Text

/-! ### The grammar -/

/-- Names joined by dots. -/
structure Dotted where
  /-- The first name. -/
  first : Text
  /-- The names behind dots. -/
  others : List Text

namespace Dotted

/-- Names behind dots, as tokens. -/
def moreTokens (names : List Text) : List Token := names.flatMap fun name => [.dot, .name name]

/-- Names behind dots, as a text. -/
def moreText (names : List Text) : Text := names.flatMap ('.' :: ·)

/-- The tokens of the names. -/
def tokens (d : Dotted) : List Token := .name d.first :: moreTokens d.others

/-- The names as one text. -/
def text (d : Dotted) : Text := d.first ++ moreText d.others

@[simp] theorem moreTokens_cons (name : Text) (names : List Text) :
    moreTokens (name :: names) = .dot :: .name name :: moreTokens names := rfl

@[simp] theorem moreText_cons (name : Text) (names : List Text) :
    moreText (name :: names) = '.' :: name ++ moreText names := rfl

end Dotted

/-- A value of the grammar. -/
inductive Value where
  /-- A string. -/
  | string (t : Text)
  /-- A number or a template. -/
  | constant (t : Text)
  /-- A reference. -/
  | reference (d : Dotted)

namespace Value

/-- The tokens of a value. -/
def tokens : Value → List Token
  | string t => [.string t]
  | constant t => [.constant t]
  | reference d => d.tokens

/-- The text of a value. -/
def text : Value → Text
  | string t | constant t => t
  | reference d => d.text

end Value

/-- A member of the grammar. -/
inductive Member where
  /-- A name, a colon and a value. -/
  | named (name : Text) (value : Value)
  /-- A string, a colon and a value. -/
  | quoted (string : Text) (value : Value)
  /-- A spread. -/
  | spread (d : Dotted)

namespace Member

/-- The tokens of a member. -/
def tokens : Member → List Token
  | named name value => .name name :: .colon :: value.tokens
  | quoted string value => .string string :: .colon :: value.tokens
  | spread d => .spread :: d.tokens

/-- The member as it is kept. -/
def entry : Member → StyleEntry
  | named name value => ⟨some name, value.text⟩
  | quoted string value => ⟨some string, value.text⟩
  | spread d => ⟨none, '.' :: '.' :: '.' :: d.text⟩

end Member

/-- What stands behind the opening brace: members, each with a comma behind it but for the last one, which may
have none, and the closing brace. -/
inductive Body : List Token → List Member → Prop where
  /-- No more members. -/
  | none : Body [.closing] []
  /-- A last member. -/
  | last (m : Member) : Body (m.tokens ++ [.closing]) [m]
  /-- A member with a comma behind it. -/
  | more {ts : List Token} {ms : List Member} (m : Member) :
      Body ts ms → Body (m.tokens ++ .comma :: ts) (m :: ms)

/-! ### What the automaton accepts -/

/-- The tokens behind the opening brace or a comma. -/
def AcceptsBody (ts : List Token) (es : List StyleEntry) : Prop :=
  ∃ ms, Body ts ms ∧ es = ms.map Member.entry

/-- The tokens behind a member. -/
inductive AcceptsBehind (e : StyleEntry) : List Token → List StyleEntry → Prop where
  /-- It was the last one. -/
  | closing : AcceptsBehind e [.closing] [e]
  /-- A comma follows. -/
  | comma {ts : List Token} {es : List StyleEntry} :
      AcceptsBody ts es → AcceptsBehind e (.comma :: ts) (e :: es)

/-- The tokens that the grammar allows from a state on, and the members in them. -/
def Accepts : State → List Token → List StyleEntry → Prop
  | .start, ts, es => ∃ us, ts = .opening :: us ∧ AcceptsBody us es
  | .opened, ts, es => AcceptsBody ts es
  | .members, ts, es => AcceptsBody ts es
  | .key k, ts, es => ∃ (v : Value) (us : List Token), ts = .colon :: (v.tokens ++ us) ∧
      AcceptsBehind ⟨some k, v.text⟩ us es
  | .value k, ts, es => ∃ (v : Value) (us : List Token), ts = v.tokens ++ us ∧
      AcceptsBehind ⟨some k, v.text⟩ us es
  | .needsName k raw, ts, es => ∃ (d : Dotted) (us : List Token), ts = d.tokens ++ us ∧
      AcceptsBehind ⟨k, raw ++ d.text⟩ us es
  | .reference k raw, ts, es => ∃ (names : List Text) (us : List Token),
      ts = Dotted.moreTokens names ++ us ∧ AcceptsBehind ⟨k, raw ++ Dotted.moreText names⟩ us es
  | .complete e, ts, es => AcceptsBehind e ts es
  | .closed, ts, es => ts = [] ∧ es = []

/-- The tokens that are accepted after a step, and the members in it and in them. -/
def AcceptsAfter : Option (List StyleEntry × State) → List Token → List StyleEntry → Prop
  | none, _, _ => False
  | some (done, s), ts, es => ∃ es', es = done ++ es' ∧ Accepts s ts es'

section

variable {s s' : State} {token : Token} {ts : List Token} {es : List StyleEntry} {e : StyleEntry}
  {k : Text} {k? : Option Text} {raw : Text}

@[simp] theorem acceptsAfter_none : AcceptsAfter none ts es ↔ False := Iff.rfl

/-- Most steps complete no member. -/
@[simp] theorem acceptsAfter_some_nil : AcceptsAfter (some ([], s)) ts es ↔ Accepts s ts es := by
  simp [AcceptsAfter]

/-! ### One step -/

theorem acceptsBehind_cons_iff :
    AcceptsBehind e (token :: ts) es ↔ AcceptsAfter (afterEntry e token) ts es := by
  constructor
  · intro accepts
    generalize start : token :: ts = us at accepts
    cases accepts with
    | closing =>
      cases start
      exact ⟨[], rfl, rfl, rfl⟩
    | comma body =>
      cases start
      exact ⟨_, rfl, body⟩
  · intro accepts
    cases token with
    | closing =>
      obtain ⟨_, rfl, rfl, rfl⟩ := accepts
      exact .closing
    | comma =>
      obtain ⟨es', rfl, body⟩ := accepts
      exact .comma body
    | _ => exact accepts.elim

/-- Behind an opening brace or a comma, the object ends or a member follows. -/
theorem acceptsBody_iff :
    AcceptsBody ts es ↔
      ts = [.closing] ∧ es = [] ∨ ∃ (m : Member) (us : List Token), ts = m.tokens ++ us ∧ AcceptsBehind m.entry us es := by
  constructor
  · rintro ⟨ms, body, rfl⟩
    cases body with
    | none => exact .inl ⟨rfl, rfl⟩
    | last m => exact .inr ⟨m, _, rfl, .closing⟩
    | more m body => exact .inr ⟨m, _, rfl, .comma ⟨_, body, rfl⟩⟩
  · rintro (⟨rfl, rfl⟩ | ⟨m, us, rfl, behind⟩)
    · exact ⟨[], .none, rfl⟩
    · cases behind with
      | closing => exact ⟨[m], .last m, rfl⟩
      | comma body =>
        obtain ⟨ms, body, rfl⟩ := body
        exact ⟨m :: ms, .more m body, rfl⟩

/-- Which member follows is told by its first token. -/
theorem acceptsBody_cons_iff :
    AcceptsBody (token :: ts) es ↔
      match token with
      | .closing => Accepts .closed ts es
      | .name name => Accepts (.key name) ts es
      | .string string => Accepts (.key string) ts es
      | .spread => Accepts (.needsName none ['.', '.', '.']) ts es
      | _ => False := by
  rw [acceptsBody_iff]
  constructor
  · rintro (⟨start, rfl⟩ | ⟨m, us, start, behind⟩)
    · cases start
      exact ⟨rfl, rfl⟩
    · cases m <;> cases start <;> exact ⟨_, us, rfl, behind⟩
  · intro accepts
    split at accepts
    · obtain ⟨rfl, rfl⟩ := accepts
      exact .inl ⟨rfl, rfl⟩
    · obtain ⟨v, us, rfl, behind⟩ := accepts
      exact .inr ⟨.named _ v, us, rfl, behind⟩
    · obtain ⟨v, us, rfl, behind⟩ := accepts
      exact .inr ⟨.quoted _ v, us, rfl, behind⟩
    · obtain ⟨d, us, rfl, behind⟩ := accepts
      exact .inr ⟨.spread d, us, rfl, behind⟩
    · exact accepts.elim

/-- Which value follows a colon is told by its first token. -/
theorem accepts_value_cons_iff :
    Accepts (.value k) (token :: ts) es ↔
      match token with
      | .string t => Accepts (.complete ⟨some k, t⟩) ts es
      | .constant t => Accepts (.complete ⟨some k, t⟩) ts es
      | .name t => Accepts (.reference (some k) t) ts es
      | _ => False := by
  constructor
  · rintro ⟨v, us, start, behind⟩
    cases v with
    | string t | constant t =>
      cases start
      exact behind
    | reference d =>
      cases start
      exact ⟨d.others, us, rfl, behind⟩
  · intro accepts
    split at accepts
    · exact ⟨.string _, ts, rfl, accepts⟩
    · exact ⟨.constant _, ts, rfl, accepts⟩
    · obtain ⟨names, us, rfl, behind⟩ := accepts
      exact ⟨.reference ⟨_, names⟩, us, rfl, behind⟩
    · exact accepts.elim

/-- Behind dots, a name follows. -/
theorem accepts_needsName_cons_iff :
    Accepts (.needsName k? raw) (token :: ts) es ↔
      ∃ name, token = .name name ∧ Accepts (.reference k? (raw ++ name)) ts es := by
  constructor
  · rintro ⟨⟨name, names⟩, us, start, behind⟩
    cases start
    refine ⟨name, rfl, names, us, rfl, ?_⟩
    rwa [List.append_assoc]
  · rintro ⟨name, rfl, names, us, rfl, behind⟩
    refine ⟨⟨name, names⟩, us, rfl, ?_⟩
    rwa [List.append_assoc] at behind

/-- Behind a name, there are dots or the member ends. -/
theorem accepts_reference_cons_iff :
    Accepts (.reference k? raw) (token :: ts) es ↔
      if token = .dot then Accepts (.needsName k? (raw ++ ['.'])) ts es
      else AcceptsBehind ⟨k?, raw⟩ (token :: ts) es := by
  constructor
  · rintro ⟨names, us, start, behind⟩
    cases names with
    | nil =>
      obtain rfl : token :: ts = us := start
      rw [Dotted.moreText, List.flatMap_nil, List.append_nil] at behind
      rw [if_neg]
      · exact behind
      · rintro rfl
        cases behind
    | cons name names =>
      cases start
      rw [if_pos rfl]
      refine ⟨⟨name, names⟩, us, rfl, ?_⟩
      simpa [Dotted.text] using behind
  · intro accepts
    split at accepts
    · rename_i dot
      obtain ⟨⟨name, names⟩, us, rfl, behind⟩ := accepts
      refine ⟨name :: names, us, by rw [dot]; rfl, ?_⟩
      simpa [Dotted.text] using behind
    · refine ⟨[], _, rfl, ?_⟩
      rwa [Dotted.moreText, List.flatMap_nil, List.append_nil]

/-- **What is accepted is kept by a step.** -/
theorem accepts_cons_iff : Accepts s (token :: ts) es ↔ AcceptsAfter (step s token) ts es := by
  cases s with
  | start => cases token <;> simp [step, Accepts]
  | opened | members =>
    rw [Accepts, acceptsBody_cons_iff]
    cases token <;> simp [step]
  | key k => cases token <;> simp [step, Accepts]
  | value k =>
    rw [accepts_value_cons_iff]
    cases token <;> simp [step]
  | needsName k raw =>
    rw [accepts_needsName_cons_iff]
    cases token <;> simp [step]
  | reference k raw =>
    rw [accepts_reference_cons_iff, acceptsBehind_cons_iff]
    cases token <;> simp [step]
  | complete e => exact acceptsBehind_cons_iff
  | closed => simp [Accepts, step]

/-! ### A run -/

theorem not_acceptsBehind_nil : ¬ AcceptsBehind e [] es := nofun

theorem not_acceptsBody_nil : ¬ AcceptsBody [] es := by
  rw [acceptsBody_iff]
  rintro (⟨⟨⟩, -⟩ | ⟨m, us, start, -⟩)
  cases m <;> cases start

/-- The end is accepted behind the closing brace only. -/
theorem accepts_nil_iff : Accepts s [] es ↔ s = .closed ∧ es = [] := by
  cases s with
  | closed => simp [Accepts]
  | start | key => simp [Accepts]
  | opened | members => simp [Accepts, not_acceptsBody_nil]
  | complete => simp [Accepts, not_acceptsBehind_nil]
  | value k =>
    simp only [Accepts, reduceCtorEq, false_and, iff_false]
    rintro ⟨v, us, start, -⟩
    cases v <;> cases start
  | needsName k raw => simp [Accepts, Dotted.tokens]
  | reference k raw =>
    simp only [Accepts, reduceCtorEq, false_and, iff_false]
    rintro ⟨names, us, start, behind⟩
    obtain ⟨-, rfl⟩ := List.append_eq_nil_iff.mp start.symm
    cases behind

/-- **The automaton reads what is accepted.** -/
theorem run_eq_some_iff : run s ts = some es ↔ Accepts s ts es := by
  induction ts generalizing s es with
  | nil =>
    rw [accepts_nil_iff]
    cases s <;> simp [run, eq_comm]
  | cons token ts ih =>
    have next : run s (token :: ts) =
        (step s token).bind fun result => (run result.2 ts).map (result.1 ++ ·) := by
      cases after : step s token <;> cases s <;> simp [run, after]
    rw [accepts_cons_iff, next]
    cases step s token with
    | none => simp
    | some result =>
      obtain ⟨done, s'⟩ := result
      simp only [AcceptsAfter, Option.bind_some, Option.map_eq_some_iff, ih]
      exact exists_congr fun es' => by rw [and_comm, eq_comm]

/-- **The automaton reads the members of the grammar.** -/
theorem run_start_eq_some_iff :
    run .start ts = some es ↔ ∃ us ms, ts = .opening :: us ∧ Body us ms ∧ es = ms.map Member.entry := by
  rw [run_eq_some_iff]
  exact exists_congr fun us => by simp [AcceptsBody]

end

/-! ## Members written and read back -/

open Retouch.Markup

/-! ### Texts as tokens -/

/-- What follows a member: a comma, or a blank in front of the closing brace. -/
def EndsMember (rest : Text) : Prop := ∀ c ∈ rest.head?, c = ',' ∨ c = ' '

/-- The text is cut into the tokens, whatever follows the member that it ends. -/
def Cuts (t : Text) (ts : List Token) : Prop :=
  ∀ rest, EndsMember rest → tokensFrom? 0 (t ++ rest) = (tokensFrom? 0 rest).map (ts ++ ·)

/-- The member is written as the grammar has it. -/
def Renders (e : StyleEntry) (m : Member) : Prop := Cuts e.text m.tokens

/-- The tokens of the member are proper. -/
def Member.IsProper (m : Member) : Prop := ∀ token ∈ m.tokens, token.IsProper

section

variable {token : Token} {t rest : Text} {ts us : List Token} {e : StyleEntry} {es : List StyleEntry}
  {m : Member} {ms : List Member}

/-- No token but a dot goes on behind a member. -/
theorem EndsMember.endsAt (ends : EndsMember rest) (noDot : token ≠ .dot) : token.EndsAt rest := by
  have marks : ∀ c ∈ rest.head?, isNameChar c = false ∧ c ≠ '.' := by
    intro c head
    rcases ends c head with rfl | rfl <;> decide
  cases token with
  | name => exact fun c head => (marks c head).1
  | constant => exact marks
  | dot => exact absurd rfl noDot
  | _ => trivial

/-- A single token. -/
theorem cuts_token (token : Token) (proper : token.IsProper) (noDot : token ≠ .dot) : Cuts token.text [token] :=
  fun _ ends => tokensFrom?_text token proper (ends.endsAt noDot)

/-- One more token in front. -/
theorem Cuts.cons (cuts : Cuts t ts) (token : Token) (proper : token.IsProper)
    (ends : ∀ rest, EndsMember rest → token.EndsAt (t ++ rest)) : Cuts (token.text ++ t) (token :: ts) := by
  intro rest follows
  rw [List.append_assoc, tokensFrom?_text token proper (ends rest follows), cuts rest follows, Option.map_map]
  rfl

/-- A blank in front. -/
theorem Cuts.space {c : Char} (cuts : Cuts t ts) (space : isSpace c = true) : Cuts (c :: t) ts :=
  fun rest follows => by rw [List.cons_append, tokensFrom?_space space, cuts rest follows]

/-! ### Members -/

/-- Names behind dots. -/
theorem cuts_moreText {names : List Text} (proper : ∀ name ∈ names, IsName name) :
    Cuts (Dotted.moreText names) (Dotted.moreTokens names) ∧
      ∀ rest, EndsMember rest → ∀ c ∈ (Dotted.moreText names ++ rest).head?, isNameChar c = false := by
  induction names with
  | nil =>
    refine ⟨fun rest _ => by simp [Dotted.moreText, Dotted.moreTokens], fun rest ends c head => ?_⟩
    rcases ends c head with rfl | rfl <;> decide
  | cons name names ih =>
    obtain ⟨here, later⟩ := List.forall_mem_cons.mp proper
    obtain ⟨cuts, ends⟩ := ih later
    obtain ⟨c, u, rfl, starts, run⟩ := id here
    have named : Cuts (c :: u ++ Dotted.moreText names) (.name (c :: u) :: Dotted.moreTokens names) :=
      cuts.cons (.name (c :: u)) here ends
    refine ⟨named.cons .dot trivial ?_, ?_⟩
    · rintro rest - d ⟨⟩
      exact starts
    · rintro rest - d ⟨⟩
      decide

theorem Dotted.isName_of_isProper {names : List Text} (proper : ∀ token ∈ moreTokens names, token.IsProper) :
    ∀ name ∈ names, IsName name := fun name mem =>
  proper (.name name) (List.mem_flatMap.mpr ⟨name, mem, by simp⟩)

/-- Names joined by dots. -/
theorem cuts_dotted {d : Dotted} (proper : ∀ token ∈ d.tokens, token.IsProper) :
    Cuts d.text d.tokens := by
  obtain ⟨here, later⟩ := List.forall_mem_cons.mp proper
  obtain ⟨cuts, ends⟩ := cuts_moreText (Dotted.isName_of_isProper later)
  exact cuts.cons (.name d.first) here ends

/-- A value. -/
theorem cuts_value {v : Value} (proper : ∀ token ∈ v.tokens, token.IsProper) : Cuts v.text v.tokens := by
  cases v with
  | string t => exact cuts_token (.string t) (proper _ (List.mem_singleton_self _)) nofun
  | constant t => exact cuts_token (.constant t) (proper _ (List.mem_singleton_self _)) nofun
  | reference d => exact cuts_dotted proper

/-- A value behind its colon. -/
theorem cuts_colon_value {v : Value} (proper : ∀ token ∈ v.tokens, token.IsProper) :
    Cuts (':' :: ' ' :: v.text) (.colon :: v.tokens) :=
  ((cuts_value proper).space (by decide)).cons .colon trivial fun _ _ => trivial

/-- **A member of the grammar is written as what it is.** -/
theorem renders_entry (proper : m.IsProper) : Renders m.entry m := by
  cases m with
  | named name v =>
    obtain ⟨isName, -, rest⟩ := (List.forall_mem_cons.mp proper).imp_right List.forall_mem_cons.mp
    refine (cuts_colon_value rest).cons (.name name) isName ?_
    rintro more - c ⟨⟩
    decide
  | quoted string v =>
    obtain ⟨isString, -, rest⟩ := (List.forall_mem_cons.mp proper).imp_right List.forall_mem_cons.mp
    exact (cuts_colon_value rest).cons (.string string) isString fun _ _ => trivial
  | spread d =>
    obtain ⟨-, rest⟩ := List.forall_mem_cons.mp proper
    exact (cuts_dotted rest).cons .spread trivial fun _ _ => trivial

/-! ### Objects -/

/-- The members of an object that has been read, with proper tokens. -/
theorem exists_members (read : read? t = some es) :
    ∃ ms : List Member, (∀ m ∈ ms, m.IsProper) ∧ es = ms.map Member.entry := by
  obtain ⟨ts, cut, run⟩ := Option.bind_eq_some_iff.mp read
  obtain ⟨us, ms, rfl, body, rfl⟩ := run_start_eq_some_iff.mp run
  have proper := (List.forall_mem_cons.mp (isProper_of_mem_tokensFrom? cut)).2
  refine ⟨ms, ?_, rfl⟩
  clear cut read run
  induction body with
  | none => exact List.forall_mem_nil _
  | last m => exact List.forall_mem_singleton.mpr fun token mem => proper token (List.mem_append_left _ mem)
  | more m _ ih =>
    obtain ⟨here, later⟩ := List.forall_mem_append.mp proper
    exact List.forall_mem_cons.mpr ⟨here, ih (List.forall_mem_cons.mp later).2⟩

theorem tokensFrom?_opening (rest : Text) :
    tokensFrom? 0 ('{' :: rest) = (tokensFrom? 0 rest).map (.opening :: ·) :=
  tokensFrom?_text .opening trivial trivial

theorem tokensFrom?_comma (rest : Text) :
    tokensFrom? 0 (',' :: rest) = (tokensFrom? 0 rest).map (.comma :: ·) :=
  tokensFrom?_text .comma trivial trivial

/-- Members between the braces. -/
theorem exists_body (spelled : List.Forall₂ Renders es ms) :
    ∃ us, Body us ms ∧ tokensFrom? 0 (join [',', ' '] (es.map StyleEntry.text) ++ [' ', '}']) = some us := by
  induction spelled with
  | nil => exact ⟨_, .none, rfl⟩
  | @cons e m es ms here later ih =>
    cases later with
    | nil =>
      refine ⟨_, .last m, ?_⟩
      rw [List.map_cons, List.map_nil, join, here [' ', '}'] (by rintro c ⟨⟩; simp)]
      rfl
    | cons =>
      obtain ⟨us, body, cut⟩ := ih
      refine ⟨_, .more m body, ?_⟩
      rw [List.map_cons, join_cons (by simp), List.append_assoc, List.append_assoc,
        here _ (by rintro c ⟨⟩; simp), List.cons_append, List.cons_append, List.nil_append,
        tokensFrom?_comma, tokensFrom?_space (by decide), cut]
      rfl

/-- An object has its braces at its ends. -/
theorem strip_write (es : List StyleEntry) : strip (write es) = write es := by
  unfold write
  split
  · decide
  · refine strip_of_ends (by rintro c ⟨⟩; decide) ?_
    rw [List.getLast?_append]
    rintro c ⟨⟩
    decide

/-- **Members are read back** as the grammar has them. -/
theorem read?_write (spelled : List.Forall₂ Renders es ms) : read? (write es) = some (ms.map Member.entry) := by
  obtain ⟨us, body, cut⟩ : ∃ us, Body us ms ∧ tokensFrom? 0 (write es) = some (.opening :: us) := by
    cases spelled with
    | nil => exact ⟨_, .none, rfl⟩
    | cons here later =>
      obtain ⟨us, body, cut⟩ := exists_body (.cons here later)
      refine ⟨us, body, ?_⟩
      rw [write, if_neg (by simp), List.cons_append, List.cons_append, tokensFrom?_opening,
        tokensFrom?_space (by decide), cut]
      rfl
  rw [read?, strip_write, cut]
  exact run_start_eq_some_iff.mpr ⟨us, ms, rfl, body, rfl⟩

end

end Retouch.Style.ObjectLiteral
