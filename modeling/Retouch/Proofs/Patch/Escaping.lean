import Retouch.Patch.Replacement
import Retouch.Proofs.Json.Text
import Retouch.Proofs.Markup.Grammar
import Retouch.Proofs.Markup.StartTag

/-!
# Escaped texts

A text is escaped for the place that it is put into. In a string this takes three passes, each over what the
one before has left; together they put a backslash in front of some characters and leave the others as they
are (`escapeInString_eq`). From this it follows by induction on the text that the string is closed by its own
quote and is read as the text. In markup a text stands as it is, or as one block that holds a string, or with
references for the characters that markup is made of. So a text stays inside wherever it is put, and means
what it says there (`escapeFor_staysInside`).
-/

namespace Retouch.Patch

open Retouch.Text Retouch.Markup

/-! ### Strings, character by character -/

/-- The character gets a backslash in front of it in a string in the given quotes, if the rest of the text
follows it. -/
def isCovered (q c : Char) (rest : Text) : Bool :=
  c == '\\' || c == q || if q == backQuote then c == '$' && rest.head? == some '{' else c == '\n'

/-- What stands behind the backslash: the character itself, but a letter for a line feed. -/
def letterOf (c : Char) : Char := if c == '\n' then 'n' else c

/-- A text as a string in the given quotes holds it. -/
def escaped (q : Char) : Text → Text
  | [] => []
  | c :: rest => if isCovered q c rest then '\\' :: letterOf c :: escaped q rest else c :: escaped q rest

section

variable {q c : Char} {rest t : Text}

theorem escaped_covered (covered : isCovered q c rest = true) :
    escaped q (c :: rest) = '\\' :: letterOf c :: escaped q rest := if_pos covered

theorem escaped_plain (plain : isCovered q c rest = false) : escaped q (c :: rest) = c :: escaped q rest :=
  if_neg (by simp [plain])

/-- A character that is left as it is neither covers another one nor closes the string, and opens no hole
in it. -/
theorem plain_cases (plain : isCovered q c rest = false) :
    c ≠ '\\' ∧ c ≠ q ∧ (q = backQuote → c = '$' → rest.head? ≠ some '{') ∧ (q ≠ backQuote → c ≠ '\n') := by
  simp only [isCovered, Bool.or_eq_false_iff, beq_eq_false_iff_ne] at plain
  obtain ⟨⟨noCover, goes⟩, others⟩ := plain
  refine ⟨noCover, goes, fun back dollar brace => ?_, fun other feed => ?_⟩
  · simp [back, dollar, brace] at others
  · simp [other, feed] at others

/-- A character that is covered is read back from what stands behind the backslash. -/
theorem letterOf_cases (quote : isQuote q = true) (covered : isCovered q c rest = true) :
    (c = '\n' ∧ letterOf c = 'n' ∧ q ≠ backQuote) ∨
      letterOf c = c ∧ c ≠ '\n' ∧ (c = '\\' ∨ c = q ∨ c = '$' ∧ q = backQuote) := by
  have noFeed : q ≠ '\n' := ne_of_class quote (by decide)
  by_cases feed : c = '\n'
  · subst feed
    refine .inl ⟨rfl, rfl, fun back => ?_⟩
    subst back
    simp [isCovered, noFeed.symm] at covered
  · refine .inr ⟨if_neg (by simpa using feed), feed, ?_⟩
    by_cases back : q = backQuote
    · subst back
      have which : (c = '\\' ∨ c = backQuote) ∨ c = '$' ∧ rest.head? = some '{' := by
        simpa [isCovered] using covered
      tauto
    · have which : (c = '\\' ∨ c = q) ∨ c = '\n' := by simpa [isCovered, back] using covered
      tauto

end

/-! ### The three passes -/

/-- A text with backslashes and quotes covered. -/
def quotesCovered (q : Char) (t : Text) : Text :=
  t.flatMap fun c => if c = '\\' ∨ c = q then ['\\', c] else [c]

theorem quotesCovered_cons (q c : Char) (t : Text) :
    quotesCovered q (c :: t) = (if c = '\\' ∨ c = q then ['\\', c] else [c]) ++ quotesCovered q t :=
  List.flatMap_cons

/-- The first two passes cover backslashes and quotes. -/
theorem replace_quotes {q : Char} (quote : isQuote q = true) (t : Text) :
    replace [q] ['\\', q] (replace ['\\'] ['\\', '\\'] t) = quotesCovered q t := by
  have noCover := isQuote_ne_backslash quote
  rw [replace_singleton, replace_singleton, List.flatMap_assoc]
  unfold quotesCovered
  congr 1
  funext c
  by_cases cover : c = '\\'
  · simp [cover, noCover]
  · by_cases same : c = q
    · simp [same, noCover.symm]
    · simp [cover, same, Ne.symm cover, Ne.symm same]

/-- They neither hide a brace nor bring one. -/
theorem head?_quotesCovered {q : Char} (quote : isQuote q = true) (t : Text) :
    (quotesCovered q t).head? = some '{' ↔ t.head? = some '{' := by
  have noBrace : q ≠ '{' := ne_of_class quote (by decide)
  cases t with
  | nil => rfl
  | cons c t =>
    rw [quotesCovered_cons]
    split
    · rename_i covered
      rcases covered with rfl | rfl <;> simp [noBrace]
    · simp

/-- The pass for holes covers each dollar sign that a brace follows. -/
theorem replaceFrom_hole (c : Char) (t : Text) :
    replaceFrom ['$', '{'] ['\\', '$', '{'] 0 (c :: t) =
      (if c = '$' ∧ t.head? = some '{' then ['\\', c] else [c]) ++
        replaceFrom ['$', '{'] ['\\', '$', '{'] 0 t := by
  cases t with
  | nil => simp [replaceFrom, startsWith]
  | cons d t =>
    by_cases hole : c = '$' ∧ d = '{'
    · obtain ⟨rfl, rfl⟩ := hole
      simp [replaceFrom, startsWith]
    · have other : ¬('$' = c ∧ '{' = d) := fun same => hole ⟨same.1.symm, same.2.symm⟩
      rw [replaceFrom]
      simp [startsWith, List.isPrefixOf, hole, other]

/-- In back quotes, the last pass is that for holes. -/
theorem replaceFrom_quotesCovered (t : Text) :
    replaceFrom ['$', '{'] ['\\', '$', '{'] 0 (quotesCovered backQuote t) = escaped backQuote t := by
  induction t with
  | nil => rfl
  | cons c t ih =>
    have brace := head?_quotesCovered (q := backQuote) rfl t
    rw [quotesCovered_cons, escaped]
    by_cases covered : c = '\\' ∨ c = backQuote
    · have here : isCovered backQuote c t = true := by
        rcases covered with rfl | rfl <;> rfl
      have others : c ≠ '\n' ∧ c ≠ '$' := by
        rcases covered with rfl | rfl <;> decide
      rw [if_pos covered, if_pos here, letterOf, if_neg (by simpa using others.1), ← ih]
      simp [replaceFrom_hole, others.2]
    · rw [if_neg covered, List.singleton_append, replaceFrom_hole, ih]
      simp only [brace]
      obtain ⟨noCover, goes⟩ := not_or.mp covered
      by_cases hole : c = '$' ∧ t.head? = some '{'
      · obtain ⟨rfl, head⟩ := hole
        simp [isCovered, letterOf, head]
      · have here : isCovered backQuote c t = false := by simpa [isCovered, noCover, goes] using hole
        simp [hole, here]

/-- In other quotes, it is that for line feeds. -/
theorem replace_quotesCovered {q : Char} (quote : isQuote q = true) (other : q ≠ backQuote) (t : Text) :
    replace ['\n'] ['\\', 'n'] (quotesCovered q t) = escaped q t := by
  have noFeed : q ≠ '\n' := ne_of_class quote (by decide)
  rw [replace_singleton]
  induction t with
  | nil => rfl
  | cons c t ih =>
    rw [quotesCovered_cons, List.flatMap_append, ih, escaped]
    by_cases covered : c = '\\' ∨ c = q
    · have here : isCovered q c t = true := by
        rcases covered with rfl | rfl <;> simp [isCovered]
      have feed : c ≠ '\n' := by
        rcases covered with rfl | rfl
        · decide
        · exact noFeed
      simp [covered, here, letterOf, feed, feed.symm]
    · obtain ⟨noCover, goes⟩ := not_or.mp covered
      by_cases feed : c = '\n'
      · subst feed
        simp [isCovered, letterOf, other, noFeed.symm]
      · simp [isCovered, noCover, goes, other, feed, Ne.symm feed]

/-- **What is covered in a string**: the three passes put a backslash in front of backslashes, of quotes and,
by the kind of the quotes, of holes or of line feeds, and nothing else. -/
theorem escapeInString_eq {q : Char} (quote : isQuote q = true) (t : Text) :
    escapeInString [q] t = escaped q t := by
  unfold escapeInString
  rw [replace_quotes quote]
  by_cases back : q = backQuote
  · subst back
    rw [if_pos (by simp), ← replaceFrom_quotesCovered]
    rfl
  · rw [if_neg (by simpa using back), replace_quotesCovered quote back]

/-! ### Strings are read back -/

/-- The character that an escape stands for in a string in the given quotes. -/
def escapeValue? (q c : Char) : Option Char :=
  if c == '\\' || c == q || c == '$' then some c else if c == 'n' then some '\n' else none

/-- The text that a string in the given quotes holds: a backslash, the quote or a dollar sign behind a
backslash stands for itself, and the letter `n` for a line feed. No other escapes are known. -/
def readEscapes? (q : Char) : Text → Option Text
  | [] => some []
  | ['\\'] => none
  | '\\' :: c :: rest => (escapeValue? q c).bind fun d => (readEscapes? q rest).map (d :: ·)
  | c :: rest => (readEscapes? q rest).map (c :: ·)

theorem readEscapes?_plain {c : Char} (q : Char) (noCover : c ≠ '\\') (rest : Text) :
    readEscapes? q (c :: rest) = (readEscapes? q rest).map (c :: ·) := by
  rw [readEscapes?]
  · rintro rfl
    exact absurd rfl noCover
  · rintro _ _ rfl
    exact absurd rfl noCover

section

variable {q : Char} (quote : isQuote q = true)

include quote

/-- What stands behind a backslash is read as what was covered. -/
theorem escapeValue?_letterOf {c : Char} {rest : Text} (covered : isCovered q c rest = true) :
    escapeValue? q (letterOf c) = some c := by
  have noLetter : q ≠ 'n' := ne_of_class quote (by decide)
  rcases letterOf_cases quote covered with ⟨rfl, letter, -⟩ | ⟨letter, -, which⟩
  · rw [letter]
    simp [escapeValue?, noLetter.symm]
  · rw [letter]
    rcases which with rfl | rfl | ⟨rfl, -⟩ <;> simp [escapeValue?]

/-- **A string is read as the text** that it was written from. -/
theorem readEscapes?_escaped (t : Text) : readEscapes? q (escaped q t) = some t := by
  induction t with
  | nil => rfl
  | cons c t ih =>
    by_cases covered : isCovered q c t = true
    · rw [escaped_covered covered, readEscapes?, escapeValue?_letterOf quote covered, ih]
      rfl
    · have plain := Bool.eq_false_iff.mpr covered
      rw [escaped_plain plain, readEscapes?_plain q (plain_cases plain).1, ih]
      rfl

/-- No brace comes to stand behind a dollar sign. -/
theorem head?_escaped (t : Text) : (escaped q t).head? = some '{' ↔ t.head? = some '{' := by
  have noBrace : q ≠ '{' := ne_of_class quote (by decide)
  cases t with
  | nil => rfl
  | cons c t =>
    by_cases covered : isCovered q c t = true
    · have other : c ≠ '{' := by
        rcases letterOf_cases quote covered with ⟨rfl, -⟩ | ⟨-, -, rfl | rfl | ⟨rfl, -⟩⟩
        · decide
        · decide
        · exact noBrace
        · decide
      rw [escaped_covered covered]
      simp [other]
    · rw [escaped_plain (Bool.eq_false_iff.mpr covered)]
      simp

/-- **A string ends at its own quote.** -/
theorem isInside_escaped (t : Text) : IsInside (.quoted q) (escaped q t) := by
  induction t with
  | nil => exact isInside_nil quote
  | cons c t ih =>
    by_cases covered : isCovered q c t = true
    · rw [escaped_covered covered]
      exact ih.covered _
    · have plain := Bool.eq_false_iff.mpr covered
      obtain ⟨noCover, goes, noHole, -⟩ := plain_cases plain
      rw [escaped_plain plain]
      refine ih.plain goes noCover fun back dollar => ?_
      rw [ne_eq, head?_escaped quote]
      exact noHole back dollar

end

/-- What opens at the start of a text and stands inside up to its last character is closed there. -/
theorem closing?_whole {c : Char} {u : Text} (opens : isOpener c = true) (inside : IsInside (opensAs c) u) :
    closing? (c :: (u ++ [(opensAs c).closer])) 0 = some (u.length + 1) := by
  rw [closing?_opener rfl opens, List.drop_one, List.tail_cons, inside, Option.map_some, Nat.zero_add]

/-! ### Blocks that hold a string -/

/-- Characters that are plain in double quotes may stand in front of what may stand there. -/
theorem isInside_run {s t : Text} (plain : ∀ c ∈ s, c ≠ '"' ∧ c ≠ '\\') (rest : IsInside (.quoted '"') t) :
    IsInside (.quoted '"') (s ++ t) := by
  induction s with
  | nil => exact rest
  | cons c s ih =>
    obtain ⟨⟨goes, noCover⟩, later⟩ := List.forall_mem_cons.mp plain
    exact (ih later).plain goes noCover fun back => absurd back (by decide)

/-- A JSON string ends at its own quote. -/
theorem isInside_flatMap_escapeChar (t : Text) : IsInside (.quoted '"') (t.flatMap Json.escapeChar) := by
  induction t with
  | nil => exact isInside_nil (by decide)
  | cons c t ih =>
    rw [List.flatMap_cons]
    rcases Json.escapeChar_cases c with ⟨letter, shape, -⟩ | ⟨shape, low⟩ | ⟨shape, goes, noCover, -⟩
    · rw [shape]
      exact ih.covered letter
    · have digits : ∀ n < 0x20, ∀ d ∈ hexText 4 n, d ≠ '"' ∧ d ≠ '\\' := by decide
      rw [shape]
      exact (isInside_run (digits c.toNat low) ih).covered 'u'
    · rw [shape]
      exact isInside_run (List.forall_mem_singleton.mpr ⟨goes, noCover⟩) ih

/-- A block that holds a JSON string and nothing else ends behind the string. -/
theorem closing?_block (t : Text) :
    closing? ('{' :: (Json.stringText t ++ ['}'])) 0 = some ((Json.stringText t).length + 1) := by
  have string : IsInside .block (Json.stringText t) :=
    IsInside.opener (c := '"') (by decide) (isInside_flatMap_escapeChar t) (by decide)
  exact closing?_whole (c := '{') (by decide) string

/-! ### Markup as a browser reads it -/

/-- The reader knows the references for the three characters that are escaped in markup. -/
structure ReadsEntities (refs : References) : Prop where
  /-- That for an ampersand. -/
  ampersand : refs.value? "amp".toList = some ['&']
  /-- That for a bracket that opens. -/
  less : refs.value? "lt".toList = some ['<']
  /-- That for a bracket that closes. -/
  greater : refs.value? "gt".toList = some ['>']

/-- How a character of markup is written: by a reference, or as it is. -/
theorem escapeEntity_cases (c : Char) :
    (∃ name ∈ ["amp".toList, "lt".toList, "gt".toList], escapeEntity c = References.written name ∧
        ∀ refs, ReadsEntities refs → refs.value? name = some [c]) ∨
      escapeEntity c = [c] ∧ c ≠ '&' ∧ c ≠ '<' ∧ c ≠ '>' := by
  by_cases ampersand : c = '&'
  · subst ampersand
    exact .inl ⟨_, by simp, rfl, fun _ knows => knows.ampersand⟩
  by_cases less : c = '<'
  · subst less
    exact .inl ⟨_, by simp, rfl, fun _ knows => knows.less⟩
  by_cases greater : c = '>'
  · subst greater
    exact .inl ⟨_, by simp, rfl, fun _ knows => knows.greater⟩
  · exact .inr ⟨by simp [escapeEntity, ampersand, less, greater], ampersand, less, greater⟩

/-- **Markup is read as the text** that it was written from. -/
theorem decode_flatMap_escapeEntity {refs : References} (knows : ReadsEntities refs) (t : Text) :
    refs.decode (t.flatMap escapeEntity) = t := by
  have names : ∀ name ∈ ["amp".toList, "lt".toList, "gt".toList], ∀ c ∈ name, isReferenceChar c = true := by
    decide
  induction t with
  | nil => rfl
  | cons c t ih =>
    rw [List.flatMap_cons]
    rcases escapeEntity_cases c with ⟨name, listed, shape, value⟩ | ⟨shape, noStart, -⟩
    · rw [shape, References.decode_written (names name listed) (value refs knows), ih]
      rfl
    · rw [shape, List.singleton_append, References.decode_cons (References.at?_of_ne noStart _), ih]

/-- No angle bracket is left. -/
theorem not_mem_flatMap_escapeEntity (t : Text) :
    '<' ∉ t.flatMap escapeEntity ∧ '>' ∉ t.flatMap escapeEntity := by
  have none : ∀ c, '<' ∉ escapeEntity c ∧ '>' ∉ escapeEntity c := by
    intro c
    rcases escapeEntity_cases c with ⟨name, listed, shape, -⟩ | ⟨shape, -, less, greater⟩
    · have all : ∀ name ∈ ["amp".toList, "lt".toList, "gt".toList],
          '<' ∉ References.written name ∧ '>' ∉ References.written name := by decide
      rw [shape]
      exact all name listed
    · simp [shape, Ne.symm less, Ne.symm greater]
  simp only [List.mem_flatMap, not_exists, not_and]
  exact ⟨fun c _ => (none c).1, fun c _ => (none c).2⟩

/-! ### Every place -/

/-- **Escaped texts stay inside and mean the text.** In a string, the quote behind the text closes the string,
and undoing the escapes gives the text. In markup inside code the text stands as it is and has neither braces
nor angle brackets, or it is one block that closes at its last character and holds a JSON string of the text.
In markup for a browser it has no angle brackets, and reading the references gives the text. -/
theorem escapeFor_staysInside (t : Text) :
    (∀ (q : Char) (html : Bool), isQuote q = true →
      let written := escapeFor t .string [q] html
      closing? (q :: (written ++ [q])) 0 = some (written.length + 1) ∧ readEscapes? q written = some t) ∧
    (∀ quote : Text,
      let written := escapeFor t .markup quote false
      (written = t ∧ '{' ∉ t ∧ '}' ∉ t ∧ '<' ∉ t ∧ '>' ∉ t) ∨
        ∃ string, written = '{' :: (string ++ ['}']) ∧ closing? written 0 = some (string.length + 1) ∧
          Json.read? string = some (.str (String.ofList t))) ∧
    ∀ quote : Text,
      let written := escapeFor t .markup quote true
      '<' ∉ written ∧ '>' ∉ written ∧ ∀ refs, ReadsEntities refs → refs.decode written = t := by
  refine ⟨fun q html quote => ?_, fun quote => ?_, fun quote => ?_⟩
  · have shape : escapeFor t .string [q] html = escaped q t := escapeInString_eq quote t
    have closes := closing?_whole (isOpener_of_isQuote quote)
      (u := escaped q t) (by rw [opensAs_quote quote]; exact isInside_escaped quote t)
    rw [opensAs_quote quote] at closes
    rw [shape]
    exact ⟨closes, readEscapes?_escaped quote t⟩
  · unfold escapeFor
    dsimp only
    rw [if_neg Bool.false_ne_true]
    by_cases breaks : t.any breaksMarkup = true
    · rw [if_pos breaks]
      exact .inr ⟨Json.stringText t, rfl, closing?_block t, Json.read?_stringText t⟩
    · rw [if_neg breaks]
      have plain : ∀ c ∈ t, breaksMarkup c = false := by simpa using breaks
      have none : ∀ c, breaksMarkup c = true → c ∉ t := fun c is mem => by
        cases is.symm.trans (plain c mem)
      exact .inl ⟨rfl, none _ rfl, none _ rfl, none _ rfl, none _ rfl⟩
  · obtain ⟨less, greater⟩ := not_mem_flatMap_escapeEntity t
    exact ⟨less, greater, fun refs knows => decode_flatMap_escapeEntity knows t⟩

theorem readsEntities_common : ReadsEntities .common := ⟨rfl, rfl, rfl⟩

/-- A text that is full of what has a meaning where it is put. -/
def entangled : Text := "\x60$\x7ba\x7d\x60 \\ '<b>' &lt;".toList

/-- In back quotes, in markup inside code and in markup for a browser it stays inside and means the same. -/
theorem entangled_staysInside :
    isQuote backQuote = true ∧ ReadsEntities .common ∧
      closing? (backQuote :: ("\\\x60\\$\x7ba\x7d\\\x60 \\\\ '<b>' &lt;".toList ++ [backQuote])) 0 = some 24 ∧
      readEscapes? backQuote "\\\x60\\$\x7ba\x7d\\\x60 \\\\ '<b>' &lt;".toList = some entangled ∧
      closing? "\x7b\"\x60$\x7ba\x7d\x60 \\\\ '<b>' &lt;\"\x7d".toList 0 = some 23 ∧
      References.common.decode "\x60$\x7ba\x7d\x60 \\ '&lt;b&gt;' &amp;lt;".toList = entangled := by
  have quote : isQuote backQuote = true := by decide
  obtain ⟨inString, inCode, inPage⟩ := escapeFor_staysInside entangled
  have shape : escapeFor entangled .string [backQuote] false =
      "\\\x60\\$\x7ba\x7d\\\x60 \\\\ '<b>' &lt;".toList := by decide
  have page : escapeFor entangled .markup [] true =
      "\x60$\x7ba\x7d\x60 \\ '&lt;b&gt;' &amp;lt;".toList := by decide
  obtain ⟨closes, reads⟩ := inString backQuote false quote
  rw [shape] at closes reads
  refine ⟨quote, readsEntities_common, closes, reads, ?_, ?_⟩
  · rcases inCode [] with ⟨-, none, -⟩ | ⟨string, code, block, -⟩
    · exact absurd (by decide) none
    · have written : escapeFor entangled .markup [] false =
          "\x7b\"\x60$\x7ba\x7d\x60 \\\\ '<b>' &lt;\"\x7d".toList := by decide
      have length := congrArg List.length (written.symm.trans code)
      rw [written] at block
      rw [block]
      simp at length ⊢
      omega
  · have same := (inPage []).2.2 .common readsEntities_common
    rwa [page] at same

end Retouch.Patch
