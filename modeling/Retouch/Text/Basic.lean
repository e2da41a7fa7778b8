/-!
# Texts

Source files, class lists and style declarations are handled as texts: lists of characters, so that
every offset and every length counts characters. This module holds what the rest of the library
does with texts in general: blanks and words, searching, cutting and joining.

A blank is any white space of Unicode together with the four information separators U+001C to
U+001F. Words are what blanks separate.

A file may end its lines by a line feed, a return, or both; a text that is read from a file has line
feeds only. Where a text is shown line by line, lines end at any of the breaks that Unicode names,
and every line keeps its break.

Large classes of characters are given by the closed ranges of code points they consist of, listed in
ascending order. Membership stops at the first range that starts beyond the code asked for.
-/

namespace Retouch

/-- A text: its characters in order. -/
abbrev Text := List Char

namespace Text

/-! ### Blanks -/

/-- The codes of the blanks. -/
def blankCodes : List Nat := [
  0x09, 0x0A, 0x0B, 0x0C, 0x0D, 0x1C, 0x1D, 0x1E, 0x1F, 0x20, 0x85, 0xA0, 0x1680,
  0x2000, 0x2001, 0x2002, 0x2003, 0x2004, 0x2005, 0x2006, 0x2007, 0x2008, 0x2009, 0x200A,
  0x2028, 0x2029, 0x202F, 0x205F, 0x3000]

/-- White space of any script, the information separators included. -/
def isBlank (c : Char) : Bool := blankCodes.contains c.toNat

/-- The text without the blanks before it. -/
def stripStart (t : Text) : Text := t.dropWhile isBlank

/-- The text without the blanks after it. -/
def stripEnd (t : Text) : Text := (t.reverse.dropWhile isBlank).reverse

/-- The text without the blanks around it. -/
def strip (t : Text) : Text := stripEnd (stripStart t)

/-- The text is empty or all blank. -/
def isBlankText (t : Text) : Bool := t.all isBlank

/-- The words of a text. The accumulator holds the word being read, last character first. -/
def wordsFrom : Text → Text → List Text
  | word, [] => if word.isEmpty then [] else [word.reverse]
  | word, c :: rest =>
    if isBlank c then
      if word.isEmpty then wordsFrom [] rest else word.reverse :: wordsFrom [] rest
    else wordsFrom (c :: word) rest

/-- The words of a text in order: its longest pieces without a blank. -/
def words (t : Text) : List Text := wordsFrom [] t

/-- Every run of blanks replaced by `filler`. The flag says whether a blank came just before. -/
def squeezeFrom (filler : Char) : Bool → Text → Text
  | _, [] => []
  | afterBlank, c :: rest =>
    if isBlank c then
      if afterBlank then squeezeFrom filler true rest else filler :: squeezeFrom filler true rest
    else c :: squeezeFrom filler false rest

/-- Every run of blanks replaced by one `filler`. -/
def squeezeBlanks (filler : Char) (t : Text) : Text := squeezeFrom filler false t

/-! ### Searching -/

/-- `t` starts with `head`. -/
def startsWith (t head : Text) : Bool := head.isPrefixOf t

/-- `t` ends with `tail`. -/
def endsWith (t tail : Text) : Bool := tail.isSuffixOf t

/-- What follows `head` at the start of a text. -/
def dropHead? : Text → Text → Option Text
  | [], t => some t
  | _ :: _, [] => none
  | h :: head, c :: t => if h == c then dropHead? head t else none

/-- The offset of the first place where `needle` stands. -/
def find? (needle : Text) : Text → Option Nat
  | [] => if needle.isEmpty then some 0 else none
  | c :: rest => if startsWith (c :: rest) needle then some 0 else (find? needle rest).map (· + 1)

/-- `needle` stands somewhere in the text. -/
def has (t needle : Text) : Bool := (find? needle t).isSome

/-- The offsets of all places where `needle` stands, overlapping ones included, shifted by `at`. -/
def placesFrom (needle : Text) : Nat → Text → List Nat
  | i, [] => if needle.isEmpty then [i] else []
  | i, c :: rest =>
    if startsWith (c :: rest) needle then i :: placesFrom needle (i + 1) rest
    else placesFrom needle (i + 1) rest

/-- The offsets at which a character satisfies `p`, counted from `i`. -/
def offsetsFrom (p : Char → Bool) : Nat → Text → List Nat
  | _, [] => []
  | i, c :: rest => if p c then i :: offsetsFrom p (i + 1) rest else offsetsFrom p (i + 1) rest

/-- The offsets of the character `c`. -/
def offsetsOf (c : Char) (t : Text) : List Nat := offsetsFrom (· == c) 0 t

/-! ### Cutting and joining -/

/-- The characters from offset `start` up to `stop`, which is left out. -/
def slice (t : Text) (start stop : Nat) : Text := (t.take stop).drop start

/-- The text with the characters from `start` up to `stop` replaced. -/
def splice (t : Text) (start stop : Nat) (new : Text) : Text := t.take start ++ new ++ t.drop stop

/-- What stands before the replaced characters stays. -/
theorem take_splice {t : Text} {start : Nat} (stop : Nat) (new : Text) (h : start ≤ t.length) :
    (splice t start stop new).take start = t.take start := by
  have hl : (t.take start).length = start := List.length_take_of_le h
  rw [splice, List.append_assoc, List.take_append_of_le_length (Nat.le_of_eq hl.symm),
    List.take_take, Nat.min_self]

/-- What stands behind the replaced characters stays, right behind the new ones. -/
theorem drop_splice {t : Text} {start : Nat} (stop : Nat) (new : Text) (h : start ≤ t.length) :
    (splice t start stop new).drop (start + new.length) = t.drop stop := by
  have hl : (t.take start ++ new).length = start + new.length := by
    rw [List.length_append, List.length_take_of_le h]
  rw [splice, ← hl, List.drop_left]

/-- The pieces between the occurrences of a separator character; the accumulator holds the piece
being read, last character first. -/
def splitFrom (sep : Char) : Text → Text → List Text
  | piece, [] => [piece.reverse]
  | piece, c :: rest =>
    if c == sep then piece.reverse :: splitFrom sep [] rest else splitFrom sep (c :: piece) rest

/-- The pieces between the occurrences of a separator character, empty ones included. -/
def splitOn (sep : Char) (t : Text) : List Text := splitFrom sep [] t

/-- Every occurrence of a text that is not empty replaced, from the left and without overlap; `skip`
counts the characters still to be passed over. -/
def replaceFrom (needle new : Text) : Nat → Text → Text
  | _, [] => []
  | skip + 1, _ :: rest => replaceFrom needle new skip rest
  | 0, c :: rest =>
    if startsWith (c :: rest) needle then new ++ replaceFrom needle new (needle.length - 1) rest
    else c :: replaceFrom needle new 0 rest

/-- Every occurrence of a text replaced; an empty one stands before every character and at the end. -/
def replace (needle new t : Text) : Text :=
  if needle.isEmpty then new ++ t.flatMap fun c => c :: new else replaceFrom needle new 0 t

/-- To replace a single character is to replace it wherever it stands. -/
theorem replace_singleton (c : Char) (new t : Text) :
    replace [c] new t = t.flatMap fun d => if c == d then new else [d] := by
  have h : ∀ t : Text, replaceFrom [c] new 0 t = t.flatMap fun d => if c == d then new else [d] := by
    intro t
    induction t with
    | nil => rfl
    | cons d rest ih =>
      simp only [replaceFrom, startsWith, List.isPrefixOf, Bool.and_true, List.length_singleton,
        Nat.sub_self, ih, List.flatMap_cons]
      cases c == d <;> rfl
  simpa [replace] using h t

/-- The text without the line feed at its end. -/
def dropFinalBreak (t : Text) : Text := if t.getLast? == some '\n' then t.dropLast else t

/-- The pieces joined with `sep` between neighbours. -/
def join (sep : Text) : List Text → Text
  | [] => []
  | [piece] => piece
  | piece :: rest => piece ++ sep ++ join sep rest

/-! ### Lines -/

/-- The text with a line feed for every return, with or without a line feed after it. -/
def unifyBreaks : Text → Text
  | [] => []
  | '\r' :: '\n' :: rest => '\n' :: unifyBreaks rest
  | c :: rest => (if c == '\r' then '\n' else c) :: unifyBreaks rest

/-- The codes of the characters that end a line. -/
def breakCodes : List Nat :=
  [0x0A, 0x0B, 0x0C, 0x0D, 0x1C, 0x1D, 0x1E, 0x85, 0x2028, 0x2029]

/-- A character that ends a line. -/
def isBreak (c : Char) : Bool := breakCodes.contains c.toNat

/-- The lines of a text, each with its break; the accumulator holds the line being read, last
character first. -/
def linesFrom : Text → Text → List Text
  | line, [] => if line.isEmpty then [] else [line.reverse]
  | line, '\r' :: '\n' :: rest => ('\n' :: '\r' :: line).reverse :: linesFrom [] rest
  | line, c :: rest =>
    if isBreak c then (c :: line).reverse :: linesFrom [] rest else linesFrom (c :: line) rest

/-- The lines of a text, each with its break. -/
def lines (t : Text) : List Text := linesFrom [] t

/-! ### Classes of characters -/

/-- `inRanges rs n`: the code `n` lies in one of the ascending closed ranges `rs`. -/
def inRanges : List (Nat × Nat) → Nat → Bool
  | [], _ => false
  | (lo, hi) :: rest, n => lo ≤ n && (n ≤ hi || inRanges rest n)

/-! ### The same on strings -/

/-- A string without the blanks around it. -/
def stripString (s : String) : String := String.ofList (strip s.toList)

/-- A string cut after `n` characters. -/
def cutString (s : String) (n : Nat) : String := String.ofList (s.toList.take n)

/-- Strings joined with `sep` between neighbours. -/
def joinStrings (sep : String) (parts : List String) : String := sep.intercalate parts

end Text

end Retouch
