import Retouch.Proofs.Locate.Wording
import Retouch.Proofs.Markup.Html

/-!
# Tags found by a text

Of the text of an element, the search looks for a part: the first words, of which the last one may be cut
(`snippet?_abridges`). In a page of HTML whose text has these words, and that has them nowhere else, the
search finds a tag. It is the tag of the element that the text stands in just if every tag without a closing
tag that stands between them is right behind an identifier (`byText_element_iff`).
-/

namespace Retouch.Locate

open Retouch.Text Retouch.Markup

/-! ### The words that are looked for -/

/-- The same words up to the last one, which may be cut. -/
inductive Abridges : List Text → List Text → Prop
  /-- The last word. -/
  | last {p w ws} (some : p ≠ []) (begins : p <+: w) : Abridges [p] (w :: ws)
  /-- A word, and more of them. -/
  | next {w ps ws} (more : Abridges ps ws) : Abridges (w :: ps) (w :: ws)

namespace Abridges

variable {ps ws : List Text}

theorem ne_nil (abridges : Abridges ps ws) : ps ≠ [] := by
  cases abridges <;> exact List.cons_ne_nil _ _

theorem whole_ne_nil (abridges : Abridges ps ws) : ws ≠ [] := by
  cases abridges <;> exact List.cons_ne_nil _ _

theorem unbroken (abridges : Abridges ps ws) (whole : ∀ w ∈ ws, IsUnbroken w) : ∀ p ∈ ps, IsUnbroken p := by
  induction abridges with
  | last some begins =>
    obtain ⟨-, filled⟩ := whole _ (List.mem_cons_self ..)
    exact List.forall_mem_singleton.mpr ⟨some, fun c mem => filled c (begins.subset mem)⟩
  | next _ ih =>
    obtain ⟨here, later⟩ := List.forall_mem_cons.mp whole
    exact List.forall_mem_cons.mpr ⟨here, ih later⟩

/-- What spells words starts with what spells fewer of them. -/
theorem exists_spells (abridges : Abridges ps ws) (whole : ∀ w ∈ ws, IsUnbroken w) {s : Text}
    (spells : Spells ws s) : ∃ u, Spells ps u ∧ u <+: s := by
  induction abridges generalizing s with
  | @last p w ws some begins =>
    have unbroken : IsUnbroken p :=
      (Abridges.last some begins : Abridges [p] (w :: ws)).unbroken whole p (List.mem_cons_self ..)
    refine ⟨p, .last unbroken, ?_⟩
    cases spells with
    | last => exact begins
    | next => exact begins.trans (List.prefix_append ..)
  | next more ih =>
    cases spells with
    | last => cases more
    | next unbroken some blank others =>
      obtain ⟨u, spelled, le⟩ := ih (List.forall_mem_cons.mp whole).2 others
      refine ⟨_, .next unbroken some blank spelled, ?_⟩
      exact (List.prefix_append_right_inj _).mpr ((List.prefix_append_right_inj _).mpr le)

end Abridges

/-- The beginning of a text with something behind it is one of the first part, or goes beyond it. -/
theorem prefix_append_cases {s t u : Text} (le : u <+: s ++ t) :
    u <+: s ∨ ∃ v, u = s ++ v ∧ v <+: t := by
  obtain ⟨rest, shape⟩ := le
  obtain ⟨v, rfl, -⟩ | ⟨v, rfl, rest⟩ := List.append_eq_append_iff.mp shape
  · exact .inl (List.prefix_append ..)
  · exact .inr ⟨v, rfl, _, rest.symm⟩

/-- The beginning of words with single blanks between them, up to a character that is no blank. -/
theorem exists_abridges {ws : List Text} {q : Text} (whole : ∀ w ∈ ws, IsUnbroken w)
    (le : q <+: join [' '] ws) (last : ∃ c, q.getLast? = some c ∧ isBlank c = false) :
    ∃ ps, q = join [' '] ps ∧ Abridges ps ws := by
  induction ws generalizing q with
  | nil =>
    obtain ⟨c, last, -⟩ := last
    rw [List.prefix_nil.mp le] at last
    cases last
  | cons w ws ih =>
    have some : q ≠ [] := by
      rintro rfl
      obtain ⟨c, last, -⟩ := last
      cases last
    obtain rfl | more := eq_or_ne ws []
    · exact ⟨[q], rfl, .last some le⟩
    -- the beginning does not end with the blank between two words
    have filled : ∀ t : Text, q ≠ t ++ [' '] := by
      rintro t rfl
      obtain ⟨c, last, filled⟩ := last
      rw [List.getLast?_concat] at last
      cases last
      exact absurd filled (by decide)
    rw [join_cons more] at le
    obtain le | ⟨v, rfl, begins⟩ := prefix_append_cases le
    · obtain blank | le := List.prefix_concat_iff.mp le
      · exact absurd blank (filled w)
      · exact ⟨[q], rfl, .last some le⟩
    · have beyond : v ≠ [] := by
        rintro rfl
        exact filled w (List.append_nil _)
      rw [List.getLast?_append_of_ne_nil _ beyond] at last
      obtain ⟨ps, rfl, abridges⟩ := ih (List.forall_mem_cons.mp whole).2 begins last
      exact ⟨w :: ps, (join_cons abridges.ne_nil).symm, .next abridges⟩

theorem isUnbroken_words (t : Text) : ∀ w ∈ words t, IsUnbroken w := by
  obtain none | some := eq_or_ne (words t) []
  · rw [none]
    exact List.forall_mem_nil _
  · exact (spells_strip some).unbroken

theorem cutTo_prefix (n : Int) (t : Text) : cutTo n t <+: t := by
  unfold cutTo
  split <;> exact List.take_prefix _ _

/-- Unbroken pieces with single blanks between them are spelled. -/
theorem spells_join {ps : List Text} (some : ps ≠ []) (whole : ∀ p ∈ ps, IsUnbroken p) :
    Spells ps (join [' '] ps) := by
  induction ps with
  | nil => exact absurd rfl some
  | cons p ps ih =>
    obtain ⟨here, later⟩ := List.forall_mem_cons.mp whole
    obtain rfl | more := eq_or_ne ps []
    · exact .last here
    · rw [join_cons more, List.append_assoc]
      exact .next here (List.cons_ne_nil _ _) (by decide) (ih more later)

/-- **What is looked for** are the first words of a text, the last of them perhaps cut. The search for them
goes by the blanks between them. -/
theorem snippet?_abridges {text : String} {limits : SearchLimits} {snippet : Text}
    (looked : snippet? (some text) limits = some snippet) (some : snippet ≠ []) :
    Abridges (words snippet) (words text.toList) ∧ splitOn ' ' snippet = words snippet := by
  have whole := isUnbroken_words text.toList
  obtain ⟨q, le, rfl⟩ : ∃ q, q <+: join [' '] (words text.toList) ∧ snippet = strip q := by
    unfold snippet? at looked
    dsimp only at looked
    split at looked
    · cases looked
    · split at looked
      · cases looked
      · exact ⟨_, cutTo_prefix _ _, (Option.some.inj looked).symm⟩
  have first := List.head?_eq_some_head some
  have last := List.getLast?_eq_some_getLast some
  -- there are no blanks in front of the first word
  obtain ⟨before, behind, shape, blank, -⟩ := exists_strip q
  obtain rfl : before = [] := by
    obtain _ | ⟨c, before⟩ := before
    · rfl
    rw [shape] at le
    have worded : words text.toList ≠ [] := fun none => by
      rw [none] at le
      cases List.prefix_nil.mp le
    obtain ⟨d, head, filled⟩ := (spells_join worded whole).exists_head
    obtain ⟨rest, joined⟩ := le
    rw [← joined] at head
    cases head
    cases (blank c (List.mem_cons_self ..)).symm.trans filled
  have start : strip q <+: join [' '] (words text.toList) := by
    refine List.IsPrefix.trans ?_ le
    rw [List.nil_append] at shape
    exact ⟨behind, shape.symm⟩
  obtain ⟨ps, joined, abridges⟩ := exists_abridges whole start ⟨_, last, getLast?_strip q _ last⟩
  have pieces := abridges.unbroken whole
  have spells := spells_join abridges.ne_nil pieces
  rw [joined, spells.words_eq]
  refine ⟨abridges, splitOn_join abridges.ne_nil fun p mem blank => ?_⟩
  exact absurd ((pieces p mem).2 ' ' blank) (by decide)

/-! ### Where it is found -/

variable {source snippet : Text}

/-- Where a span of words starts, the words are found. -/
theorem exists_matchWords? {ws : List Text} {skip j : Nat} {t : Text} {span : Nat × Nat}
    (here : source.drop j = t) (mem : span ∈ wordSpansFrom ws skip j t) :
    ∃ n, matchWords? ws (source.drop span.1) = some n := by
  fun_induction wordSpansFrom ws skip j t with
  | case1 j =>
    obtain ⟨n, found, rfl⟩ := List.mem_map.mp mem
    exact ⟨n, by rw [here]; exact Option.mem_toList.mp found⟩
  | case2 => cases mem
  | case3 _ _ _ _ ih => exact ih (drop_behind here) mem
  | case4 j c rest n found ih =>
    obtain rfl | mem := List.mem_cons.mp mem
    · exact ⟨n, by rw [here]; exact found⟩
    · exact ih (drop_behind here) mem
  | case5 _ _ _ _ ih => exact ih (drop_behind here) mem

/-- If the words are found somewhere, there is a span. -/
theorem wordSpansFrom_ne_nil {ws : List Text} {t : Text} {d n : Nat} (j : Nat)
    (found : matchWords? ws (t.drop d) = some n) (within : d ≤ t.length) : wordSpansFrom ws 0 j t ≠ [] := by
  induction t generalizing j d with
  | nil =>
    rw [List.drop_nil] at found
    simp [wordSpansFrom, found]
  | cons c rest ih =>
    rw [wordSpansFrom]
    cases here : matchWords? ws (c :: rest) with
    | some => exact List.cons_ne_nil _ _
    | none =>
      obtain _ | d := d
      · cases here.symm.trans found
      · exact ih (j + 1) found (Nat.le_of_succ_le_succ within)

/-- The words stand in the source only where a span starts between two offsets. -/
def OnlyWithin (source : Text) (ws : List Text) (start stop : Nat) : Prop :=
  ∀ i u, Spells ws u → StandsAt source i u → start ≤ i ∧ i ≤ stop

/-- The places of words that stand only in a text that has them: they lie in the text, and there is one. -/
theorem snippetPlaces_within {t : Text} {start : Nat} (stands : StandsAt source start t)
    (pieces : splitOn ' ' snippet = words snippet) (abridges : Abridges (words snippet) (words t))
    (only : OnlyWithin source (words snippet) start (start + t.length)) :
    snippetPlaces source snippet ≠ [] ∧
      ∀ i ∈ snippetPlaces source snippet, start ≤ i ∧ i ≤ start + t.length := by
  have whole := isUnbroken_words t
  have matches? := fun {u : Text} {n : Nat} =>
    matchWords?_eq_some_iff (t := u) (n := n) abridges.ne_nil (abridges.unbroken whole)
  unfold snippetPlaces
  rw [pieces]
  constructor
  · -- behind the blanks in front of the text stand its words
    obtain ⟨u, spells, begins⟩ := abridges.exists_spells whole (spells_strip abridges.whole_ne_nil)
    obtain ⟨lead, trail, shape, -, -⟩ := exists_strip t
    rw [shape] at stands
    have here := stands.right.left
    have found := (matches? (u := source.drop (start + lead.length))).mpr ⟨u, spells, begins.trans here, rfl⟩
    refine List.map_eq_nil_iff.not.mpr (wordSpansFrom_ne_nil 0 found (Nat.le_of_not_lt fun past => ?_))
    rw [StandsAt, List.drop_eq_nil_of_le (Nat.le_of_lt past)] at here
    rw [List.prefix_nil.mp here] at begins
    exact spells.ne_nil (List.prefix_nil.mp begins)
  · intro i mem
    obtain ⟨span, listed, rfl⟩ := List.mem_map.mp mem
    obtain ⟨n, found⟩ := exists_matchWords? (List.drop_zero (l := source)) listed
    obtain ⟨u, spells, stands, -⟩ := matches?.mp found
    exact only span.1 u spells stands

/-- **The element that a text stands in is found** just if no tag without a closing tag stands between its
tag and the text, apart from those right behind an identifier: in a page of HTML, for a text whose words,
as far as they are looked for, stand nowhere else. The tags of the element and of the elements in between
are not right behind an identifier themselves. -/
theorem byText_element_iff {page before : Html} {tag : OpeningTag} {t : Text} {k : Nat} {hints : Hints}
    {limits : SearchLimits} (has : page.HasText tag before t k)
    (seen : ∀ j ∈ k :: before.elementOffsets (k + tag.text.length), isHidden page.render j = false)
    (asked : ∃ text, hints.text? = some text ∧ words text.toList = words t)
    (looked : snippet? hints.text? limits = some snippet) (worded : snippet ≠ [])
    (only : OnlyWithin page.render (words snippet) (k + tag.text.length + before.render.length)
      (k + tag.text.length + before.render.length + t.length)) :
    byText page.render hints limits = some (tag.placedAt k) ↔
      ∀ j ∈ before.voidOffsets (k + tag.text.length), isHidden page.render j = true := by
  obtain ⟨text, given, same⟩ := asked
  rw [given] at looked
  have stands := has.standsAt.1.right.right
  obtain ⟨abridges, pieces⟩ := snippet?_abridges looked worded
  rw [same] at abridges
  obtain ⟨found, within⟩ := snippetPlaces_within stands pieces abridges only
  obtain ⟨i, more, places⟩ := List.exists_cons_of_ne_nil found
  obtain ⟨after, le⟩ := within i (by rw [places]; exact List.mem_cons_self ..)
  -- the walk from the first place ends at some tag, so no other place is tried
  obtain ⟨around, walk, iff⟩ := Html.enclosingTag?_text has seen after le
  rw [← iff, byText, given, looked]
  dsimp only
  rw [places, List.findSome?_cons, walk, Option.some.injEq]

/-- Where words stand is decided by the search for them. -/
theorem onlyWithin_of_matchWords? {start stop : Nat} (worded : words snippet ≠ [])
    (found : ∀ i < source.length, (matchWords? (words snippet) (source.drop i)).isSome = true →
      start ≤ i ∧ i ≤ stop) : OnlyWithin source (words snippet) start stop := by
  intro i u spells stands
  by_cases within : i < source.length
  · refine found i within (Option.isSome_iff_exists.mpr ⟨u.length, ?_⟩)
    exact (matchWords?_eq_some_iff worded (isUnbroken_words snippet)).mpr ⟨u, spells, stands, rfl⟩
  · rw [StandsAt, List.drop_eq_nil_of_le (Nat.le_of_not_lt within)] at stands
    exact absurd (List.prefix_nil.mp stands) spells.ne_nil

/-- The tag of a paragraph. -/
def paragraph : OpeningTag where
  inside := ['p']
  named := ⟨'p', rfl, by decide⟩
  closes := by decide
  plain := by decide
  noSlash := nofun

/-- The tag of a line break. -/
def lineBreak : OpeningTag where
  inside := ['b', 'r']
  named := ⟨'b', rfl, by decide⟩
  closes := by decide
  plain := by decide
  noSlash := nofun

/-- The tag of a picture, its address without quotes. -/
def picture : OpeningTag where
  inside := "img src=a.png".toList
  named := ⟨'i', rfl, by decide⟩
  closes := by decide
  plain := by decide
  noSlash := by
    unfold EndsApart
    decide

/-- The first line of a greeting, and its line break. -/
def firstLine : Html :=
  .text "Hello".toList (by decide) (.void lineBreak (by decide +kernel) .nothing)

/-- A picture, and the greeting in a paragraph. -/
def greeting : Html :=
  .void picture (by decide +kernel) <|
    .element paragraph (by decide +kernel) (firstLine.append (.text "world again".toList (by decide) .nothing))
      .nothing

/-- The line break stands right behind a word, and the picture in front of the paragraph: the paragraph is
found by the second line of the greeting. -/
theorem greeting_found :
    greeting.render = "<img src=a.png><p>Hello<br>world again</p>".toList ∧
      greeting.HasText paragraph firstLine "world again".toList 15 ∧
      (∀ j ∈ 15 :: firstLine.elementOffsets 18, isHidden greeting.render j = false) ∧
      OnlyWithin greeting.render (words "world again".toList) 27 38 ∧
      byText greeting.render { text? := some "world again" } {} = some ⟨15, 17, ['p']⟩ := by
  have has : greeting.HasText paragraph firstLine "world again".toList 15 :=
    ⟨_, _, .pastVoid .here⟩
  have seen : ∀ j ∈ 15 :: firstLine.elementOffsets 18, isHidden greeting.render j = false := by
    decide +kernel
  have looked : snippet? (some "world again") {} = some "world again".toList := by decide +kernel
  have only : OnlyWithin greeting.render (words "world again".toList) 27 38 :=
    onlyWithin_of_matchWords? (by decide +kernel) (by decide +kernel)
  have found : byText greeting.render { text? := some "world again" } {} = some (paragraph.placedAt 15) ↔ _ :=
    byText_element_iff has seen ⟨_, rfl, rfl⟩ looked (by decide) only
  exact ⟨by decide +kernel, has, seen, only, found.mpr (by decide +kernel)⟩

/-- A paragraph that starts with a line break. -/
def broken : Html :=
  .element paragraph (by decide +kernel)
    (.append (.void lineBreak (by decide +kernel) .nothing) (.text "Hello world".toList (by decide) .nothing))
    .nothing

/-- The line break is found by the text behind it, and not the paragraph around both. -/
theorem broken_found :
    broken.render = "<p><br>Hello world</p>".toList ∧
      broken.HasText paragraph (.void lineBreak (by decide +kernel) .nothing) "Hello world".toList 0 ∧
      OnlyWithin broken.render (words "Hello world".toList) 7 18 ∧
      byText broken.render { text? := some "Hello world" } {} = some (lineBreak.placedAt 3) ∧
      lineBreak.placedAt 3 ≠ paragraph.placedAt 0 := by
  have only : OnlyWithin broken.render (words "Hello world".toList) 7 18 :=
    onlyWithin_of_matchWords? (by decide +kernel) (by decide +kernel)
  exact ⟨by decide +kernel, ⟨_, _, .here⟩, only, by decide +kernel, by decide +kernel⟩

end Retouch.Locate
