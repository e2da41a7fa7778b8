import Retouch.Locate.Strategy
import Retouch.Proofs.Markup.Delimited

/-!
# What the strategies find

Whichever strategy finds the tag of an element, the tag was read from the source (`findTag?_read`):
its text stands there, from its opening to its closing bracket.
-/

namespace Retouch.Locate

open Retouch.Text Retouch.Markup

/-- A tag that is read from a source where it starts. -/
def IsRead (source : Text) (tag : Tag) : Prop := readTag? source tag.start = some tag

variable {source : Text} {hints : Hints} {limits : SearchLimits} {tag : Tag}

theorem isRead_of_readTag? {i : Nat} (read : readTag? source i = some tag) : IsRead source tag := by
  unfold IsRead
  rw [start_of_readTag? read]
  exact read

/-- Where a tag is read from, there is an angle bracket. -/
theorem getElem?_of_readTag? {i : Nat} (read : readTag? source i = some tag) :
    source[i]? = some '<' := by
  unfold readTag? at read
  split at read
  · rename_i c rest here
    rw [← Nat.add_zero i, ← List.getElem?_drop, here]
    rfl
  · cases read

theorem tagAtColumn?_read {first last : Nat} {column : Int}
    (found : tagAtColumn? source first last column = some tag) : IsRead source tag := by
  unfold tagAtColumn? at found
  obtain ⟨i, -, read⟩ := List.exists_of_findSome?_eq_some found
  split at read
  · exact isRead_of_readTag? read
  · cases read

theorem byLine_read (found : byLine source hints limits = some tag) : IsRead source tag := by
  unfold byLine at found
  split at found
  · cases found
  · split at found
    · cases found
    · split at found
      · cases found
      · dsimp only at found
        split at found
        · rename_i exactly
          cases found
          split at exactly
          · split at exactly
            · cases exactly
            · exact tagAtColumn?_read exactly
          · cases exactly
        · obtain ⟨i, -, read⟩ := List.exists_of_findSome?_eq_some found
          exact isRead_of_readTag? read

theorem tagContaining?_read {i : Nat} {lookback : Int}
    (found : tagContaining? source i lookback = some tag) : IsRead source tag := by
  unfold tagContaining? at found
  obtain ⟨k, -, read⟩ := List.exists_of_findSome?_eq_some found
  exact isRead_of_readTag? (Option.filter_eq_some_iff.mp read).1

theorem byId_read (found : byId source hints limits = some tag) : IsRead source tag := by
  unfold byId at found
  split at found
  · cases found
  · obtain ⟨i, -, read⟩ := List.exists_of_findSome?_eq_some found
    exact tagContaining?_read read

/-- The walk over angle brackets gives a tag that one of them opens. -/
theorem enclosingFrom_read {i depth : Nat} {brackets : List Nat}
    (found : enclosingFrom source i depth brackets = some tag) : IsRead source tag := by
  fun_induction enclosingFrom source i depth brackets
  case case1 => cases found
  case case2 ih | case3 ih | case4 ih | case6 ih | case8 ih => exact ih found
  case case5 read _ => cases found; exact isRead_of_readTag? read
  case case7 read _ _ => cases found; exact isRead_of_readTag? read

theorem byText_read (found : byText source hints limits = some tag) : IsRead source tag := by
  unfold byText at found
  split at found
  · cases found
  · obtain ⟨i, -, read⟩ := List.exists_of_findSome?_eq_some found
    exact enclosingFrom_read read

theorem classCandidates_read {classes : List Text}
    (candidate : (tag, classes) ∈ classCandidates source limits) : IsRead source tag := by
  unfold classCandidates at candidate
  obtain ⟨i, -, read⟩ := List.mem_filterMap.mp candidate
  obtain ⟨tag', found, read⟩ := Option.bind_eq_some_iff.mp read
  obtain ⟨a, -, read⟩ := Option.bind_eq_some_iff.mp read
  split at read
  · cases read
    exact tagContaining?_read found
  · cases read

theorem byClass_read (found : byClass source hints limits = some tag) : IsRead source tag := by
  unfold byClass at found
  split at found
  · cases found
  · obtain ⟨c, -, read⟩ := List.exists_of_findSome?_eq_some found
    obtain ⟨⟨tag', classes⟩, chosen, rfl⟩ := Option.map_eq_some_iff.mp read
    exact classCandidates_read (List.mem_of_find?_eq_some chosen)

/-- **Tags are read**: whichever strategy finds a tag, the tag was read from the source. -/
theorem findTag?_read {strategy : Strategy}
    (found : findTag? source hints limits = some (tag, strategy)) : IsRead source tag := by
  unfold findTag? at found
  obtain ⟨s, -, read⟩ := List.exists_of_findSome?_eq_some found
  obtain ⟨tag', read, eq⟩ := Option.map_eq_some_iff.mp read
  cases eq
  cases strategy with
  | lineNumber => exact byLine_read read
  | selectorId => exact byId_read read
  | textContent => exact byText_read read
  | classAttribute => exact byClass_read read

end Retouch.Locate
