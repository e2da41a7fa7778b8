import Retouch.Host.Command
import Retouch.Proofs.Host.Answering

/-!
# The ids of a history

Ids are numbers written in base sixteen, and no two numbers are written alike (`idText_injective`).
A host gives each number once, and only edits that it was asked for come into its history; so in every
state that a host reaches, the edits of the history carry numbers that were given out, no two the same
one, and the boundary of the history lies within it (`Reachable.numbered`).
-/

namespace Retouch.Host

variable {κ : Type}

/-! ### Numbers are told apart by their figures -/

/-- The value of a figure in base sixteen. -/
def figureValue (c : Char) : Nat := if c.isDigit then c.toNat - 48 else c.toNat - 87

/-- The number that is written with figures of base sixteen. -/
def numberOf (figures : List Char) : Nat := figures.foldl (fun v c => 16 * v + figureValue c) 0

theorem figureValue_digitChar : ∀ d < 16, figureValue (Nat.digitChar d) = d := by decide

theorem numberOf_concat (figures : List Char) (c : Char) :
    numberOf (figures ++ [c]) = 16 * numberOf figures + figureValue c := by
  simp [numberOf]

theorem numberOf_toDigits (n : Nat) : numberOf (Nat.toDigits 16 n) = n := by
  induction n using Nat.strongRecOn with
  | ind n ih =>
    by_cases small : n < 16
    · rw [Nat.toDigits_of_lt_base small, ← List.nil_append [n.digitChar], numberOf_concat,
        figureValue_digitChar n small]
      exact Nat.zero_add n
    · rw [Nat.toDigits_of_base_le (by decide) (by omega), numberOf_concat, ih _ (by omega),
        figureValue_digitChar _ (Nat.mod_lt _ (by decide))]
      omega

/-- Zeros in front do not count. -/
theorem numberOf_zeros (k : Nat) (figures : List Char) :
    numberOf (List.replicate k '0' ++ figures) = numberOf figures := by
  induction k with
  | zero => rfl
  | succ k ih => exact ih

/-- **Ids are told apart**: no two numbers have the same id. -/
theorem idText_injective {m n : Nat} (same : idText m = idText n) : m = n := by
  unfold idText at same
  have figures := congrArg String.toList same
  simp only [String.toList_append, String.toList_ofList] at figures
  have numbers := congrArg numberOf (List.append_cancel_right figures)
  rwa [numberOf_zeros, numberOf_zeros, numberOf_toDigits, numberOf_toDigits] at numbers

/-- No id is empty. -/
theorem idText_isEmpty (n : Nat) : (idText n).isEmpty = false := by
  refine Bool.eq_false_iff.mpr fun empty => ?_
  have noFigures := congrArg String.toList (String.isEmpty_iff.mp empty)
  simp [idText] at noFigures

theorem filled_idText (n : Nat) : filled? (idText n) = some (idText n) := by
  unfold filled?
  rw [idText_isEmpty]
  rfl

/-! ### Histories of numbered edits -/

/-- Every edit of a history has one of the first `given` ids, no two of them the same one, and the
boundary lies within the history. -/
structure Numbered (history : History) (given : Nat) : Prop where
  /-- The boundary lies within the history. -/
  applied_le : history.applied ≤ history.entries.length
  /-- The ids were given out. -/
  ids : ∀ e ∈ history.entries, ∃ n ≤ given, e.id = idText n
  /-- No id was given out twice. -/
  distinct : (history.entries.map (·.id)).Nodup

namespace Numbered

variable {history : History} {given : Nat}

theorem empty (given : Nat) : Numbered {} given :=
  ⟨Nat.le_refl 0, fun _ none => (nomatch none), List.nodup_nil⟩

theorem mono {given' : Nat} (numbered : Numbered history given) (le : given ≤ given') :
    Numbered history given' := by
  refine ⟨numbered.applied_le, fun e he => ?_, numbered.distinct⟩
  obtain ⟨n, hn, id⟩ := numbered.ids e he
  exact ⟨n, by omega, id⟩

/-- The next id is not in the history. -/
theorem fresh (numbered : Numbered history given) {e : HistoryEntry} (he : e ∈ history.entries) :
    e.id ≠ idText (given + 1) := by
  intro same
  obtain ⟨n, hn, id⟩ := numbered.ids e he
  have := idText_injective (id.symm.trans same)
  omega

theorem push (numbered : Numbered history given) {e : HistoryEntry} (id : e.id = idText (given + 1)) :
    Numbered (history.push e) (given + 1) := by
  refine ⟨Nat.le_refl _, fun e' he' => ?_, ?_⟩
  · obtain old | new := List.mem_append.mp he'
    · exact (numbered.mono (Nat.le_succ given)).ids e' (List.mem_of_mem_take old)
    · rw [List.mem_singleton.mp new]
      exact ⟨given + 1, Nat.le_refl _, id⟩
  · have kept : ((history.entries.take history.applied).map (·.id)).Nodup :=
      numbered.distinct.sublist ((List.take_sublist _ _).map _)
    show ((history.entries.take history.applied ++ [e]).map (·.id)).Nodup
    rw [List.map_append, List.nodup_append]
    refine ⟨kept, by simp, fun i hi j hj same => ?_⟩
    obtain ⟨e', he', rfl⟩ := List.mem_map.mp hi
    exact numbered.fresh (List.mem_of_mem_take he') (same.trans ((List.mem_singleton.mp hj).trans id))

theorem stepBack (numbered : Numbered history given) : Numbered history.stepBack given :=
  ⟨Nat.le_trans (Nat.sub_le _ 1) numbered.applied_le, numbered.ids, numbered.distinct⟩

theorem stepForward (numbered : Numbered history given) : Numbered history.stepForward given := by
  unfold History.stepForward
  split
  · rename_i canRedo
    exact ⟨of_decide_eq_true canRedo, numbered.ids, numbered.distinct⟩
  · exact numbered

theorem discard (numbered : Numbered history given) (id : String) :
    Numbered (history.discard id) given := by
  unfold History.discard
  split
  · exact numbered
  · rename_i i found
    have within : i < history.entries.length := (List.findIdx?_eq_some_iff_getElem.mp found).1
    have le := numbered.applied_le
    refine ⟨?_, fun e he => numbered.ids e (List.mem_of_mem_eraseIdx he),
      numbered.distinct.sublist ((List.eraseIdx_sublist _ _).map _)⟩
    show (if i < history.applied then history.applied - 1 else history.applied) ≤
      (history.entries.eraseIdx i).length
    rw [List.length_eraseIdx_of_lt within]
    split <;> omega

/-- An edit of the history is the one that its id leads to. -/
theorem find?_of_mem (numbered : Numbered history given) {e : HistoryEntry}
    (he : e ∈ history.entries) : history.find? e.id = some e := by
  unfold History.find?
  obtain ⟨older, newer, split⟩ := List.append_of_mem he
  have distinct := numbered.distinct
  rw [split, List.map_append, List.nodup_append] at distinct
  rw [split, List.find?_append, List.find?_eq_none.mpr]
  · simp
  · intro e' he' same
    exact distinct.2.2 e'.id (List.mem_map_of_mem he') e.id (by simp) (eq_of_beq same)

theorem unstep (numbered : Numbered history given) (id : String) (step : EditStep) :
    Numbered (unstep history id step) given := by
  match step with
  | .apply => exact numbered.discard id
  | .move .undo => exact numbered.stepForward
  | .move .redo => exact numbered.stepBack

end Numbered

/-! ### Hosts with a numbered history -/

/-- The history of a host is numbered with the ids that the host gave out. -/
def IsNumbered (h : Host κ) : Prop := Numbered h.history h.idsGiven

theorem rollBack_numbered {h : Host κ} (id : String) (numbered : h.IsNumbered) :
    (h.rollBack id).IsNumbered := by
  unfold rollBack
  split
  · exact numbered
  · dsimp only
    split
    · exact numbered
    · exact numbered.unstep id _

/-- Answers keep a history numbered. -/
theorem kept_isNumbered : Kept (IsNumbered (κ := κ)) where
  same same numbered := by
    unfold IsNumbered
    rw [same.history, same.idsGiven]
    exact numbered
  settle _ numbered := numbered
  rollBack id numbered := rollBack_numbered id numbered

section Commands

variable [Link κ] {h : Host κ}

/-- An edit is asked for with a numbered history. -/
theorem perform_numbered {history : History} (shown : HistoryEntry) (step : EditStep)
    (numbered : Numbered history h.idsGiven) : (h.perform shown step history).1.IsNumbered := by
  refine kept_isNumbered.perform ?_
  unfold present
  dsimp only
  split <;> exact numbered

/-- The edit that setting values on an element asks for. -/
def nextEntry (h : Host κ) (element : Snapshot) (values : List (String × String)) (usesInline : Bool) :
    HistoryEntry :=
  entryFor element (h.committed.styles element.selector) (idText (h.idsGiven + 1)) values usesInline

/-- The host that has given out the next id, and forgets what went wrong before. -/
def counted (h : Host κ) : Host κ := { h with idsGiven := h.idsGiven + 1, syncError? := none }

/-- Values set on the selected element are asked for as one edit. -/
theorem applyStyles_eq {element : Snapshot} (selected : h.selected? = some element)
    {values : List (String × String)} (asks : values ≠ []) (usesInline : Bool) :
    h.applyStyles values usesInline = h.counted.perform (h.nextEntry element values usesInline) .apply
      (h.history.push (h.nextEntry element values usesInline)) := by
  unfold applyStyles
  rw [selected]
  dsimp only
  rw [if_neg (by simpa using asks)]
  rfl

theorem applyStyles_numbered (values : List (String × String)) (usesInline : Bool)
    (numbered : h.IsNumbered) : (h.applyStyles values usesInline).1.IsNumbered := by
  unfold applyStyles
  split
  · exact numbered
  · split
    · exact numbered
    · exact perform_numbered _ _ (numbered.push rfl)

theorem undo_numbered (numbered : h.IsNumbered) : h.undo.1.IsNumbered := by
  unfold undo
  split
  · exact numbered
  · exact perform_numbered _ _ numbered.stepBack

theorem redo_numbered (numbered : h.IsNumbered) : h.redo.1.IsNumbered := by
  unfold redo
  split
  · exact numbered
  · exact perform_numbered _ _ numbered.stepForward

theorem sendText_numbered (selector oldText newText : String) (position? : Option SourcePosition)
    (numbered : h.IsNumbered) : (h.sendText selector oldText newText position?).1.IsNumbered := by
  unfold sendText
  dsimp only
  split
  all_goals
    rename_i h' eq
    have sent := congrArg Prod.fst eq ▸ kept_isNumbered.send _ numbered
  · exact sent
  · exact sent
  · split <;> exact sent

omit [Link κ] in
theorem clearPreview_numbered (numbered : h.IsNumbered) : h.clearPreview.IsNumbered := by
  unfold clearPreview
  split <;> exact numbered

omit [Link κ] in
theorem toggle_numbered (numbered : h.IsNumbered) : h.toggle.IsNumbered := by
  unfold toggle
  split <;> exact numbered

omit [Link κ] in
theorem welcome_numbered (numbered : h.IsNumbered) : h.welcome.IsNumbered := by
  have shown : ∀ (selectors : List String) (g : Host κ), g.IsNumbered →
      (selectors.foldl (fun h s => if (h.effective s).isEmpty then h else h.display s) g).IsNumbered := by
    intro selectors
    induction selectors with
    | nil => exact fun g hg => hg
    | cons s rest ih =>
      intro g hg
      refine ih _ ?_
      dsimp only
      split <;> exact hg
  unfold welcome
  split
  · exact numbered
  · exact shown _ _ numbered

theorem receive_numbered (v : Json) (numbered : h.IsNumbered) : (h.receive v).1.IsNumbered := by
  unfold receive
  split
  · exact numbered
  · exact numbered
  · exact numbered
  · exact numbered
  · rename_i m _
    cases m with
    | ready => exact welcome_numbered numbered
    | textEdit => exact sendText_numbered _ _ _ _ numbered
    | textEdited => exact sendText_numbered _ _ _ _ numbered
    | _ => exact numbered

theorem sendPieces_numbered (chunks : List ImageChunk) (numbered : h.IsNumbered) :
    (h.sendPieces chunks).1.IsNumbered := by
  induction chunks generalizing h with
  | nil => exact numbered
  | cons chunk rest ih =>
    have sent := kept_isNumbered.send (.image chunk) numbered
    unfold sendPieces
    split
    · rename_i h' eq
      rw [eq] at sent
      exact ih sent
    · exact sent

theorem of_sendPieces {chunks : List ImageChunk} {sent : Host κ × Sending}
    (eq : h.sendPieces chunks = sent) (numbered : h.IsNumbered) : sent.1.IsNumbered :=
  eq ▸ sendPieces_numbered chunks numbered

theorem uploadImage_numbered (data : List UInt8) (fileName mimeType : String) (isBackground : Bool)
    (pieceSize : Int) (numbered : h.IsNumbered) :
    (h.uploadImage data fileName mimeType isBackground pieceSize).1.IsNumbered := by
  unfold uploadImage
  split
  · exact numbered
  · split
    · exact numbered
    · dsimp only
      have given : Numbered h.history (h.idsGiven + 1) := numbered.mono (Nat.le_succ _)
      split
      all_goals
        rename_i eq
        exact of_sendPieces eq given

theorem goToCode_numbered (numbered : h.IsNumbered) : h.goToCode.1.IsNumbered := by
  unfold goToCode
  split
  · exact numbered
  · split
    · dsimp only
      split <;> exact numbered
    · exact kept_isNumbered.send _ numbered

theorem press_numbered (s : Shortcut) (numbered : h.IsNumbered) : (h.press s).1.IsNumbered := by
  unfold press
  dsimp only
  split
  · exact toggle_numbered numbered
  · split
    · exact numbered
    · split
      · split
        · exact redo_numbered numbered
        · exact undo_numbered numbered
      · split
        · exact clearPreview_numbered numbered
        · exact numbered

/-- Whatever a host is asked to do, its history stays numbered. -/
theorem run_numbered (c : Command) (numbered : h.IsNumbered) : (h.run c).1.IsNumbered := by
  cases c with
  | toggle => exact toggle_numbered numbered
  | previewStyle property value =>
    show (h.previewStyle property value).IsNumbered
    unfold previewStyle
    split <;> exact numbered
  | clearPreview => exact clearPreview_numbered numbered
  | applyStyles values usesInline => exact applyStyles_numbered values usesInline numbered
  | undo => exact undo_numbered numbered
  | redo => exact redo_numbered numbered
  | clearSelection => exact clearPreview_numbered numbered
  | updateText text =>
    show (h.updateText text).IsNumbered
    unfold updateText
    split <;> exact numbered
  | uploadImage data fileName mimeType isBackground size =>
    exact uploadImage_numbered data fileName mimeType isBackground size numbered
  | refreshPreview => exact kept_isNumbered.send _ numbered
  | goToCode => exact goToCode_numbered numbered
  | hear message => exact kept_isNumbered.hear message numbered
  | receive message => exact receive_numbered message numbered
  | press shortcut => exact press_numbered shortcut numbered
  | _ => exact numbered

end Commands

/-! ### The states of a host -/

/-- The states that a host reaches: it starts out with nothing done, and then does what it is asked
to, in any order. Meanwhile its link may become another one, or be lost; and what it told the frame
is read. -/
inductive Reachable [Link κ] : Host κ → Prop where
  /-- A new host. -/
  | start (link? : Option κ) (tag : String) (opensCode : Bool) :
      Reachable { link?, tag, opensCode : Host κ }
  /-- A command was done. -/
  | run {h : Host κ} (c : Command) (reached : Reachable h) : Reachable (h.run c).1
  /-- The link has changed. -/
  | relinked {h : Host κ} (link? : Option κ) (reached : Reachable h) : Reachable { h with link? }
  /-- The frame has been told. -/
  | read {h : Host κ} (reached : Reachable h) : Reachable { h with told := [] }

/-- **Histories are numbered**: in every state that a host reaches, the edits of its history have ids
that it gave out, each its own, and the boundary lies within the history. -/
theorem Reachable.numbered [Link κ] {h : Host κ} (reached : Reachable h) : h.IsNumbered := by
  induction reached with
  | start => exact Numbered.empty 0
  | run c _ ih => exact run_numbered c ih
  | relinked _ _ ih => exact ih
  | read _ ih => exact ih

end Retouch.Host
