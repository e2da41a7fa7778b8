/-!
# Computations that may fail

A computation of several steps has a result exactly if every step has one.
-/

namespace Retouch

variable {ε δ α β : Type}

/-- Two steps have a result exactly if the first one has, and the second one with it. -/
theorem bind_eq_ok {x : Except ε α} {f : α → Except ε β} {b : β} :
    x >>= f = .ok b ↔ ∃ a, x = .ok a ∧ f a = .ok b := by
  cases x with
  | error e => exact ⟨nofun, nofun⟩
  | ok a =>
    refine ⟨fun done => ⟨a, rfl, done⟩, ?_⟩
    rintro ⟨_, ⟨⟩, done⟩
    exact done

/-- What is made of a result has a result exactly if there is one. -/
theorem map_eq_ok {x : Except ε α} {f : α → β} {b : β} :
    x.map f = .ok b ↔ ∃ a, x = .ok a ∧ f a = b := by
  cases x <;> simp [Except.map]

/-- What is made of a result fails exactly if there is none. -/
theorem map_eq_error {x : Except ε α} {f : α → β} {e : ε} : x.map f = .error e ↔ x = .error e := by
  cases x <;> simp [Except.map]

/-- A fault told in other words leaves the results as they are. -/
theorem mapError_eq_ok {x : Except ε α} {f : ε → δ} {a : α} : x.mapError f = .ok a ↔ x = .ok a := by
  cases x with
  | error e => exact ⟨nofun, nofun⟩
  | ok a' => exact ⟨fun done => by cases done; rfl, fun done => by cases done; rfl⟩

theorem mapError_eq_error {x : Except ε α} {f : ε → δ} {d : δ} :
    x.mapError f = .error d ↔ ∃ e, x = .error e ∧ f e = d := by
  cases x with
  | error e =>
    constructor
    · intro failed
      cases failed
      exact ⟨e, rfl, rfl⟩
    · rintro ⟨_, ⟨⟩, rfl⟩
      rfl
  | ok a => exact ⟨nofun, by rintro ⟨e, ⟨⟩, -⟩⟩

/-- Two steps fail exactly if the first one does, or else the second one with the result of the first. -/
theorem bind_eq_error {x : Except ε α} {f : α → Except ε β} {e : ε} :
    x >>= f = .error e ↔ x = .error e ∨ ∃ a, x = .ok a ∧ f a = .error e := by
  cases x with
  | error e' =>
    constructor
    · intro failed
      cases failed
      exact Or.inl rfl
    · rintro (failed | ⟨a, ⟨⟩, -⟩)
      cases failed
      rfl
  | ok a =>
    refine ⟨fun failed => Or.inr ⟨a, rfl, failed⟩, ?_⟩
    rintro (⟨⟨⟩⟩ | ⟨_, ⟨⟩, failed⟩)
    exact failed

theorem exists_bind_eq_error {x : Except ε α} {f : α → Except ε β} :
    (∃ e, x >>= f = .error e) ↔ (∃ e, x = .error e) ∨ ∃ a, x = .ok a ∧ ∃ e, f a = .error e := by
  constructor
  · rintro ⟨e, failed⟩
    exact (bind_eq_error.mp failed).imp (⟨e, ·⟩) fun ⟨a, first, second⟩ => ⟨a, first, e, second⟩
  · rintro (⟨e, first⟩ | ⟨a, first, e, second⟩)
    · exact ⟨e, bind_eq_error.mpr (Or.inl first)⟩
    · exact ⟨e, bind_eq_error.mpr (Or.inr ⟨a, first, second⟩)⟩

end Retouch
