import Retouch.Backend.Answer
import Retouch.Host.State

/-!
# Links to a backend

A local link calls the backend directly; once it is closed it refuses every request. A scripted link
gives the answers of a script, one request after the other, and then delivers nothing more. Whatever a
host sends can be read, so a local link never meets a fault of the backend.
-/

namespace Retouch

/-- A link to a backend in the same process. -/
structure LocalLink (σ : Type) where
  /-- The backend. -/
  backend : Backend σ
  /-- The link is closed. -/
  isClosed : Bool := false

instance {σ : Type} [Storage σ] : Link (LocalLink σ) where
  send l v :=
    if l.isClosed then (l, .error "Connection is closed")
    else
      let (backend, answer) := l.backend.handle v
      ({ l with backend }, .ok (match answer with
        | .ok responses => responses.map Response.toJson
        | .error _ => []))

/-- A link with prepared answers. -/
structure ScriptedLink where
  /-- The answers to come. -/
  answers : List (Except String (List Json))

instance : Link ScriptedLink where
  send l _ :=
    match l.answers with
    | [] => (l, .ok [])
    | answer :: rest => (⟨rest⟩, answer)

/-- A link of one of two kinds. -/
instance {α β : Type} [Link α] [Link β] : Link (α ⊕ β) where
  send l v :=
    match l with
    | .inl l =>
      let (l, answer) := Link.send l v
      (.inl l, answer)
    | .inr l =>
      let (l, answer) := Link.send l v
      (.inr l, answer)

end Retouch
