import Retouch.Backend.Journal
import Retouch.Backend.Resolution
import Retouch.Upload.Reassembly
import Retouch.Wire.Response

/-!
# The backend

The backend keeps the project: a storage with its source files, the journal of edits, and the uploads
that pieces are missing of. It tells what it has done by events, and deploys the preview where it
can.
-/

namespace Retouch

/-- What a backend works with. -/
structure BackendSettings where
  /-- The limits for finding an element. -/
  search : SearchLimits := {}
  /-- The limits for uploads. -/
  upload : Upload.Limits := {}
  /-- The endings of the files that are searched. -/
  endings : List String := Resolution.sourceEndings
  deriving Inhabited

/-- How the preview is deployed. -/
inductive Deployer where
  /-- It is not deployed. -/
  | absent
  /-- It is deployed without fail. -/
  | succeeds
  /-- Deploying it fails for a reason. -/
  | fails (reason : String)
  deriving DecidableEq, Repr, Inhabited

namespace Deployer

/-- The preview is deployed at all. -/
def isPresent : Deployer → Bool
  | .absent => false
  | _ => true

/-- Why deploying fails. -/
def fault? : Deployer → Option String
  | .fails reason => some reason
  | _ => none

end Deployer

/-- What a backend tells. -/
inductive BackendEvent where
  /-- Style changes are written to a file. -/
  | stylesPatched (path selector : String) (applied failed : List String)
  /-- A text is written to a file. -/
  | textPatched (path selector : String)
  /-- An upload is saved. -/
  | uploadCompleted (upload path : String)
  deriving DecidableEq, Repr

/-- Why a request goes unanswered. -/
inductive BackendFault where
  /-- A number is beyond its range. -/
  | number (f : Json.NumberFault)
  /-- The path of an upload's element is no text. -/
  | noPath
  /-- A hint for an upload's element is no text. -/
  | noText
  deriving DecidableEq

/-- A backend over a storage. -/
structure Backend (σ : Type) where
  /-- Where the project is kept. -/
  store : σ
  /-- What the backend works with. -/
  settings : BackendSettings := {}
  /-- How the preview is deployed. -/
  deployer : Deployer := .absent
  /-- The latest edits. -/
  journal : Journal := {}
  /-- The uploads that pieces are missing of. -/
  uploads : Upload.Uploads := []
  /-- The time in seconds. -/
  clock : Float := 0
  /-- How often the preview has been deployed, successfully or not. -/
  deploys : Nat := 0
  /-- What the backend has told, in order. -/
  events : List BackendEvent := []

namespace Backend

variable {σ : Type}

/-- The backend after it has told something. -/
def tell (b : Backend σ) (e : BackendEvent) : Backend σ := { b with events := b.events ++ [e] }

/-- The backend after deploying the preview. -/
def deploy (b : Backend σ) : Backend σ :=
  if b.deployer.isPresent then { b with deploys := b.deploys + 1 } else b

/-- The backend after deploying the preview unless that is to be skipped. -/
def deployUnless (b : Backend σ) (skips : Bool) : Backend σ := if skips then b else b.deploy

variable [Storage σ]

/-- Saves a file; the second part says why it was refused. -/
def save (b : Backend σ) (path : String) (contents : Text) (note : String) :
    Backend σ × Option String :=
  let (store, refusal) := Storage.save b.store path (.text contents) ("design mode: " ++ note)
  ({ b with store }, refusal.map fun reason =>
    if reason.isEmpty then "Failed to save " ++ path else reason)

/-- The file that holds an element. -/
def resolve (b : Backend σ) (path? : Option String) (position? : Option SourcePosition)
    (hints : Hints) : Except LocateError SourceFile :=
  Resolution.resolve (Storage.files b.store) b.settings.endings path? position? hints
    b.settings.search

end Backend

end Retouch
