import Retouch.Backend.Answer
import Retouch.Http.Exchange
import Retouch.Project.Directory

/-!
# The backend as a service

A backend takes messages at one address and tells its state at another. Pages of any origin may use
both. Beside them stands a folder of fixed files, in which there are none. A path that fits only
after pairs of slashes are merged is sent on to the merged one.
-/

namespace Retouch.Http

/-! ### Addresses -/

/-- What a path leads to. -/
inductive Resource where
  /-- The place for messages. -/
  | messages
  /-- The state of the service. -/
  | health
  /-- A fixed file. -/
  | asset
  deriving DecidableEq, Repr

namespace Resource

/-- The resource at a path. -/
def at? (path : Text) : Option Resource :=
  if path == messagesPath.toList then some .messages
  else if path == healthPath.toList then some .health
  else
    match Text.dropHead? "/static/".toList path with
    | some (c :: _) => if c == '/' then none else some .asset
    | _ => none

/-- The methods that a resource takes. -/
def methods : Resource → List String
  | .messages => ["POST", "OPTIONS"]
  | .health | .asset => ["GET", "HEAD", "OPTIONS"]

/-- A method is among those that a resource takes. -/
def takes (method : String) (r : Resource) : Bool := r.methods.contains method

end Resource

/-- Where a request leads to. -/
inductive Route where
  /-- To a resource that takes its method. -/
  | found (r : Resource)
  /-- To the path with its slashes merged. -/
  | moved
  /-- To a resource that does not take its method. -/
  | wrongMethod
  /-- To nothing. -/
  | unknown
  deriving DecidableEq, Repr

/-- Where a method and a path lead to. -/
def route (method : String) (path : Text) : Route :=
  let here? := Resource.at? path
  let merged? := Resource.at? (mergeSlashes path)
  match here?.filter (·.takes method), merged?.filter (·.takes method) with
  | some r, _ => .found r
  | none, some _ => .moved
  | none, none => if here?.isSome || merged?.isSome then .wrongMethod else .unknown

/-! ### Replies -/

variable {σ : Type} [Storage σ]

/-- What is replied to a body that is no message. -/
def notAMessage : Json := .obj [("error", .str "a JSON object with a type is required")]

/-- A message for the backend: an object with a type. -/
def message? (v : Json) : Option Json :=
  match v with
  | .obj members => if Table.contains members "type" then some v else none
  | _ => none

/-- The reply of a service that has failed. -/
def failed : Reply := ⟨500, true, none⟩

/-- Takes in a message and replies with the answers to it. -/
def replyToMessage (b : Backend σ) (r : Request) : Backend σ × Reply :=
  if r.isTooDeep then (b, failed)
  else
    match r.json?.bind message? with
    | none => (b, ⟨400, true, some notAMessage⟩)
    | some v =>
      let (b, answer) := b.handle v
      (b, match answer with
        | .ok responses =>
          ⟨200, true, some (.obj [("messages", .arr (responses.map Response.toJson))])⟩
        | .error _ => failed)

/-- The state of the service. -/
def stateOf (b : Backend σ) : Json :=
  .obj [("status", .str "ok"), ("pendingUploads", .nat b.uploads.length),
    ("journalEntries", .nat b.journal.records.length)]

/-- Replies to a request. -/
def serve (b : Backend σ) (r : Request) : Backend σ × Reply :=
  let method := String.ofList (Text.upper r.method.toList)
  match route method (pathOf r.target.toList) with
  | .unknown => (b, ⟨404, false, none⟩)
  | .wrongMethod => (b, ⟨405, false, none⟩)
  | .moved => (b, ⟨308, false, none⟩)
  | .found .messages =>
    if method == "OPTIONS" then (b, ⟨204, true, none⟩) else replyToMessage b r
  | .found .health => (b, ⟨200, true, if method == "GET" then some (stateOf b) else none⟩)
  | .found .asset => (b, ⟨if method == "OPTIONS" then 200 else 404, false, none⟩)

/-! ### Who may read a reply -/

/-- The headers that let pages of other origins use the service, without their common beginning. -/
def sharingHeaders : List (String × String) :=
  [("Origin", "*"), ("Headers", "Content-Type"), ("Methods", "GET, POST, OPTIONS")]

/-! ### Projects to serve -/

/-- A small project to try the service on. -/
def demoSource : String :=
  "export default function App() \x7b\n" ++
  "  return (\n" ++
  "    <main className=\"container mx-auto p-8\">\n" ++
  "      <h1 className=\"text-2xl text-gray-900\">Welcome home</h1>\n" ++
  "      <img className=\"w-full\" src=\"/hero.png\" alt=\"Hero\" />\n" ++
  "    </main>\n" ++
  "  );\n" ++
  "\x7d\n"

/-- A backend for a small project in memory. -/
def demo : Backend Memory := { store := { sources := [("src/App.tsx", demoSource.toList)] } }

/-- A backend for a project on disk. -/
def ofDirectory (d : Directory) : Backend Directory :=
  { store := { d with endings := Resolution.sourceEndings } }

end Retouch.Http
