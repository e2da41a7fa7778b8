import Retouch.Host.State
import Retouch.Http.Exchange

/-!
# Links to a backend elsewhere

A remote link sends each request to the service of a backend and delivers the messages of the reply.
It fails if the request cannot be written, if no reply comes, if the reply tells of a failure or leads
elsewhere, or if there is no list of messages in it. What is not an object among the messages is passed
over.
-/

namespace Retouch

/-- What comes of sending a request to a service. -/
inductive RemoteReply where
  /-- A reply. -/
  | arrived (status : Nat) (body : Text)
  /-- None in time. -/
  | timedOut (reason : String)
  /-- None at all. -/
  | unreachable (reason : String)
  deriving DecidableEq, Repr

/-- Why a service gave no messages. -/
inductive RemoteFault where
  /-- The message cannot be written: it holds a number that is not finite. -/
  | notFinite
  /-- No reply came in time. -/
  | timedOut (reason : String)
  /-- No reply came at all. -/
  | unreachable (reason : String)
  /-- The reply tells of a failure. -/
  | refused (status : Nat) (reason : String)
  /-- The reply has no list of messages. -/
  | noMessages
  deriving DecidableEq, Repr

namespace RemoteFault

/-- The fault in words. -/
def message : RemoteFault → String
  | .notFinite => "Out of range float values are not JSON compliant"
  | .timedOut reason => "Backend timed out: " ++ reason
  | .unreachable reason => "Backend unreachable: " ++ reason
  | .refused status reason => "Backend returned " ++ toString status ++ ": " ++ reason
  | .noMessages => "Backend response has no messages list"

end RemoteFault

namespace RemoteReply

/-- Why a reply tells of a failure: the error that its value names, or else the body. -/
def reason (value : Json) (body : Text) : String :=
  let named := Members.get value.members "error"
  if named.truthy then named.text else String.ofList body

/-- The messages that a reply delivers. -/
def messages : RemoteReply → Except RemoteFault (List Json)
  | .timedOut reason => .error (.timedOut reason)
  | .unreachable reason => .error (.unreachable reason)
  | .arrived status body =>
    let value := (Http.readBody? body).getD (.obj [])
    if status ≥ 300 then .error (.refused status (reason value body))
    else
      match Members.get value.members "messages" with
      | .arr items => .ok (items.filter Json.isObject)
      | _ => .error .noMessages

end RemoteReply

/-- A link to a service, with what will come of the requests. -/
structure RemoteLink where
  /-- What will come of the next requests, in order. -/
  replies : List RemoteReply

namespace RemoteLink

/-- A message as a request to the service; none if it cannot be written. -/
def request? (v : Json) : Option Http.Request :=
  if v.isFinite then
    some { method := "POST", target := Http.messagesPath, body := (Json.write v).toList }
  else none

/-- A message sent: the messages of the reply. What cannot be written is not sent. -/
def send (l : RemoteLink) (v : Json) : RemoteLink × Except RemoteFault (List Json) :=
  match request? v, l.replies with
  | none, _ => (l, .error .notFinite)
  | some _, [] => (l, .ok [])
  | some _, reply :: rest => (⟨rest⟩, reply.messages)

instance : Link RemoteLink where
  send l v :=
    let (l, answer) := l.send v
    (l, answer.mapError RemoteFault.message)

end RemoteLink

end Retouch
