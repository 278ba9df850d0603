import Transcoding.Problem

/-!
Exchanges with a backend over HTTP: requests go out one at a time, and each brings the next reply.
The requests sent are kept, also those of a call that fails.
-/

namespace Transcoding

inductive Method
  | get
  | post
  deriving DecidableEq, Repr

def Method.name : Method → String
  | .get => "GET"
  | .post => "POST"

/-- What proves to the backend who sends a request, and until when that counts. -/
structure Signature where
  user : String
  expires : String
  key : String
  deriving DecidableEq, Repr

structure Request where
  method : Method
  url : String
  signature : Signature
  body : Option String := none
  deriving DecidableEq, Repr

/-- The headers of a request that matter to the backend. -/
def Request.headers (r : Request) : List (String × String) := [
  ("Accept", "application/xml"),
  ("Content-Type", "application/xml"),
  ("X-Auth-User", r.signature.user),
  ("X-Auth-Expires", r.signature.expires),
  ("X-Auth-Key", r.signature.key)]

structure Answer where
  status : Int
  body : List UInt8
  deriving DecidableEq, Repr

namespace Answer

def text (a : Answer) : String :=
  String.ofList (Text.ofUtf8 a.body)

/-- Whether the status says that the request failed. -/
def isError (a : Answer) : Bool :=
  400 ≤ a.status && a.status ≤ 599

end Answer

inductive Reply
  | answer (a : Answer)
  | outage (o : Outage)
  deriving DecidableEq, Repr

/-- A backend at some time: the replies that it is going to give, and the requests that it got, the
last first. -/
structure Exchange where
  /-- The time in whole seconds. -/
  now : Int
  replies : List Reply
  sent : List Request := []
  deriving DecidableEq, Repr

/-- A call that exchanges requests for replies. -/
abbrev Call := ExceptT Problem (StateM Exchange)

namespace Call

def fail {α : Type} (f : Failure) : Call α :=
  throw (.failure f)

def ofExcept {ε α : Type} (problem : ε → Problem) : Except ε α → Call α
  | .ok a => pure a
  | .error e => throw (problem e)

end Call

/-- What a backend without further replies does. -/
def Outage.silence : Outage := ⟨.connect, "no response scripted"⟩

def Exchange.send (r : Request) : Call Reply := do
  let e ← get
  match e.replies with
  | [] =>
    set { e with sent := r :: e.sent }
    return .outage .silence
  | reply :: rest =>
    set { e with replies := rest, sent := r :: e.sent }
    return reply

end Transcoding
