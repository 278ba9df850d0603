import Transcoding.Text.Digit
import Transcoding.Text.Part
import Transcoding.Text.Utf8

/-!
From the target of a request to what it asks for, as the server `uvicorn` and the router of
`fastapi` below the service have it. Escapes are replaced once, before a path is taken apart, so an
escaped slash divides a path too. A path that only lacks or has a slash at its end leads to another
one; a path asked in a wrong way is told from one that is not there. What follows a question mark
counts for nothing. Not covered are targets that name a scheme and a host, a service below a path of
its own, and what the pages that describe the service say.
-/

namespace Transcoding.Service

/-- The bytes of a text in which escapes stand for bytes. -/
def unescapedBytes : List Char → List UInt8
  | '%' :: a :: b :: rest =>
    match Text.hexWorth? a, Text.hexWorth? b with
    | some x, some y => (x * 16 + y).toUInt8 :: unescapedBytes rest
    | _, _ => Text.utf8Bytes '%' ++ unescapedBytes (a :: b :: rest)
  | c :: rest => Text.utf8Bytes c ++ unescapedBytes rest
  | [] => []

def unescape (cs : List Char) : List Char :=
  Text.ofUtf8 (unescapedBytes cs)

/-- The path that a target asks for. -/
def pathOf (target : List Char) : List Char :=
  unescape (target.takeWhile (· != '?'))

inductive Endpoint
  | description
  | health
  | createJob
  | jobStatus (provider jobId : List Char)
  | listProviders
  | providerHealth (provider : List Char)
  deriving DecidableEq, Repr

/-- What is at a path given as its segments. -/
def endpoint? : List (List Char) → Option Endpoint
  | [segment] =>
    if ["openapi.json", "docs", "redoc"].any (·.toList == segment) then some .description
    else if segment = "health".toList then some .health
    else if segment = "jobs".toList then some .createJob
    else if segment = "providers".toList then some .listProviders
    else none
  | [first, second] =>
    if first = "docs".toList ∧ second = "oauth2-redirect".toList then some .description else none
  | [first, second, third] =>
    if second.isEmpty then none
    else if first = "jobs".toList ∧ third ≠ [] then some (.jobStatus second third)
    else if first = "providers".toList ∧ third = "health".toList then some (.providerHealth second)
    else none
  | _ => none

def Endpoint.methods : Endpoint → List String
  | .description => ["GET", "HEAD"]
  | .createJob => ["POST"]
  | _ => ["GET"]

/-- What is at a path; a line feed after a word at the end does not count. -/
def lookup? (path : List Char) : Option Endpoint :=
  match path with
  | '/' :: rest =>
    (endpoint? (rest.splitOn '/')).or
      (if rest.getLast? == some '\n' then endpoint? (rest.dropLast.splitOn '/') else none)
  | _ => none

inductive Route
  | found (e : Endpoint)
  | wrongMethod
  | elsewhere
  | nowhere
  deriving DecidableEq, Repr

/-- The path with the slashes at its end taken off, or with one if it has none. -/
def otherPath (path : List Char) : List Char :=
  if path.getLast? == some '/' then Text.dropEndWhile (· == '/') path else path ++ ['/']

def route (method : String) (path : List Char) : Route :=
  match lookup? path with
  | some e => if e.methods.contains method then .found e else .wrongMethod
  | none =>
    if path ≠ ['/'] ∧ (lookup? (otherPath path)).isSome then .elsewhere else .nowhere

end Transcoding.Service
