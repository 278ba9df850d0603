import Transcoding.Conductor.Provider
import Transcoding.Registry
import Transcoding.Service.Body
import Transcoding.Service.Route
import Transcoding.Status
import Transcoding.Timestamp

/-!
The service: it answers requests over HTTP by asking the provider that a request names. Every
failure becomes an answer with a status of its kind; a defect stays one.
-/

namespace Transcoding

/-- What makes a provider from the settings. -/
abbrev ProviderFactory := Settings → Except Failure Provider

/-- How many arrays and objects may lie in each other: what the stack leaves room for when a body is
read, and when details are told. -/
structure Nesting where
  read : Nat
  told : Nat
  deriving DecidableEq, Repr

structure Service where
  registry : Registry ProviderFactory
  settings : Settings
  nesting : Nesting

namespace Service

structure Request where
  method : String
  target : String
  body : Body := .empty
  deriving DecidableEq, Repr

structure Response where
  status : Nat
  /-- Nothing stands for an empty body. -/
  body : Json
  deriving Repr

def version : String := "0.1.0"

def initialRegistry : Registry ProviderFactory :=
  .single Conductor.providerName Conductor.factory (by decide)

/-- The status of an answer that reports a failure. -/
def statusOf : Failure.Kind → Nat
  | .invalidConfig => 400
  | .providerNotFound => 404
  | .presetNotFound => 422
  | .transport => 502
  | .capacity => 503
  | .general => 500

def reportFailure (f : Failure) : Response where
  status := statusOf f.kind
  body := .object [("error", .string f.kind.name), ("detail", .string f.message)]

def Place.json : Place → Json
  | .item index => .int index
  | place => .string place.text

def Issue.json (i : Issue) : Json :=
  .object [("loc", .array (i.place.map Place.json)), ("type", .string i.kind.name)]

def reportIssues (issues : List Issue) : Response where
  status := 422
  body := .object [("detail", .array (issues.map fun i =>
    Issue.json { i with place := .member "body" :: i.place }))]

def reportProblem (status : Nat) (detail : String) : Response where
  status := status
  body := .object [("detail", .string detail)]

/-- The names of the providers, as they are listed. -/
def namesJson (s : Service) : Json :=
  .array (s.registry.names.map .string)

def provider (s : Service) (name : String) : Except Failure Provider := do
  (← s.registry.get name) s.settings

/-- Asks the provider of a name, if there is one. -/
def ask (s : Service) (name : String) (asked : Provider → Call Response) : Call Response := do
  asked (← Call.ofExcept .failure (s.provider name))

/-- What is asked of a provider to create a job. -/
def create (r : TranscodeRequest) (p : Provider) : Call Response := do
  return ⟨201, (← p.transcode r.source r.presets).json Timestamp.shortText⟩

/-- What is asked of a provider for the status of a job. -/
def query (jobId : String) (p : Provider) : Call Response := do
  return ⟨200, (← p.jobStatus jobId).json Timestamp.shortText⟩

/-- The health of a provider, with the reason if it is not healthy. -/
def healthJson (name : String) (reason : Option String) : Json :=
  .object [("provider", .string name), ("healthy", .bool reason.isNone),
    ("message", .string (reason.getD ""))]

/-- What is asked of a provider for its health: a lack of capacity is told in the answer. -/
def examine (name : String) (p : Provider) : Call Response := do
  try
    p.healthcheck
    return ⟨200, healthJson name none⟩
  catch
    | .failure (.capacity required found) =>
      return ⟨503, healthJson name (some (Failure.capacity required found).message)⟩
    | problem => throw problem

/-- Tells issues, unless something keeps them from being told. -/
def reject (fault? : Option Validation.DetailFault) (issues : List Issue) : Call Response :=
  match fault? with
  | some fault => throw (.defect (.detail fault))
  | none => return reportIssues issues

def createJob (s : Service) (b : Body) : Call Response :=
  match b.content s.nesting.read with
  | .absent => reject none [⟨[], .missing⟩]
  | .invalid => reject none [⟨[], .jsonInvalid⟩]
  | .unreadable _ => return reportProblem 400 "There was an error parsing the body"
  | .foreign => reject (Validation.bytesFault? b.bytes) [⟨[], .modelAttributesType⟩]
  | .json value =>
    match TranscodeRequest.check value with
    | .valid r => s.ask r.provider (create r)
    | .invalid issues => reject (Validation.detailFault? s.nesting.told value issues) issues

def serve (s : Service) (b : Body) : Endpoint → Call Response
  | .description => return ⟨200, .null⟩
  | .health => return ⟨200, .object [("status", .string "ok"), ("version", .string version),
      ("providers", s.namesJson)]⟩
  | .createJob => s.createJob b
  | .jobStatus name jobId => s.ask (String.ofList name) (query (String.ofList jobId))
  | .listProviders => return ⟨200, .object [("providers", s.namesJson)]⟩
  | .providerHealth name => s.ask (String.ofList name) (examine (String.ofList name))

def respond (s : Service) (r : Request) (method : String) : Call Response :=
  match route method (pathOf r.target.toList) with
  | .found e => s.serve r.body e
  | .wrongMethod => return reportProblem 405 "Method Not Allowed"
  | .elsewhere => return ⟨307, .null⟩
  | .nowhere => return reportProblem 404 "Not Found"

/-- The answer to a request, or the defect that keeps it from having one. -/
def handle (s : Service) (r : Request) : ExceptT Defect (StateM Exchange) Response := fun e =>
  let method := String.ofList (Text.toUpper r.method.toList)
  match s.respond r method e with
  | (.ok response, e) =>
    (.ok (if method == "HEAD" then { response with body := .null } else response), e)
  | (.error (.failure f), e) => (.ok (reportFailure f), e)
  | (.error (.defect d), e) => (.error d, e)

end Service
end Transcoding
