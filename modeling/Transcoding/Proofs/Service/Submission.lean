import Transcoding.Proofs.Conductor.Factory
import Transcoding.Proofs.Conductor.Transcode
import Transcoding.Proofs.Registry
import Transcoding.Proofs.Service.Answer
import Transcoding.Proofs.Service.Body
import Transcoding.Proofs.Validation.Details

/-!
What becomes of a request for a transcoding. The first thing that is wrong decides the answer: the
body, the name of the provider, its settings, the presets, and last the exchange with the backend,
which is the only one that the backend gets to know of.
-/

namespace Transcoding.Service

open Conductor

/-- Whether all that is wrong with a body can be told: with each issue the value that it is about,
or the bytes of a body that is not read as JSON. -/
def Body.Tellable (b : Body) (n : Nesting) : Prop :=
  match b.content n.read with
  | .json value => ∀ issues, TranscodeRequest.check value = .invalid issues →
      ∀ i ∈ issues, ∀ part, i.subject? value = some part → part.Tellable n.told
  | .foreign => ∃ text, b.bytes = Text.toUtf8 text
  | _ => True

theorem handle_createJob (s : Service) (b : Body) (e : Exchange) :
    s.handle ⟨"POST", "/jobs", b⟩ e = settle (s.createJob b e) :=
  have found : route "POST" (pathOf "/jobs".toList) = .found .createJob := by decide +kernel
  handle_of_route (by decide +kernel) (by decide) found e

theorem createJob_of_describes {s : Service} {b : Body} {r : TranscodeRequest}
    (h : b.Describes s.nesting.read r) : s.createJob b = s.ask r.provider (create r) := by
  obtain ⟨value, hcontent, hcheck⟩ := Body.describes_iff.1 h
  simp only [createJob, hcontent, hcheck]

/-- A service that has all settings of the Conductor. -/
def exampleService : Service where
  registry := initialRegistry
  settings := { conductor := {
    host := "https://conductor.example.com"
    userLogin := "myuser"
    apiKey := "secret-key"
    authExpires := 30
    awsAccessKeyId := "access"
    awsSecretAccessKey := "secret"
    destination := "s3://out" } }
  nesting := ⟨60, 30⟩

/-- A body that asks for two presets, of which the second cannot be had. -/
def exampleBody : Body :=
  .ofText "application/json" ("\x7b\"source\": \"s3://in/film.mov\", " ++
    "\"provider\": \"elementalconductor\", \"presets\": [" ++
    "\x7b\"name\": \"720p\", \"provider_mapping\": \x7b\"elementalconductor\": \"17\"\x7d\x7d, " ++
    "\x7b\"name\": \"web\"\x7d]\x7d")

def exampleRequest : TranscodeRequest where
  source := "s3://in/film.mov"
  provider := "elementalconductor"
  presets := [⟨"720p", {}, [("elementalconductor", "17")]⟩, ⟨"web", {}, []⟩]

theorem exampleBody_describes : exampleBody.Describes 60 exampleRequest :=
  Body.request?_eq_some_iff.1 (by decide +kernel)

end Transcoding.Service
