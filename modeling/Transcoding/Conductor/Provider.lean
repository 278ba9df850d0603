import Transcoding.Conductor.Client
import Transcoding.Conductor.State
import Transcoding.Conductor.Submission
import Transcoding.Provider
import Transcoding.Settings

/-!
The provider that has a Conductor do its work, and how it is made from the settings: not at all
while any setting of the Conductor is missing.
-/

namespace Transcoding.Conductor

namespace Client

def storage (c : Client) : Storage :=
  ⟨c.destination, c.accessKeyId, c.secretAccessKey⟩

def buildJob (c : Client) (source : String) (presets : List Preset) : Except Failure Job :=
  Job.ofPresets c.storage source presets

end Client

def JobReport.accepted (r : JobReport) : JobStatus :=
  { provider := providerName, jobId := r.id, status := .queued }

/-- A detail that is mentioned only if there is something to it. -/
def detailOf (name : String) : Option Timestamp → List (String × Detail)
  | some t => [(name, .moment t)]
  | none => []

def JobReport.details (r : JobReport) : List (String × Detail) :=
  [("status", .text r.state),
    ("pct_complete", .text (String.ofList (Numeral.ofInt r.percentComplete))),
    ("submitted", match r.submitted with
      | some t => .moment t
      | none => .absent)] ++
  detailOf "start_time" r.started ++
  detailOf "complete_time" r.completed ++
  detailOf "errored_time" r.errored ++
  (if r.errorMessages.isEmpty then [] else [("error_messages", .texts r.errorMessages)])

def JobReport.jobStatus (r : JobReport) (asked : String) : JobStatus where
  provider := providerName
  jobId := if r.id.isEmpty then asked else r.id
  status := translateStatus r.state
  report := r.details

namespace Client

def transcode (c : Client) (source : String) (presets : List Preset) : Call JobStatus := do
  let job ← Call.ofExcept .failure (c.buildJob source presets)
  return (← c.postJob job).accepted

def jobStatus (c : Client) (jobId : String) : Call JobStatus := do
  return (← c.getJob jobId).jobStatus jobId

def healthcheck (c : Client) : Call Unit := do
  let nodes ← c.getNodes
  let config ← c.getCloudConfig
  let active := nodes.countP Node.isActiveServer
  if (active : Int) < config.minNodes then Call.fail (.capacity config.minNodes active)

def provider (c : Client) : Provider where
  transcode := c.transcode
  jobStatus := c.jobStatus
  healthcheck := c.healthcheck

end Client

def Client.ofSettings (s : Settings) : Except Failure Client :=
  match s.conductor.missing with
  | [] => .ok (Client.tidy {
      host := s.conductor.host
      userLogin := s.conductor.userLogin
      apiKey := s.conductor.apiKey
      authExpires := s.conductor.authExpires
      accessKeyId := s.conductor.awsAccessKeyId
      secretAccessKey := s.conductor.awsSecretAccessKey
      destination := s.conductor.destination
      timeout := s.httpTimeout })
  | missing => .error (.missingSettings missing)

def factory (s : Settings) : Except Failure Provider :=
  (Client.ofSettings s).map Client.provider

end Transcoding.Conductor
