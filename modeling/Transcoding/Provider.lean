import Transcoding.Exchange
import Transcoding.Preset
import Transcoding.Status

/-!
Providers: what can be asked of whoever transcodes. An echo is a provider without a backend, to try
callers with: it says of every job what it was told of it, or fails in one way whatever it is asked.
-/

namespace Transcoding

structure Provider where
  /-- Starts a job that encodes a source with some presets. -/
  transcode : String → List Preset → Call JobStatus
  /-- Asks for the status of a job. -/
  jobStatus : String → Call JobStatus
  /-- Fails if no work can be taken. -/
  healthcheck : Call Unit

namespace Echo

/-- Fails if there is a failure to fail with. -/
def guarded {α : Type} (failure : Option Failure) (result : α) : Call α :=
  match failure with
  | some f => Call.fail f
  | none => pure result

def provider (name : String) (failure : Option Failure) : Provider where
  transcode source presets := guarded failure {
    provider := name
    jobId := source
    status := .queued
    report := [("presets", .texts (presets.map (·.name)))] }
  jobStatus jobId := guarded failure { provider := name, jobId := jobId }
  healthcheck := guarded failure ()

end Echo
end Transcoding
