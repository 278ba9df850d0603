import Transcoding.Json
import Transcoding.Timestamp

/-!
The status of a transcoding job in words that do not depend on the provider, and what a provider
reports of it besides; both also as JSON, with timestamps in a notation of choice.
-/

namespace Transcoding

inductive Status
  | queued
  | started
  | finished
  | canceled
  | failed
  | unknown
  deriving DecidableEq, Repr

def Status.name : Status → String
  | .queued => "queued"
  | .started => "started"
  | .finished => "finished"
  | .canceled => "canceled"
  | .failed => "failed"
  | .unknown => "unknown"

/-- One value of a provider's own report. -/
inductive Detail
  | absent
  | text (s : String)
  | texts (items : List String)
  | moment (t : Timestamp)
  deriving DecidableEq, Repr

structure JobStatus where
  provider : String
  /-- The identifier of the job at the provider. -/
  jobId : String
  status : Status := .unknown
  /-- What the provider says of the job in its own terms, by name. -/
  report : List (String × Detail) := []
  deriving DecidableEq, Repr

def Detail.json (write : Timestamp → String) : Detail → Json
  | .absent => .null
  | .text s => .string s
  | .texts items => .array (items.map .string)
  | .moment t => .string (write t)

def JobStatus.json (write : Timestamp → String) (s : JobStatus) : Json :=
  .object [
    ("provider_name", .string s.provider),
    ("provider_job_id", .string s.jobId),
    ("status", .string s.status.name),
    ("provider_status", .object (s.report.map fun (name, detail) => (name, detail.json write)))]

end Transcoding
