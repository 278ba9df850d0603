import Transcoding.Status
import Transcoding.Text.Letter

/-!
The states that a Conductor reports for its jobs, and the status that each of them means.
-/

namespace Transcoding.Conductor

inductive State
  | pending
  | preprocessing
  | running
  | postprocessing
  | complete
  | cancelled
  | error
  | unknown
  deriving DecidableEq, Repr

namespace State

def name : State → String
  | .pending => "pending"
  | .preprocessing => "preprocessing"
  | .running => "running"
  | .postprocessing => "postprocessing"
  | .complete => "complete"
  | .cancelled => "cancelled"
  | .error => "error"
  | .unknown => "unknown"

def all : List State :=
  [.pending, .preprocessing, .running, .postprocessing, .complete, .cancelled, .error, .unknown]

/-- The state of a name in any case; every other text is an unknown state. -/
def parse (text : String) : State :=
  (all.find? fun s => s.name.toList == Text.toLower text.toList).getD .unknown

def toStatus : State → Status
  | .pending => .queued
  | .preprocessing | .running | .postprocessing => .started
  | .complete => .finished
  | .cancelled => .canceled
  | .error => .failed
  | .unknown => .unknown

end State

/-- The status that a state means as reported. -/
def translateStatus (text : String) : Status :=
  (State.parse text).toStatus

end Transcoding.Conductor
