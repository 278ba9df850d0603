import Transcoding.Conductor.Response
import Transcoding.Text.Part

/-!
What a Conductor says of a job: where it is, its state, how much of it is done, when it reached the
stages of its life, and its error messages.
-/

namespace Transcoding.Conductor

structure JobReport where
  href : String := ""
  state : String := ""
  percentComplete : Int := 0
  submitted : Option Timestamp := none
  started : Option Timestamp := none
  completed : Option Timestamp := none
  errored : Option Timestamp := none
  errorMessages : List String := []
  deriving DecidableEq, Repr

namespace JobReport

/-- The identifier of the job: the last segment of its address that is not empty. -/
def id (r : JobReport) : String :=
  String.ofList (Text.lastSegment (Text.dropTrailingSlashes r.href.toList))

/-- The messages in the errors of an element. -/
def messages (root : Xml.Element) : List String :=
  let errors := (root.content.children (.plain "error_messages")).flatMap fun e =>
    e.content.children (.plain "error")
  errors.map fun e => String.ofList (Response.text e "message")

def ofElement (root : Xml.Element) : Except ResponseFault JobReport := do
  let percentComplete ← Response.integer root "pct_complete"
  let submitted ← Response.timestamp root "submitted"
  let started ← Response.timestamp root "start_time"
  let completed ← Response.timestamp root "complete_time"
  let errored ← Response.timestamp root "errored_time"
  return {
    href := Response.href root
    state := String.ofList (Response.text root "status")
    percentComplete := percentComplete
    submitted := submitted
    started := started
    completed := completed
    errored := errored
    errorMessages := messages root }

def ofText (document : String) : Except ResponseFault JobReport :=
  Response.ofDocument ofElement (Xml.Element.ofText document.toList)

def ofBytes (document : List UInt8) : Except ResponseFault JobReport :=
  Response.ofDocument ofElement (Xml.Element.ofBytes document)

end JobReport
end Transcoding.Conductor
