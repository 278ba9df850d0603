import Transcoding.Conductor.Response
import Transcoding.Json

/-!
How the exchange with a backend fails: the connection gives no answer, the answer reports an error,
or it cannot be read. The status and the text of an answer are kept with the fault.
-/

namespace Transcoding

open Conductor

inductive OutageKind
  /-- The connection was not made. -/
  | connect
  /-- No answer came in time. -/
  | readTimeout
  /-- What came was no answer. -/
  | protocol
  deriving DecidableEq, Repr

def OutageKind.name : OutageKind → String
  | .connect => "ConnectError"
  | .readTimeout => "ReadTimeout"
  | .protocol => "RemoteProtocolError"

structure Outage where
  kind : OutageKind
  message : String
  deriving DecidableEq, Repr

inductive TransportFault
  | unreachable (outage : Outage)
  | refused (status : Int) (text : String)
  | undecodable (status : Int) (text : String) (reason : ResponseFault)
  /-- A fault in the words of some other provider, with what it says besides. -/
  | worded (message : String) (status : Option Int) (details : Json)
  deriving Repr

namespace TransportFault

def message : TransportFault → String
  | .unreachable outage => "Failed to connect to Elemental Conductor: " ++ outage.message
  | .refused _ text => "Elemental Conductor returned error: " ++ text
  | .undecodable _ _ reason => "Invalid response from Elemental Conductor: " ++ reason.message
  | .worded message _ _ => message

/-- The status of the answer, if there was one. -/
def status? : TransportFault → Option Int
  | .unreachable _ => none
  | .refused status _ | .undecodable status _ _ => some status
  | .worded _ status _ => status

def details : TransportFault → Json
  | .unreachable _ => .null
  | .refused _ text | .undecodable _ text _ => .string text
  | .worded _ _ details => details

/-- What a fault was raised from. -/
inductive Cause
  | outage (o : Outage)
  | response (reason : ResponseFault)
  deriving DecidableEq, Repr

def Cause.name : Cause → String
  | .outage o => o.kind.name
  | .response reason => reason.kind.name

/-- The error that a fault passes on, if it comes of another one. -/
def cause? : TransportFault → Option Cause
  | .unreachable outage => some (.outage outage)
  | .undecodable _ _ reason => some (.response reason)
  | .refused _ _ | .worded _ _ _ => none

end TransportFault
end Transcoding
