import Transcoding.Conductor.Cluster
import Transcoding.Conductor.Job
import Transcoding.Conductor.JobReport
import Transcoding.Digest.Md5
import Transcoding.Exchange

/-!
The client of a Conductor. Each operation signs and sends one request; an answer with an error
status is never read, and one that cannot be read is a fault with its status and text.
-/

namespace Transcoding.Conductor

structure Client where
  host : String
  userLogin : String
  apiKey : String
  /-- For how many minutes a signed request counts. -/
  authExpires : Int
  /-- The credentials to the storage of sources and outputs. -/
  accessKeyId : String := ""
  secretAccessKey : String := ""
  /-- The root of all destinations. -/
  destination : String := ""
  /-- How many seconds an answer may take. -/
  timeout : Binary64 := .ofFraction false 30 1
  deriving DecidableEq, Repr

namespace Client

/-- The client with the slashes at the end of the host taken off. -/
def tidy (c : Client) : Client :=
  { c with host := String.ofList (Text.dropTrailingSlashes c.host.toList) }

/-- When a request signed now no longer counts. -/
def expiry (c : Client) (now : Int) : Int :=
  now + c.authExpires * 60

/-- What is hashed together with the key of the client. -/
def signedText (c : Client) (path expires : List Char) : List Char :=
  path ++ c.userLogin.toList ++ c.apiKey.toList ++ expires

/-- The signature of a path below the root of the interface. -/
def sign (c : Client) (path : List Char) (now : Int) : Except Numeral.Fault Signature := do
  let expires ← Numeral.write (c.expiry now)
  let inner := Digest.md5Hex (c.signedText path expires)
  let key := Digest.md5Hex (c.apiKey.toList ++ inner)
  return ⟨c.userLogin, String.ofList expires, String.ofList key⟩

def request (c : Client) (method : Method) (path : List Char) (body : Option (List Char)) :
    Call Answer := do
  let now := (← get).now
  let signature ← Call.ofExcept (.defect ∘ .numeral) (c.sign path now)
  let url ← Call.ofExcept (.defect ∘ .url) (Url.parse (c.host.toList ++ "/api".toList ++ path))
  if let some fault := Header.fault? c.userLogin.toList then throw (.defect (.header fault))
  let reply ← Exchange.send
    ⟨method, String.ofList url.target.text, signature, body.map String.ofList⟩
  match reply with
  | .outage o => Call.fail (.transport (.unreachable o))
  | .answer a =>
    if a.isError then Call.fail (.transport (.refused a.status a.text)) else return a

/-- What an answer says, if it can be read. -/
def decode {α : Type} (read : List UInt8 → Except ResponseFault α) (a : Answer) : Call α :=
  match read a.body with
  | .ok value => pure value
  | .error (.document (.unknownEncoding name)) => throw (.defect (.unknownEncoding name))
  | .error reason => Call.fail (.transport (.undecodable a.status a.text reason))

def postJob (c : Client) (j : Job) : Call JobReport := do
  let document ← Call.ofExcept (.defect ∘ .numeral) j.document
  decode JobReport.ofBytes (← c.request .post "/jobs".toList (some document))

def getJob (c : Client) (jobId : String) : Call JobReport := do
  decode JobReport.ofBytes (← c.request .get ("/jobs/".toList ++ jobId.toList) none)

def getNodes (c : Client) : Call (List Node) := do
  decode Node.listOfBytes (← c.request .get "/nodes".toList none)

def getCloudConfig (c : Client) : Call CloudConfig := do
  decode CloudConfig.ofBytes (← c.request .get "/configs/cloud".toList none)

end Client
end Transcoding.Conductor
