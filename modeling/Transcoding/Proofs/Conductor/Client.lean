import Transcoding.Conductor.Client
import Transcoding.Proofs.Exchange
import Transcoding.Proofs.Outcome
import Transcoding.Proofs.Text.Numeral

/-!
What an operation of the client does: it makes a request if it can, sends it once, and judges the
one reply. Whatever fails before the request is made leaves the backend as it was.
-/

namespace Transcoding.Conductor

open Numeral (Fits)

namespace Client

/-- The request for a path, if the client can make one. -/
def prepare (c : Client) (method : Method) (path : List Char) (body : Option (List Char))
    (now : Int) : Except Defect Request := do
  let signature ← (c.sign path now).mapError .numeral
  let url ← (Url.parse (c.host.toList ++ "/api".toList ++ path)).mapError .url
  match Header.fault? c.userLogin.toList with
  | some fault => throw (.header fault)
  | none => return ⟨method, String.ofList url.target.text, signature, body.map String.ofList⟩

/-- What it takes for a client to send requests for a path. -/
structure CanSend (c : Client) (path : List Char) (now : Int) : Prop where
  expiry : Fits (c.expiry now)
  url : ∃ url, Url.parse (c.host.toList ++ "/api".toList ++ path) = .ok url
  login : Header.fault? c.userLogin.toList = none

theorem exists_sign_iff {c : Client} {path : List Char} {now : Int} :
    (∃ signature, c.sign path now = .ok signature) ↔ Fits (c.expiry now) := by
  constructor
  · rintro ⟨signature, h⟩
    obtain ⟨expires, hwrite, -⟩ := bind_eq_ok_iff.1 h
    exact (Numeral.write_eq_ok_iff.1 hwrite).1
  · intro h
    rw [sign, Numeral.write_eq_ok_iff.2 ⟨h, rfl⟩]
    exact ⟨_, rfl⟩

theorem CanSend.exists_prepare {c : Client} {path : List Char} {now : Int}
    (h : c.CanSend path now) :
    ∃ url signature, Url.parse (c.host.toList ++ "/api".toList ++ path) = .ok url ∧
      c.sign path now = .ok signature ∧
      ∀ method body, c.prepare method path body now =
        .ok ⟨method, String.ofList url.target.text, signature, body.map String.ofList⟩ := by
  obtain ⟨url, hurl⟩ := h.url
  obtain ⟨signature, hsign⟩ := exists_sign_iff.2 h.expiry
  refine ⟨url, signature, hurl, hsign, fun method body => ?_⟩
  rw [prepare, hsign, hurl, h.login]
  rfl

/-- The answer in a reply, unless there is none or it reports an error. -/
def accept : Reply → Except Problem Answer
  | .outage o => .error (.failure (.transport (.unreachable o)))
  | .answer a =>
      if a.isError then .error (.failure (.transport (.refused a.status a.text))) else .ok a

/-- What becomes of an answer that cannot be read. -/
def unreadable (a : Answer) : ResponseFault → Problem
  | .document (.unknownEncoding name) => .defect (.unknownEncoding name)
  | reason => .failure (.transport (.undecodable a.status a.text reason))

/-- What a reply says to a reader. -/
def interpret {α : Type} (read : List UInt8 → Except ResponseFault α) (reply : Reply) :
    Except Problem α := do
  let a ← accept reply
  (read a.body).mapError (unreadable a)

theorem accept_eq_ok_iff {reply : Reply} {a : Answer} :
    accept reply = .ok a ↔ reply = .answer a ∧ a.isError = false := by
  cases reply with
  | outage o => exact ⟨nofun, fun h => nomatch h.1⟩
  | answer b =>
      rw [accept, Reply.answer.injEq]
      split
      · next failed =>
          constructor
          · exact nofun
          · rintro ⟨rfl, h⟩
            rw [failed] at h
            cases h
      · next fine =>
          constructor
          · intro h
            cases h
            exact ⟨rfl, Bool.not_eq_true _ ▸ fine⟩
          · rintro ⟨rfl, -⟩
            rfl

theorem interpret_eq_ok_iff {α : Type} {read : List UInt8 → Except ResponseFault α} {reply : Reply}
    {value : α} : interpret read reply = .ok value ↔
      ∃ a, reply = .answer a ∧ a.isError = false ∧ read a.body = .ok value := by
  simp only [interpret, bind_eq_ok_iff, accept_eq_ok_iff, mapError_eq_ok_iff, and_assoc]

/-- A reply that gives nothing is a fault of the transport, or a defect. -/
theorem interpret_error {α : Type} {read : List UInt8 → Except ResponseFault α}
    {reply : Reply} {problem : Problem} (h : interpret read reply = .error problem) :
    (∃ fault, problem = .failure (.transport fault)) ∨ ∃ d, problem = .defect d := by
  rw [interpret] at h
  cases reply with
  | outage o =>
      cases h
      exact .inl ⟨_, rfl⟩
  | answer a =>
      rw [accept] at h
      split at h
      · cases h
        exact .inl ⟨_, rfl⟩
      · change (read a.body).mapError (unreadable a) = .error problem at h
        cases hread : read a.body with
        | ok value =>
            rw [hread] at h
            cases h
        | error reason =>
            rw [hread] at h
            cases h
            cases reason with
            | document f =>
                cases f with
                | unknownEncoding name => exact .inr ⟨_, rfl⟩
                | malformed _ _ | unfitEncoding _ _ | multiByteEncoding => exact .inl ⟨_, rfl⟩
            | numeral _ | timestamp _ => exact .inl ⟨_, rfl⟩

private theorem send_accept_apply (r : Request) (e : Exchange) :
    (do
      match ← Exchange.send r with
      | .outage o => Call.fail (.transport (.unreachable o))
      | .answer a =>
        if a.isError then Call.fail (.transport (.refused a.status a.text)) else return a : Call _)
      e = (accept e.reply, e.after r) := by
  rw [Call.bind_apply, Exchange.send_apply]
  cases e.reply with
  | outage o => rfl
  | answer a =>
      simp only [accept]
      split <;> rfl

theorem request_apply (c : Client) (method : Method) (path : List Char)
    (body : Option (List Char)) (e : Exchange) :
    c.request method path body e =
      match c.prepare method path body e.now with
      | .ok r => (accept e.reply, e.after r)
      | .error d => (.error (.defect d), e) := by
  -- Signature, address and header can each keep the request from being made, in this order.
  rw [request, prepare, Call.bind_apply, Call.get_apply]
  simp only [Call.bind_apply, Call.ofExcept_apply]
  cases c.sign path e.now with
  | error f => rfl
  | ok signature =>
      cases Url.parse (c.host.toList ++ "/api".toList ++ path) with
      | error f => rfl
      | ok url =>
          cases Header.fault? c.userLogin.toList with
          | some fault => rfl
          | none => exact send_accept_apply _ e

theorem decode_apply {α : Type} (read : List UInt8 → Except ResponseFault α) (a : Answer)
    (e : Exchange) : decode read a e = ((read a.body).mapError (unreadable a), e) := by
  rw [decode]
  cases read a.body with
  | ok value => rfl
  | error reason =>
      cases reason with
      | document f => cases f <;> rfl
      | numeral f | timestamp f => rfl

/-- What can be asked of a Conductor, by the type of the answer. -/
inductive Operation : Type → Type
  | postJob (j : Job) : Operation JobReport
  | getJob (jobId : String) : Operation JobReport
  | getNodes : Operation (List Node)
  | getCloudConfig : Operation CloudConfig

namespace Operation

variable {α : Type}

def call (c : Client) : Operation α → Call α
  | .postJob j => c.postJob j
  | .getJob jobId => c.getJob jobId
  | .getNodes => c.getNodes
  | .getCloudConfig => c.getCloudConfig

/-- The request of an operation, if it can be made. -/
def request (c : Client) (now : Int) : Operation α → Except Defect Request
  | .postJob j =>
      match j.document with
      | .ok document => c.prepare .post "/jobs".toList (some document) now
      | .error f => .error (.numeral f)
  | .getJob jobId => c.prepare .get ("/jobs/".toList ++ jobId.toList) none now
  | .getNodes => c.prepare .get "/nodes".toList none now
  | .getCloudConfig => c.prepare .get "/configs/cloud".toList none now

/-- How the root of the document in an answer is read. -/
def readElement : Operation α → Xml.Element → Except ResponseFault α
  | .postJob _ | .getJob _ => JobReport.ofElement
  | .getNodes => Node.listOfElement
  | .getCloudConfig => CloudConfig.ofElement

def read : Operation α → List UInt8 → Except ResponseFault α
  | .postJob _ | .getJob _ => JobReport.ofBytes
  | .getNodes => Node.listOfBytes
  | .getCloudConfig => CloudConfig.ofBytes

theorem read_eq (op : Operation α) (bytes : List UInt8) :
    op.read bytes = Response.ofDocument op.readElement (Xml.Element.ofBytes bytes) := by
  cases op with
  | postJob _ | getJob _ | getNodes | getCloudConfig => rfl

private theorem request_decode_apply (c : Client) (method : Method) (path : List Char)
    (body : Option (List Char)) (read : List UInt8 → Except ResponseFault α) (e : Exchange) :
    (do decode read (← c.request method path body) : Call α) e =
      match c.prepare method path body e.now with
      | .ok r => (interpret read e.reply, e.after r)
      | .error d => (.error (.defect d), e) := by
  rw [Call.bind_apply, request_apply]
  cases c.prepare method path body e.now with
  | error d => rfl
  | ok r =>
      simp only [interpret]
      cases accept e.reply with
      | error p => rfl
      | ok a => exact decode_apply read a _

/-- An operation makes its request and sends it once, or it leaves the backend as it was. -/
theorem call_apply (op : Operation α) (c : Client) (e : Exchange) :
    op.call c e =
      match op.request c e.now with
      | .ok r => (interpret op.read e.reply, e.after r)
      | .error d => (.error (.defect d), e) := by
  cases op with
  | postJob j =>
      rw [call, Client.postJob, Call.bind_apply, Call.ofExcept_apply, request]
      cases j.document with
      | error f => rfl
      | ok document =>
          dsimp only [Except.mapError]
          rw [request_decode_apply, read]
  | getJob jobId => rw [call, Client.getJob, request_decode_apply, request, read]
  | getNodes => rw [call, Client.getNodes, request_decode_apply, request, read]
  | getCloudConfig => rw [call, Client.getCloudConfig, request_decode_apply, request, read]

/-- An operation without a result reports a fault of the transport, or a defect. -/
theorem call_error (op : Operation α) {c : Client} {e : Exchange} {problem : Problem}
    (h : (op.call c e).1 = .error problem) :
    (∃ fault, problem = .failure (.transport fault)) ∨ ∃ d, problem = .defect d := by
  rw [call_apply] at h
  cases hr : op.request c e.now with
  | error d =>
      rw [hr] at h
      cases h
      exact .inr ⟨d, rfl⟩
  | ok r =>
      rw [hr] at h
      exact interpret_error h

theorem call_ok (op : Operation α) {c : Client} {e e' : Exchange} {value : α}
    (h : op.call c e = (.ok value, e')) :
    (∃ r, e' = e.after r) ∧ interpret op.read e.reply = .ok value := by
  rw [call_apply] at h
  cases hr : op.request c e.now with
  | error d =>
      rw [hr] at h
      cases h
  | ok r =>
      rw [hr] at h
      obtain ⟨hvalue, hafter⟩ := Prod.mk.inj h
      exact ⟨⟨r, hafter.symm⟩, hvalue⟩

end Operation
end Client

/-- A client whose requests count for half an hour. -/
def exampleClient : Client where
  host := "https://conductor.example.com"
  userLogin := "myuser"
  apiKey := "secret-key"
  authExpires := 30

theorem exampleClient_canSend {path : String}
    (h : (Url.parse (exampleClient.host.toList ++ "/api".toList ++ path.toList)).isOk = true) :
    exampleClient.CanSend path.toList 1000000 where
  expiry := by decide +kernel
  url := by
    cases hurl : Url.parse (exampleClient.host.toList ++ "/api".toList ++ path.toList) with
    | ok url => exact ⟨url, rfl⟩
    | error f =>
        rw [hurl] at h
        cases h
  login := by decide +kernel

/-- A backend that is going to give one answer. -/
def answering (status : Int) (document : String) : Exchange :=
  ⟨1000000, [.answer ⟨status, Text.toUtf8 document.toList⟩], []⟩

end Transcoding.Conductor
