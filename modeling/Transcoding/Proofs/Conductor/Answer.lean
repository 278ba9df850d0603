import Mathlib.Control.Monad.Basic
import Transcoding.Proofs.Conductor.Client
import Transcoding.Proofs.Outcome

/-!
What an operation of the client makes of any answer whatever: which statuses keep the body from
being read, and which bodies that are read leave the caller without a value and without a word about
the answer.
-/

namespace Transcoding.Conductor

open Client Client.Operation

variable {α : Type}

/-- Whether a document declares an encoding of a name of which nothing is known. -/
def DeclaresUnknown (bytes : List UInt8) (name : List Char) : Prop :=
  ∃ place, Xml.Source.ofBytes bytes = .error (.unknown name, place)

/-- Whether a caller is told the status and the text of an answer. -/
def Reports (a : Answer) (outcome : Except Problem α) : Prop :=
  ∃ fault : TransportFault, outcome = .error (.failure (.transport fault)) ∧
    fault.status? = some a.status ∧ fault.details = .string a.text

theorem ofBytes_unknownEncoding_iff {bytes : List UInt8} {name : List Char} :
    Xml.Element.ofBytes bytes = .error (.unknownEncoding name) ↔ DeclaresUnknown bytes name := by
  rw [Xml.Element.ofBytes, DeclaresUnknown]
  cases Xml.Source.ofBytes bytes with
  | ok s =>
      have hs : Xml.Element.ofSource s ≠ .error (.unknownEncoding name) := by
        apply mapError_ne_error
        exact fun _ => nofun
      exact ⟨fun h => absurd h hs, nofun⟩
  | error e =>
      obtain ⟨fault, place⟩ := e
      cases fault with
      | unknown n =>
          constructor
          · intro h
            cases h
            exact ⟨place, rfl⟩
          · rintro ⟨_, h⟩
            cases h
            rfl
      | document _ | unfit _ _ | multiByte => exact ⟨nofun, nofun⟩

section Read

variable (root : Xml.Element) (f : Xml.DocumentFault)

private theorem integer_ne_document (name : String) :
    Response.integer root name ≠ .error (.document f) := by
  rw [Response.integer]
  split
  · exact nofun
  · apply mapError_ne_error
    exact fun _ => nofun

private theorem timestamp_ne_document (name : String) :
    Response.timestamp root name ≠ .error (.document f) := by
  apply mapError_ne_error
  exact fun _ => nofun

/-- A document that is one has no fault of a document. -/
theorem readElement_ne_document (op : Operation α) :
    op.readElement root ≠ .error (.document f) := by
  -- Each reader is a chain of readers of one child, whose faults are of numerals or timestamps.
  cases op with
  | postJob _ | getJob _ =>
      rw [readElement, JobReport.ofElement]
      refine bind_ne_error (integer_ne_document root f _) fun _ => ?_
      iterate 4 refine bind_ne_error (timestamp_ne_document root f _) fun _ => ?_
      exact nofun
  | getNodes => exact nofun
  | getCloudConfig =>
      rw [readElement, CloudConfig.ofElement]
      iterate 3 refine bind_ne_error (integer_ne_document root f _) fun _ => ?_
      exact nofun

end Read

theorem read_unknownEncoding_iff (op : Operation α) {bytes : List UInt8} {name : List Char} :
    op.read bytes = .error (.document (.unknownEncoding name)) ↔ DeclaresUnknown bytes name := by
  rw [read_eq, Response.ofDocument, ← ofBytes_unknownEncoding_iff]
  cases Xml.Element.ofBytes bytes with
  | ok root => exact ⟨fun h => absurd h (readElement_ne_document root _ op), nofun⟩
  | error f =>
      constructor
      · intro h
        cases h
        rfl
      · intro h
        cases h
        rfl

theorem reports_unreadable_iff {a : Answer} {reason : ResponseFault} :
    Reports (α := α) a (.error (unreadable a reason)) ↔
      ∀ name, reason ≠ .document (.unknownEncoding name) := by
  constructor
  · rintro ⟨fault, hfault, -⟩ name rfl
    cases hfault
  · intro h
    refine ⟨.undecodable a.status a.text reason, ?_, rfl, rfl⟩
    cases reason with
    | document f =>
        cases f with
        | unknownEncoding name => exact absurd rfl (h name)
        | malformed _ _ | unfitEncoding _ _ | multiByteEncoding => rfl
    | numeral _ | timestamp _ => rfl

section Answer

variable {op : Operation α} {c : Client} {e : Exchange} {r : Request} {a : Answer}

theorem call_refused (hr : op.request c e.now = .ok r) (ha : e.reply = .answer a)
    (h : a.isError = true) :
    (op.call c e).1 = .error (.failure (.transport (.refused a.status a.text))) := by
  rw [call_apply, hr, ha]
  simp only [interpret, accept, h, if_true]
  rfl

theorem call_read (hr : op.request c e.now = .ok r) (ha : e.reply = .answer a)
    (h : a.isError = false) :
    (op.call c e).1 = (op.read a.body).mapError (unreadable a) := by
  rw [call_apply, hr, ha]
  simp only [interpret, accept, h]
  rfl

theorem isError_iff : a.isError = true ↔ 400 ≤ a.status ∧ a.status ≤ 599 := by
  rw [Answer.isError, Bool.and_eq_true, decide_eq_true_iff, decide_eq_true_iff]

private theorem reports_call_iff (hr : op.request c e.now = .ok r) (ha : e.reply = .answer a) :
    Reports a (op.call c e).1 ↔ a.isError = true ∨ ∃ reason, op.read a.body = .error reason ∧
      ∀ name, reason ≠ .document (.unknownEncoding name) := by
  cases hE : a.isError with
  | true =>
      rw [call_refused hr ha hE]
      exact ⟨fun _ => .inl rfl, fun _ => ⟨_, rfl, rfl, rfl⟩⟩
  | false =>
      rw [call_read hr ha hE]
      cases op.read a.body with
      | ok value =>
          constructor
          · rintro ⟨_, h, -⟩
            cases h
          · rintro (h | ⟨_, h, -⟩)
            · cases h
            · cases h
      | error reason =>
          refine reports_unreadable_iff.trans ⟨fun h => .inr ⟨reason, rfl, h⟩, ?_⟩
          rintro (h | ⟨_, h, hname⟩)
          · cases h
          · cases h
            exact hname

private theorem call_eq_ok_iff (hr : op.request c e.now = .ok r) (ha : e.reply = .answer a)
    {value : α} :
    (op.call c e).1 = .ok value ↔ a.isError = false ∧ op.read a.body = .ok value := by
  cases hE : a.isError with
  | true =>
      rw [call_refused hr ha hE]
      exact ⟨nofun, fun h => nomatch h.1⟩
  | false =>
      rw [call_read hr ha hE, mapError_eq_ok_iff]
      exact ⟨fun h => ⟨rfl, h⟩, fun h => h.2⟩

/-- An operation gives a value or reports the answer exactly if the answer is an error or declares
no unknown encoding; otherwise the name of the encoding is all that comes of it. -/
theorem settled_iff (hr : op.request c e.now = .ok r) (ha : e.reply = .answer a) :
    (((∃ value, (op.call c e).1 = .ok value) ∨ Reports a (op.call c e).1) ↔
        (a.isError = true ∨ ∀ name, ¬DeclaresUnknown a.body name)) ∧
      ∀ name, a.isError = false → DeclaresUnknown a.body name →
        (op.call c e).1 = .error (.defect (.unknownEncoding name)) := by
  simp only [reports_call_iff hr ha, call_eq_ok_iff hr ha, ← read_unknownEncoding_iff op]
  constructor
  · cases a.isError with
    | true => simp
    | false =>
        cases op.read a.body with
        | ok value | error reason => simp
  · intro name hE hname
    rw [call_read hr ha hE, hname]
    rfl

def unknownEncodingDocument : String :=
  "<?xml version=\"1.0\" encoding=\"x-unknown\"?><nodes/>"

private theorem request_nodes :
    getNodes.request exampleClient 1000000 = .ok ⟨.get, "https://conductor.example.com/api/nodes",
      ⟨"myuser", "1001800", "140f1db4f3199e98e9a1077db20dbf73"⟩, none⟩ := by
  decide +kernel

theorem settled_unclosed :
    (∃ value, (getNodes.call exampleClient (answering 200 "<nodes>")).1 = .ok value) ∨
      Reports ⟨200, Text.toUtf8 "<nodes>".toList⟩
        (getNodes.call exampleClient (answering 200 "<nodes>")).1 := by
  have read : Xml.Source.ofBytes (Text.toUtf8 "<nodes>".toList) =
      .ok { text := "<nodes>".toList } := by decide +kernel
  have known : ∀ name, ¬DeclaresUnknown (Text.toUtf8 "<nodes>".toList) name := by
    rintro name ⟨place, h⟩
    rw [read] at h
    cases h
  exact (settled_iff (e := answering 200 "<nodes>") request_nodes rfl).1.2 (.inr known)

/-- An answer in an unknown encoding is neither read nor reported. -/
theorem unknown_encoding_escapes :
    ¬((∃ value, (getNodes.call exampleClient (answering 200 unknownEncodingDocument)).1 =
        .ok value) ∨
      Reports ⟨200, Text.toUtf8 unknownEncodingDocument.toList⟩
        (getNodes.call exampleClient (answering 200 unknownEncodingDocument)).1) := by
  have unknown : getNodes.read (Text.toUtf8 unknownEncodingDocument.toList) =
      .error (.document (.unknownEncoding "x-unknown".toList)) := by decide +kernel
  rw [call_read (e := answering 200 unknownEncodingDocument) request_nodes rfl rfl, unknown]
  rintro (⟨_, h⟩ | ⟨_, h, -⟩)
  · cases h
  · cases h

/-- Only statuses from 400 to 599 keep the body from being read. With any other status an operation
gives what the body says, and reports the answer only if the body cannot be read. -/
theorem body_read_unless_error_status (hr : op.request c e.now = .ok r) (ha : e.reply = .answer a) :
    (400 ≤ a.status ∧ a.status ≤ 599 →
        (op.call c e).1 = .error (.failure (.transport (.refused a.status a.text)))) ∧
      (∀ value, (op.call c e).1 = .ok value ↔
        ¬(400 ≤ a.status ∧ a.status ≤ 599) ∧ op.read a.body = .ok value) ∧
      (Reports a (op.call c e).1 ↔ (400 ≤ a.status ∧ a.status ≤ 599) ∨
        ∃ reason, op.read a.body = .error reason ∧
          ∀ name, reason ≠ .document (.unknownEncoding name)) := by
  refine ⟨fun h => call_refused hr ha (isError_iff.2 h), fun value => ?_, ?_⟩
  · rw [call_eq_ok_iff hr ha, ← isError_iff, Bool.not_eq_true]
  · rw [reports_call_iff hr ha, isError_iff]

private theorem request_job :
    (getJob "1").request exampleClient 1000000 =
      .ok ⟨.get, "https://conductor.example.com/api/jobs/1",
        ⟨"myuser", "1001800", "5f2ca3ec423eed87fbfd9790eda1a3dc"⟩, none⟩ := by
  decide +kernel

theorem body_read_unless_error_status_not_found :
    ((getJob "1").call exampleClient (answering 404 "<html/>")).1 =
      .error (.failure (.transport (.refused 404 "<html/>"))) := by
  have text : Answer.text ⟨404, Text.toUtf8 "<html/>".toList⟩ = "<html/>" := by decide +kernel
  have refused := (body_read_unless_error_status (e := answering 404 "<html/>") request_job rfl).1
    (by decide)
  rwa [text] at refused

/-- A page that redirects elsewhere is read as the report of a job without a name. -/
theorem redirect_is_read :
    ((getJob "1").call exampleClient (answering 302 "<html><head/></html>")).1 = .ok {} := by
  have read : (getJob "1").read (Text.toUtf8 "<html><head/></html>".toList) = .ok {} := by
    decide +kernel
  rw [call_read (e := answering 302 "<html><head/></html>") request_job rfl rfl, read]
  rfl

end Answer
end Transcoding.Conductor
