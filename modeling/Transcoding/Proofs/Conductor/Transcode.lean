import Transcoding.Conductor.Provider
import Transcoding.Proofs.Conductor.Client
import Transcoding.Proofs.Conductor.Submission
import Transcoding.Proofs.Url.PlainHost

/-!
Transcoding is all or nothing. Either some preset has no identifier at the provider, and the backend
is not asked anything, or one request goes out with the document of the whole job, and what comes of
it is what comes of the call.
-/

namespace Transcoding.Conductor

namespace Client

theorem transcode_apply (c : Client) (source : String) (presets : List Preset) (e : Exchange) :
    c.transcode source presets e =
      match c.buildJob source presets with
      | .error f => (.error (.failure f), e)
      | .ok job => ((c.postJob job e).1.map JobReport.accepted, (c.postJob job e).2) := by
  rw [transcode, Call.bind_apply, Call.ofExcept_apply]
  cases c.buildJob source presets with
  | error f => rfl
  | ok job =>
      dsimp only [Except.mapError]
      rw [Call.bind_apply]
      rcases c.postJob job e with ⟨_ | _, _⟩ <;> rfl

/-- Whether all that happened between two states of a backend is one request: a document sent to the
address for jobs. -/
def SubmittedOnce (c : Client) (document : List Char) (e e' : Exchange) : Prop :=
  ∃ url signature, Url.parse (c.host.toList ++ "/api/jobs".toList) = .ok url ∧
    c.sign "/jobs".toList e.now = .ok signature ∧
    e' = e.after
      ⟨.post, String.ofList url.target.text, signature, some (String.ofList document)⟩

/-- The address for jobs at a plain host. -/
theorem SubmittedOnce.address {c : Client} {document : List Char} {e e' : Exchange}
    (h : c.SubmittedOnce document e e') {scheme name : List Char}
    (plain : Url.PlainHost scheme name) (hhost : c.host.toList = scheme ++ "://".toList ++ name) :
    ∃ signature, e' = e.after ⟨.post,
      String.ofList (c.host.toList.map Char.toLower ++ "/api/jobs".toList), signature,
      some (String.ofList document)⟩ := by
  obtain ⟨url, signature, hurl, -, rfl⟩ := h
  rw [hhost] at hurl ⊢
  have settled : Url.IsSettled "/api/jobs".toList := ⟨rfl, by decide, by decide +kernel⟩
  exact ⟨signature, by rw [plain.target_text settled hurl]⟩

/-- Whether the outcome of a transcoding follows from that of submitting the job: the same problem,
or a queued job with the identifier that the answer gives. -/
def Follows (e : Exchange) (submitted : Except Problem JobReport)
    (outcome : Except Problem JobStatus) : Prop :=
  (∃ problem, submitted = .error problem ∧ outcome = .error problem) ∨
    ∃ a report, e.reply = .answer a ∧ JobReport.ofBytes a.body = .ok report ∧
      submitted = .ok report ∧ outcome = .ok ⟨"elementalconductor", report.id, .queued, []⟩

/-- A job without a document is not submitted. -/
theorem postJob_apply {c : Client} {e : Exchange} (h : c.CanSend "/jobs".toList e.now) (job : Job) :
    match job.document with
    | .error fault => c.postJob job e = (.error (.defect (.numeral fault)), e)
    | .ok document =>
        (c.postJob job e).1 = interpret JobReport.ofBytes e.reply ∧
          c.SubmittedOnce document e (c.postJob job e).2 := by
  obtain ⟨url, signature, hurl, hsign, hprepare⟩ := h.exists_prepare
  have place : "/api".toList ++ "/jobs".toList = "/api/jobs".toList := by decide
  rw [List.append_assoc, place] at hurl
  have called : c.postJob job e = (Operation.postJob job).call c e := rfl
  rw [called, Operation.call_apply, Operation.request, Operation.read]
  cases job.document with
  | error fault => rfl
  | ok document =>
      dsimp only
      rw [hprepare]
      exact ⟨rfl, url, signature, hurl, hsign, rfl⟩

theorem follows_interpret (e : Exchange) :
    Follows e (interpret JobReport.ofBytes e.reply)
      ((interpret JobReport.ofBytes e.reply).map JobReport.accepted) := by
  cases hcall : interpret JobReport.ofBytes e.reply with
  | error problem => exact .inl ⟨problem, rfl, rfl⟩
  | ok report =>
      obtain ⟨a, hreply, -, hread⟩ := interpret_eq_ok_iff.1 hcall
      exact .inr ⟨a, report, hreply, hread, rfl, rfl⟩

/-- Transcoding names the first preset that cannot be had and does nothing, or it submits the whole
job once. A job has no document only if it has more outputs than a numeral can count. -/
theorem transcode_all_or_nothing {c : Client} {e : Exchange} (h : c.CanSend "/jobs".toList e.now)
    (source : String) (presets : List Preset) :
    match presets.find? fun p => (p.providerMapping.lookup "elementalconductor").isNone with
    | some p =>
        c.transcode source presets e =
          (.error (.failure (.presetNotFound p.name "elementalconductor")), e)
    | none =>
        ∃ job, c.buildJob source presets = .ok job ∧
          match job.document with
          | .error fault =>
              Nat.pow 10 Numeral.maxDigits < presets.length ∧
                c.transcode source presets e = (.error (.defect (.numeral fault)), e)
          | .ok document =>
              c.SubmittedOnce document e (c.transcode source presets e).2 ∧
                Follows e (c.postJob job e).1 (c.transcode source presets e).1 := by
  have unmapped : (fun p : Preset => (p.providerMapping.lookup "elementalconductor").isNone) =
      isUnmapped := rfl
  rw [unmapped]
  cases hfind : presets.find? isUnmapped with
  | some p =>
      have missing : c.buildJob source presets = .error (.presetNotFound p.name providerName) :=
        Job.ofPresets_of_find? hfind c.storage source
      dsimp only
      rw [transcode_apply, missing]
      rfl
  | none =>
      obtain ⟨job, hjob, hfits⟩ := Job.exists_ofPresets hfind c.storage source
      have built : c.buildJob source presets = .ok job := hjob
      refine ⟨job, built, ?_⟩
      have posted := postJob_apply h job
      rw [transcode_apply, built]
      cases hdocument : job.document with
      | error fault =>
          rw [hdocument] at posted
          dsimp only at posted ⊢
          -- Up to this many presets every number of the job can be written, so there is a document.
          refine ⟨Nat.lt_of_not_le fun hle => ?_, by rw [posted]; rfl⟩
          have written := Job.document_eq_ok_iff.2 ⟨hfits hle, rfl⟩
          rw [hdocument] at written
          cases written
      | ok document =>
          rw [hdocument] at posted
          dsimp only at posted ⊢
          refine ⟨posted.2, ?_⟩
          rw [posted.1]
          exact follows_interpret e

/-- A preset that is known to the provider, and one that is not. -/
def examplePresets : List Preset := [
  ⟨"720p", ⟨"mp4"⟩, [("elementalconductor", "17")]⟩,
  ⟨"web", ⟨"webm"⟩, [("other", "3")]⟩]

theorem transcode_examplePresets :
    exampleClient.transcode "s3://in/film.mov" examplePresets (answering 200 "<job/>") =
        (.error (.failure (.presetNotFound "web" "elementalconductor")), answering 200 "<job/>") ∧
      ∃ job document,
        exampleClient.buildJob "s3://in/film.mov" (examplePresets.take 1) = .ok job ∧
        job.document = .ok document ∧
        exampleClient.SubmittedOnce document (answering 200 "<job/>")
          (exampleClient.transcode "s3://in/film.mov" (examplePresets.take 1)
            (answering 200 "<job/>")).2 := by
  have sendable : exampleClient.CanSend "/jobs".toList 1000000 :=
    exampleClient_canSend (by decide +kernel)
  have h := transcode_all_or_nothing (e := answering 200 "<job/>") sendable "s3://in/film.mov"
  constructor
  · exact h examplePresets
  · obtain ⟨job, hjob, hdocument⟩ := h (examplePresets.take 1)
    cases hdoc : job.document with
    | error fault =>
        rw [hdoc] at hdocument
        exact absurd hdocument.1 (by decide +kernel)
    | ok document =>
        rw [hdoc] at hdocument
        exact ⟨job, document, hjob, hdoc, hdocument.1⟩

end Client
end Transcoding.Conductor
