import Transcoding.Proofs.Conductor.Healthcheck
import Transcoding.Proofs.Conductor.Identifier
import Transcoding.Proofs.Conductor.Transcode

/-!
Which job an accepted submission names. It is the last segment of the address in the answer, so it
has a name as long as the address has more to it than slashes; an answer without an address is
accepted all the same.
-/

namespace Transcoding.Conductor

open Xml (Element)

/-- The address in a root element, empty if it has none. -/
def addressOf (root : Element) : List Char :=
  (root.attribute? (.plain "href")).getD []

/-- Whether the next reply is an answer that can be read as the report of a job. -/
def Reported (e : Exchange) (root : Element) : Prop :=
  Delivers e root ∧ ∃ report, JobReport.ofElement root = .ok report

theorem JobReport.href_of_ofElement {root : Element} {report : JobReport}
    (h : JobReport.ofElement root = .ok report) : report.href.toList = addressOf root := by
  -- Whatever the other values are, the address is read the same way.
  obtain ⟨_, _, h⟩ := bind_eq_ok_iff.1 h
  iterate 4 obtain ⟨_, _, h⟩ := bind_eq_ok_iff.1 h
  cases h
  exact String.toList_ofList

theorem JobReport.endsIn_id {root : Element} {report : JobReport}
    (h : JobReport.ofElement root = .ok report) :
    Text.EndsIn (addressOf root) report.id.toList := by
  rw [← href_of_ofElement h]
  exact report.endsIn_href

namespace Client

variable {c : Client} {e : Exchange} {source : String} {presets : List Preset}

/-- What submitting a job gives is read from the next reply. -/
theorem interpret_of_postJob {job : Job} {report : JobReport}
    (h : (c.postJob job e).1 = .ok report) : interpret JobReport.ofBytes e.reply = .ok report := by
  have called : c.postJob job e = (Operation.postJob job).call c e := rfl
  rw [called, Operation.call_apply] at h
  cases hrequest : (Operation.postJob job).request c e.now with
  | error d =>
      rw [hrequest] at h
      cases h
  | ok request =>
      rw [hrequest] at h
      exact h

/-- A transcoding that succeeds is an accepted report. -/
theorem exists_report_of_transcode {s : JobStatus}
    (hs : (c.transcode source presets e).1 = .ok s) :
    ∃ root report, Delivers e root ∧ JobReport.ofElement root = .ok report ∧
      s = report.accepted := by
  rw [transcode_apply] at hs
  cases hjob : c.buildJob source presets with
  | error f =>
      rw [hjob] at hs
      cases hs
  | ok job =>
      rw [hjob] at hs
      cases hposted : (c.postJob job e).1 with
      | error problem =>
          dsimp only at hs
          rw [hposted] at hs
          cases hs
      | ok report =>
          dsimp only at hs
          rw [hposted] at hs
          cases hs
          obtain ⟨root, hroot, helement⟩ :=
            interpret_ofDocument_iff.1 (interpret_of_postJob hposted)
          exact ⟨root, report, hroot, helement, rfl⟩

/-- Every report that can be read is accepted, whatever it says. -/
theorem transcode_of_reported (h : c.CanSend "/jobs".toList e.now)
    (mapped : presets.find? isUnmapped = none)
    (few : presets.length ≤ Nat.pow 10 Numeral.maxDigits) {root : Element} {report : JobReport}
    (hroot : Delivers e root) (hreport : JobReport.ofElement root = .ok report) :
    (c.transcode source presets e).1 = .ok report.accepted := by
  obtain ⟨job, hjob, hfits⟩ := Job.exists_ofPresets mapped c.storage source
  have built : c.buildJob source presets = .ok job := hjob
  have posted := postJob_apply h job
  rw [Job.document_eq_ok_iff.2 ⟨hfits few, rfl⟩] at posted
  have read : interpret JobReport.ofBytes e.reply = .ok report :=
    interpret_ofDocument_iff.2 ⟨root, hroot, hreport⟩
  rw [transcode_apply, built]
  dsimp only
  rw [posted.1, read]
  rfl

/-- A submission that is reported as accepted is queued under the last segment of the address in the
answer. It is accepted without a name if and only if the answer is a report whose address has
nothing but slashes. -/
theorem accepted_job_named (c : Client) (e : Exchange) (source : String) (presets : List Preset) :
    (∀ s, (c.transcode source presets e).1 = .ok s →
      s.status = .queued ∧ ∃ root, Reported e root ∧
        Text.EndsIn (addressOf root) s.jobId.toList ∧
        (s.jobId = "" ↔ ∀ d ∈ addressOf root, d = '/')) ∧
      (c.CanSend "/jobs".toList e.now →
        (∀ p ∈ presets, (p.providerMapping.lookup "elementalconductor").isSome) →
        presets.length ≤ Nat.pow 10 Numeral.maxDigits →
        ((∃ s, (c.transcode source presets e).1 = .ok s ∧ s.jobId = "") ↔
          ∃ root, Reported e root ∧ ∀ d ∈ addressOf root, d = '/')) := by
  have named (s : JobStatus) (hs : (c.transcode source presets e).1 = .ok s) :
      s.status = .queued ∧ ∃ root, Reported e root ∧
        Text.EndsIn (addressOf root) s.jobId.toList ∧
        (s.jobId = "" ↔ ∀ d ∈ addressOf root, d = '/') := by
    obtain ⟨root, report, hroot, hreport, rfl⟩ := exists_report_of_transcode hs
    have ends := JobReport.endsIn_id hreport
    refine ⟨rfl, root, ⟨hroot, report, hreport⟩, ends, ?_⟩
    rw [← ends.eq_nil_iff, String.toList_eq_nil_iff]
    rfl
  refine ⟨named, fun canSend hmapped few => ⟨?_, ?_⟩⟩
  · rintro ⟨s, hs, hid⟩
    obtain ⟨-, root, hreported, -, hslashes⟩ := named s hs
    exact ⟨root, hreported, hslashes.1 hid⟩
  · rintro ⟨root, ⟨hroot, report, hreport⟩, hslashes⟩
    have mapped : presets.find? isUnmapped = none := List.find?_eq_none.2 fun p hp =>
      Bool.eq_false_iff.1 (Option.isNone_eq_false_iff.2 (hmapped p hp))
    refine ⟨_, transcode_of_reported canSend mapped few hroot hreport, ?_⟩
    exact String.toList_eq_nil_iff.1 ((JobReport.endsIn_id hreport).eq_nil_iff.2 hslashes)

theorem exampleClient_canSend_jobs : exampleClient.CanSend "/jobs".toList 1000000 :=
  exampleClient_canSend (by decide +kernel)

/-- What comes of a preset that is known to the provider when the report of a job comes back. -/
theorem transcode_example {document : String} {root : Element} {report : JobReport}
    (hroot : Element.ofBytes (Text.toUtf8 document.toList) = .ok root)
    (hreport : JobReport.ofElement root = .ok report) :
    (exampleClient.transcode "s3://in/film.mov" (examplePresets.take 1)
      (answering 201 document)).1 = .ok report.accepted :=
  transcode_of_reported exampleClient_canSend_jobs (by decide +kernel) (by decide +kernel)
    ⟨_, rfl, rfl, hroot⟩ hreport

theorem exists_report_of_document (document : String) (address : List Char)
    (h : (Element.ofBytes (Text.toUtf8 document.toList)).toOption.any (fun root =>
      (JobReport.ofElement root).isOk && addressOf root == address) = true) :
    ∃ root report, Element.ofBytes (Text.toUtf8 document.toList) = .ok root ∧
      JobReport.ofElement root = .ok report ∧ addressOf root = address := by
  obtain ⟨root, hbytes, hroot⟩ := exists_of_any h
  obtain ⟨hok, haddress⟩ := Bool.and_eq_true_iff.1 hroot
  cases hreport : JobReport.ofElement root with
  | error f =>
      rw [hreport] at hok
      cases hok
  | ok report => exact ⟨root, report, hbytes, hreport, beq_iff_eq.1 haddress⟩

theorem accepted_job_named_seventeen :
    (∃ s, (exampleClient.transcode "s3://in/film.mov" (examplePresets.take 1)
        (answering 201 "<job href=\"/api/jobs/17/\"/>")).1 = .ok s ∧
      s.status = .queued ∧ s.jobId = "17") ∧
    ∃ s, (exampleClient.transcode "s3://in/film.mov" (examplePresets.take 1)
        (answering 201 "<job href=\"//\"/>")).1 = .ok s ∧ s.jobId = "" := by
  constructor
  · obtain ⟨root, report, hbytes, hreport, haddress⟩ :=
      exists_report_of_document "<job href=\"/api/jobs/17/\"/>" "/api/jobs/17/".toList
        (by decide +kernel)
    have hs := transcode_example hbytes hreport
    obtain ⟨hstatus, root', ⟨hroot', -⟩, ends, -⟩ :=
      (accepted_job_named exampleClient (answering 201 "<job href=\"/api/jobs/17/\"/>")
        "s3://in/film.mov" (examplePresets.take 1)).1 _ hs
    have shown : Delivers (answering 201 "<job href=\"/api/jobs/17/\"/>") root :=
      ⟨_, rfl, rfl, hbytes⟩
    rw [← shown.unique hroot', haddress] at ends
    exact ⟨_, hs, hstatus, String.toList_inj.1 (Text.endsIn_iff.1 ends)⟩
  · obtain ⟨root, report, hbytes, hreport, haddress⟩ :=
      exists_report_of_document "<job href=\"//\"/>" "//".toList (by decide +kernel)
    refine ((accepted_job_named exampleClient (answering 201 "<job href=\"//\"/>")
      "s3://in/film.mov" (examplePresets.take 1)).2 exampleClient_canSend_jobs (by decide +kernel)
      (by decide +kernel)).2 ⟨root, ⟨⟨_, rfl, rfl, hbytes⟩, report, hreport⟩, ?_⟩
    rw [haddress]
    exact Text.forall_of_all (by decide +kernel)

/-- An answer that names no job is accepted, and what is queued cannot be asked for. -/
theorem unnamed_job_accepted :
    ¬∀ s, (exampleClient.transcode "s3://in/film.mov" (examplePresets.take 1)
      (answering 201 "<job/>")).1 = .ok s → s.jobId ≠ "" := by
  intro h
  obtain ⟨root, report, hbytes, hreport, haddress⟩ :=
    exists_report_of_document "<job/>" [] (by decide +kernel)
  have unnamed : report.id = "" := by
    rw [← String.toList_eq_nil_iff, (JobReport.endsIn_id hreport).eq_nil_iff, haddress]
    exact List.forall_mem_nil _
  exact h _ (transcode_example hbytes hreport) unnamed

end Client
end Transcoding.Conductor
