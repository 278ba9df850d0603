import Transcoding.Conductor.Provider
import Transcoding.Proofs.Conductor.Answer

/-!
What the status of a queried job tells of the report that it is made from. Every value of the report
stands under its own name, or is not mentioned at all if there is nothing to it, so the values can
be had back from the details alone.
-/

namespace Transcoding

/-- What a status says under a name. -/
def JobStatus.detail? (s : JobStatus) (name : String) : Option Detail :=
  s.report.lookup name

/-- The names under which a status says something. -/
def JobStatus.names (s : JobStatus) : List String :=
  s.report.map Prod.fst

namespace Conductor

/-- Whether a status says of the job that was asked for what a report says, each value under its
name. -/
structure Views (s : JobStatus) (asked : String) (r : JobReport) : Prop where
  provider : s.provider = "elementalconductor"
  jobId : s.jobId = if r.id = "" then asked else r.id
  /-- No name is given twice. -/
  distinct : s.names.Nodup
  names : ∀ name, name ∈ s.names ↔ name ∈ ["status", "pct_complete", "submitted"] ∨
    name = "start_time" ∧ r.started.isSome ∨ name = "complete_time" ∧ r.completed.isSome ∨
    name = "errored_time" ∧ r.errored.isSome ∨ name = "error_messages" ∧ r.errorMessages ≠ []
  state : s.detail? "status" = some (.text r.state)
  /-- The status in common words is that of the state that is told. -/
  status : ∀ state, s.detail? "status" = some (.text state) → s.status = translateStatus state
  percentComplete : ∃ text, Numeral.write r.percentComplete = .ok text ∧
    s.detail? "pct_complete" = some (.text (String.ofList text))
  submitted : s.detail? "submitted" = some ((r.submitted.map .moment).getD .absent)
  started : s.detail? "start_time" = r.started.map .moment
  completed : s.detail? "complete_time" = r.completed.map .moment
  errored : s.detail? "errored_time" = r.errored.map .moment
  errorMessages : s.detail? "error_messages" =
    if r.errorMessages = [] then none else some (.texts r.errorMessages)

namespace JobReport

theorem lookup_singleton (name other : String) (d : Detail) :
    [(name, d)].lookup other = if other = name then some d else none := by
  by_cases h : other = name
  · rw [h, if_pos rfl]
    exact List.lookup_cons_self
  · have differs : (other == name) = false := beq_eq_false_iff_ne.2 h
    rw [List.lookup_cons, differs, if_neg h]
    rfl

theorem lookup_detailOf (name other : String) (t : Option Timestamp) :
    (detailOf name t).lookup other = if other = name then t.map .moment else none := by
  cases t with
  | none => exact (ite_self _).symm
  | some t => exact lookup_singleton name other (.moment t)

theorem lookup_messages (messages : List String) (other : String) :
    (if messages.isEmpty then [] else [("error_messages", Detail.texts messages)]).lookup other =
      if other = "error_messages" ∧ messages ≠ [] then some (.texts messages) else none := by
  cases messages with
  | nil => simp
  | cons m messages => simpa using lookup_singleton "error_messages" other (.texts (m :: messages))

theorem map_fst_detailOf (name : String) (t : Option Timestamp) :
    (detailOf name t).map Prod.fst = if t.isSome then [name] else [] := by
  cases t with
  | none | some t => rfl

/-- What is told under the names that are not always there. -/
theorem detail?_jobStatus (r : JobReport) (asked : String) {name : String}
    (h : name ∉ ["status", "pct_complete", "submitted"]) :
    (r.jobStatus asked).detail? name =
      (((if name = "start_time" then r.started.map .moment else none).or
        (if name = "complete_time" then r.completed.map .moment else none)).or
        (if name = "errored_time" then r.errored.map .moment else none)).or
        (if name = "error_messages" ∧ r.errorMessages ≠ [] then some (.texts r.errorMessages)
          else none) := by
  have always (a b c : Detail) :
      [("status", a), ("pct_complete", b), ("submitted", c)].lookup name = none := by
    simpa [List.lookup_eq_none_iff] using h
  rw [JobStatus.detail?, jobStatus, details]
  simp only [List.lookup_append, always, lookup_detailOf, lookup_messages, Option.none_or]

theorem names_jobStatus (r : JobReport) (asked : String) :
    (r.jobStatus asked).names = ["status", "pct_complete", "submitted"] ++
      (if r.started.isSome then ["start_time"] else []) ++
      (if r.completed.isSome then ["complete_time"] else []) ++
      (if r.errored.isSome then ["errored_time"] else []) ++
      (if r.errorMessages ≠ [] then ["error_messages"] else []) := by
  simp only [JobStatus.names, jobStatus, details, List.map_append, map_fst_detailOf]
  cases r.errorMessages with
  | nil | cons _ _ => rfl

/-- However many of the values are there, their names are some of these seven. -/
theorem nodup_names_jobStatus (r : JobReport) (asked : String) :
    (r.jobStatus asked).names.Nodup := by
  have all : (["status", "pct_complete", "submitted"] ++ ["start_time"] ++ ["complete_time"] ++
      ["errored_time"] ++ ["error_messages"]).Nodup := by decide
  have perhaps (p : Prop) [Decidable p] (name : String) :
      (if p then [name] else []).Sublist [name] := by
    split
    · exact .refl _
    · exact List.nil_sublist _
  rw [names_jobStatus]
  exact all.sublist (((((List.Sublist.refl _).append (perhaps _ _)).append (perhaps _ _)).append
    (perhaps _ _)).append (perhaps _ _))

theorem views_jobStatus {r : JobReport} (h : Numeral.Fits r.percentComplete) (asked : String) :
    Views (r.jobStatus asked) asked r where
  provider := rfl
  jobId := by simp [jobStatus]
  distinct := nodup_names_jobStatus r asked
  names := by
    intro name
    simp [names_jobStatus, and_comm, or_assoc]
  state := rfl
  status := by
    rintro _ ⟨⟩
    rfl
  percentComplete := ⟨_, Numeral.write_eq_ok_iff.2 ⟨h, rfl⟩, rfl⟩
  submitted := by
    rw [JobStatus.detail?, jobStatus, details]
    cases r.submitted with
    | none | some t => rfl
  started := by simp [detail?_jobStatus]
  completed := by simp [detail?_jobStatus]
  errored := by simp [detail?_jobStatus]
  errorMessages := by simp [detail?_jobStatus]

/-- The percentage of a report that was read has few enough digits to be written. -/
theorem fits_of_ofElement {root : Xml.Element} {r : JobReport} (h : ofElement root = .ok r) :
    Numeral.Fits r.percentComplete := by
  have zero : Numeral.Fits 0 := by decide +kernel
  obtain ⟨percent, hpercent, h⟩ := bind_eq_ok_iff.1 h
  iterate 4 obtain ⟨_, _, h⟩ := bind_eq_ok_iff.1 h
  cases h
  rw [Response.integer] at hpercent
  split at hpercent
  · cases hpercent
    exact zero
  · exact Numeral.fits_of_read (mapError_eq_ok_iff.1 hpercent)

end JobReport

namespace Views

variable {s s' : JobStatus} {asked asked' : String} {r r' : JobReport}

theorem moment_inj {t t' : Option Timestamp} (h : t.map Detail.moment = t'.map Detail.moment) :
    t = t' :=
  Option.map_injective (fun _ _ => Detail.moment.inj) h

theorem submitted_inj {t t' : Option Timestamp}
    (h : (t.map Detail.moment).getD .absent = (t'.map Detail.moment).getD .absent) : t = t' := by
  cases t with
  | none =>
      cases t' with
      | none => rfl
      | some t' => cases h
  | some t =>
      cases t' with
      | none => cases h
      | some t' => rw [Detail.moment.inj h]

theorem messages_inj {m m' : List String}
    (h : (if m = [] then none else some (Detail.texts m)) =
      if m' = [] then none else some (Detail.texts m')) : m = m' := by
  cases m with
  | nil =>
      cases m' with
      | nil => rfl
      | cons _ _ => cases h
  | cons _ _ =>
      cases m' with
      | nil => cases h
      | cons _ _ => exact Detail.texts.inj (Option.some.inj h)

/-- Statuses that say the same under every name are made from reports with the same values. -/
theorem lossless (h : Views s asked r) (h' : Views s' asked' r')
    (same : ∀ name, s.detail? name = s'.detail? name) :
    r.state = r'.state ∧ r.percentComplete = r'.percentComplete ∧ r.submitted = r'.submitted ∧
      r.started = r'.started ∧ r.completed = r'.completed ∧ r.errored = r'.errored ∧
      r.errorMessages = r'.errorMessages := by
  have state := h.state.symm.trans ((same _).trans h'.state)
  have submitted := h.submitted.symm.trans ((same _).trans h'.submitted)
  have started := h.started.symm.trans ((same _).trans h'.started)
  have completed := h.completed.symm.trans ((same _).trans h'.completed)
  have errored := h.errored.symm.trans ((same _).trans h'.errored)
  have messages := h.errorMessages.symm.trans ((same _).trans h'.errorMessages)
  obtain ⟨text, hwrite, htext⟩ := h.percentComplete
  obtain ⟨text', hwrite', htext'⟩ := h'.percentComplete
  have percent := htext.symm.trans ((same _).trans htext')
  have texts : text = text' := String.ofList_inj.1 (Detail.text.inj (Option.some.inj percent))
  have numerals : Numeral.ofInt r.percentComplete = Numeral.ofInt r'.percentComplete := by
    rw [← (Numeral.write_eq_ok_iff.1 hwrite).2, ← (Numeral.write_eq_ok_iff.1 hwrite').2, texts]
  exact ⟨Detail.text.inj (Option.some.inj state), Numeral.ofInt_inj.1 numerals,
    submitted_inj (Option.some.inj submitted), moment_inj started, moment_inj completed,
    moment_inj errored, messages_inj messages⟩

end Views

namespace Client

variable {c : Client} {e : Exchange} {asked : String} {r : JobReport}

theorem jobStatus_apply (c : Client) (asked : String) (e : Exchange) :
    c.jobStatus asked e =
      ((c.getJob asked e).1.map (JobReport.jobStatus · asked), (c.getJob asked e).2) := by
  rw [jobStatus, Call.bind_apply]
  rcases c.getJob asked e with ⟨_ | _, _⟩ <;> rfl

theorem fits_of_getJob (h : (c.getJob asked e).1 = .ok r) : Numeral.Fits r.percentComplete := by
  have called : (Operation.getJob asked).call c e = (.ok r, (c.getJob asked e).2) :=
    Prod.ext h rfl
  obtain ⟨-, hread⟩ := (Operation.getJob asked).call_ok called
  obtain ⟨a, -, -, hread⟩ := interpret_eq_ok_iff.1 hread
  obtain ⟨root, -, hroot⟩ := bind_eq_ok_iff.1 hread
  exact JobReport.fits_of_ofElement hroot

/-- A query that gets a report gives a status that tells all of it: what it tells is had under a
name for each value, and whatever reports two answers to a query bring, statuses that tell the same
come of reports with the same values. -/
theorem jobStatus_determines_report (h : (c.getJob asked e).1 = .ok r) :
    ∃ s, c.jobStatus asked e = (.ok s, (c.getJob asked e).2) ∧ Views s asked r ∧
      ∀ (c' : Client) (e' : Exchange) (r' : JobReport) (s' : JobStatus),
        (c'.getJob asked e').1 = .ok r' → (c'.jobStatus asked e').1 = .ok s' →
        (∀ name, s.detail? name = s'.detail? name) →
        r.state = r'.state ∧ r.percentComplete = r'.percentComplete ∧
          r.submitted = r'.submitted ∧ r.started = r'.started ∧ r.completed = r'.completed ∧
          r.errored = r'.errored ∧ r.errorMessages = r'.errorMessages := by
  have views := JobReport.views_jobStatus (fits_of_getJob h) asked
  refine ⟨_, ?_, views, ?_⟩
  · rw [jobStatus_apply, h]
    rfl
  · intro c' e' r' s' h' hs' same
    rw [jobStatus_apply, h'] at hs'
    cases hs'
    exact views.lossless (JobReport.views_jobStatus (fits_of_getJob h') asked) same

/-- A job of no address that has failed for a reason that is not told. -/
def untoldReason : Exchange :=
  answering 200 "<job><status>ERROR</status><error_messages><error/></error_messages></job>"

theorem jobStatus_determines_report_untoldReason :
    ∃ s, (exampleClient.jobStatus "17" untoldReason).1 = .ok s ∧ s.jobId = "17" ∧
      s.detail? "status" = some (.text "ERROR") ∧ s.detail? "start_time" = none ∧
      s.detail? "error_messages" = some (.texts [""]) := by
  let a : Answer := ⟨200, Text.toUtf8
    "<job><status>ERROR</status><error_messages><error/></error_messages></job>".toList⟩
  have sendable : exampleClient.CanSend "/jobs/17".toList 1000000 :=
    exampleClient_canSend (by decide +kernel)
  have path : "/jobs/".toList ++ "17".toList = "/jobs/17".toList := by decide +kernel
  obtain ⟨_, _, _, _, hprepare⟩ := sendable.exists_prepare
  have request : ∃ r, (Operation.getJob "17").request exampleClient 1000000 = .ok r := by
    rw [Operation.request, path]
    exact ⟨_, hprepare .get none⟩
  obtain ⟨_, request⟩ := request
  have read : (Operation.getJob "17").read a.body =
      .ok { state := "ERROR", errorMessages := [""] } := by decide +kernel
  have reported : (exampleClient.getJob "17" untoldReason).1 =
      .ok { state := "ERROR", errorMessages := [""] } := by
    have called : ((Operation.getJob "17").call exampleClient untoldReason).1 =
        ((Operation.getJob "17").read a.body).mapError (unreadable a) :=
      call_read request rfl rfl
    rw [read] at called
    exact called
  obtain ⟨s, hs, views, -⟩ := jobStatus_determines_report reported
  have unnamed : JobReport.id { state := "ERROR", errorMessages := [""] } = "" := by
    decide +kernel
  have jobId := views.jobId
  rw [unnamed, if_pos rfl] at jobId
  exact ⟨s, congrArg Prod.fst hs, jobId, views.state, views.started, views.errorMessages⟩

end Client
end Conductor
end Transcoding
