import Transcoding.Proofs.Conductor.Factory
import Transcoding.Proofs.Conductor.Healthcheck
import Transcoding.Proofs.Registry
import Transcoding.Proofs.Service.Answer
import Transcoding.Proofs.Service.Route
import Transcoding.Proofs.Service.Submission

/-!
What becomes of a request for the health of a provider. A lack of capacity is the only failure that
is told as the health of the provider, and no other answer has its status; every other failure is
reported as such. A provider is only told to be healthy if its healthcheck passed.
-/

namespace Transcoding.Service

open Conductor

/-- The answer that tells of the health of a provider. -/
def healthAnswer (status : Nat) (name : String) (healthy : Bool) (message : String) : Response :=
  ⟨status, .object [("provider", .string name), ("healthy", .bool healthy),
    ("message", .string message)]⟩

/-- The two kinds of answers cannot be mistaken for each other. -/
theorem healthAnswer_ne_errorAnswer {status status' : Nat} {name message : String} {healthy : Bool}
    (error detail : String) :
    healthAnswer status name healthy message ≠ errorAnswer status' error detail := by
  intro h
  cases congrArg (·.body.get? "healthy") h

/-- Whether an answer says that something is healthy. -/
def SaysHealthy (answer : Except Defect Response) : Prop :=
  ∃ response, answer = .ok response ∧ response.body.get? "healthy" = some (.bool true)

theorem saysHealthy_healthAnswer_iff {status : Nat} {name message : String} {healthy : Bool} :
    SaysHealthy (.ok (healthAnswer status name healthy message)) ↔ healthy = true := by
  have said : (healthAnswer status name healthy message).body.get? "healthy" =
      some (.bool healthy) := rfl
  constructor
  · rintro ⟨response, hresponse, h⟩
    cases hresponse
    rw [said] at h
    cases h
    rfl
  · rintro rfl
    exact ⟨_, rfl, said⟩

theorem not_saysHealthy_reportFailure (f : Failure) : ¬SaysHealthy (.ok (reportFailure f)) := by
  rintro ⟨response, hresponse, h⟩
  cases hresponse
  cases h

/-- Whether an answer with the status of a lack of capacity, if it is one, tells of the health of a
provider and is no report of an error. -/
def TellsOfHealth (name : String) (answer : Except Defect Response) : Prop :=
  ∀ response, answer = .ok response → response.status = 503 →
    (∃ message, response = healthAnswer 503 name false message) ∧
      ∀ error detail, response ≠ errorAnswer 503 error detail

theorem tellsOfHealth_reportFailure {name : String} {f : Failure} (h : f.kind ≠ .capacity) :
    TellsOfHealth name (.ok (reportFailure f)) := by
  intro response hresponse hstatus
  cases hresponse
  have status : statusOf f.kind = 503 := hstatus
  generalize f.kind = kind at h status
  cases kind with
  | capacity => exact absurd rfl h
  | general | invalidConfig | providerNotFound | presetNotFound | transport => cases status

/-- What a caller is told of the outcome of a healthcheck. -/
def healthOf (name : String) : Except Problem Unit → Except Defect Response
  | .ok _ => .ok (healthAnswer 200 name true "")
  | .error (.failure f) =>
      .ok (if f.kind = .capacity then healthAnswer 503 name false f.message else reportFailure f)
  | .error (.defect d) => .error d

theorem settle_examine (name : String) (p : Provider) (e : Exchange) :
    settle (examine name p e) = (healthOf name (p.healthcheck e).1, (p.healthcheck e).2) := by
  rw [examine_apply]
  rcases p.healthcheck e with ⟨(f | d) | _, e'⟩
  · cases f <;> rfl
  · rfl
  · rfl

theorem saysHealthy_healthOf_iff {name : String} {outcome : Except Problem Unit} :
    SaysHealthy (healthOf name outcome) ↔ outcome = .ok () := by
  match outcome with
  | .ok () => exact iff_of_true (saysHealthy_healthAnswer_iff.2 rfl) rfl
  | .error (.failure f) =>
      refine iff_of_false ?_ nofun
      rw [healthOf]
      split
      · exact fun h => Bool.noConfusion (saysHealthy_healthAnswer_iff.1 h)
      · exact not_saysHealthy_reportFailure f
  | .error (.defect d) => exact iff_of_false nofun nofun

theorem tellsOfHealth_healthOf (name : String) (outcome : Except Problem Unit) :
    TellsOfHealth name (healthOf name outcome) := by
  match outcome with
  | .ok () =>
      intro response hresponse hstatus
      cases hresponse
      cases hstatus
  | .error (.failure f) =>
      rw [healthOf]
      split
      · intro response hresponse _
        cases hresponse
        exact ⟨⟨_, rfl⟩, healthAnswer_ne_errorAnswer⟩
      · next other => exact tellsOfHealth_reportFailure other
  | .error (.defect d) => exact nofun

theorem handle_providerHealth {s : Service} {name target : String} (hname : name ≠ "")
    (hslash : '/' ∉ name.toList) (htarget : pathOf target.toList = healthPath name.toList)
    (body : Body) (e : Exchange) :
    s.handle ⟨"GET", target, body⟩ e =
      match s.provider name with
      | .ok p => settle (examine name p e)
      | .error f => (.ok (reportFailure f), e) := by
  have get : String.ofList (Text.toUpper "GET".toList) = "GET" := by decide +kernel
  have named : name.toList ≠ [] := fun hnil => hname (String.toList_eq_nil_iff.1 hnil)
  have found := route_healthPath named hslash
  rw [← htarget] at found
  rw [handle_of_route get (by decide) found, serve, String.ofList_toList, ask_apply]
  cases s.provider name with
  | ok p | error f => rfl

theorem healthOf_verdict (name : String) (m : Int) (k : Nat) :
    healthOf name (verdict m k) = .ok (if (k : Int) < m then
        healthAnswer 503 name false (Failure.capacity m k).message
      else healthAnswer 200 name true "") := by
  rw [verdict]
  split
  · rfl
  · rfl

/-- What a caller is told of the healthcheck of a client is known from what the client asks for. -/
theorem settle_examine_client (name : String) (c : Client) (e : Exchange) :
    (settle (examine name c.provider e)).2 = (c.survey e).2 ∧
      match (c.survey e).1 with
      | .error (.failure (.transport fault)) => (settle (examine name c.provider e)).1 =
          .ok (errorAnswer 502 "TransportError" fault.message)
      | .ok _ => ∃ m k, Shows e m k ∧ (settle (examine name c.provider e)).1 = .ok
          (if (k : Int) < m then healthAnswer 503 name false (Failure.capacity m k).message
          else healthAnswer 200 name true "")
      | .error (.failure _) => False
      | .error (.defect d) => (settle (examine name c.provider e)).1 = .error d := by
  have healthcheck : c.provider.healthcheck = c.healthcheck := rfl
  rw [settle_examine, healthcheck]
  cases hsurvey : (c.survey e).1 with
  | error problem =>
      rw [Client.healthcheck_of_survey_error hsurvey]
      obtain ⟨fault, rfl⟩ | ⟨d, rfl⟩ := Client.survey_error hsurvey
      · exact ⟨rfl, rfl⟩
      · exact ⟨rfl, rfl⟩
  | ok found =>
      have shows := Client.shows_of_survey hsurvey
      rw [Client.healthcheck_of_shows hsurvey shows]
      exact ⟨rfl, _, _, shows, healthOf_verdict name _ _⟩

/-- The first of these that applies decides the answer to a request for the health of a provider:
nobody has the name, a setting of the Conductor is missing, one of the two calls to the backend
fails, or there are fewer active servers than required. If none does, and only then, the provider is
told to be healthy. No backend is asked before a client is made. -/
theorem health_answered_by_first_fault (s : Service) {name target : String} (hname : name ≠ "")
    (hslash : '/' ∉ name.toList) (htarget : pathOf target.toList = healthPath name.toList)
    (hbound : name ∉ s.registry.names ∨ s.registry.find? name = some Conductor.factory)
    (body : Body) (e : Exchange) :
    let answer := s.handle ⟨"GET", target, body⟩ e
    (name ∉ s.registry.names → answer = (.ok (errorAnswer 404 "ProviderNotFoundError"
      (Failure.providerNotFound name).message), e)) ∧
    (name ∈ s.registry.names → ¬s.settings.conductor.Complete → ∃ missing,
      (∀ v, v ∈ missing ↔ s.settings.conductor.Lacks v) ∧
      answer = (.ok (errorAnswer 400 "InvalidConfigError"
        ("missing Elemental Conductor configuration. Please define the environment variables " ++
          ", ".intercalate missing ++ " or set these values in the .env file")), e)) ∧
    (name ∈ s.registry.names → s.settings.conductor.Complete →
      ∃ c, Client.ofSettings s.settings = .ok c ∧ answer.2 = (c.survey e).2 ∧
        match (c.survey e).1 with
        | .error (.failure (.transport fault)) =>
            answer.1 = .ok (errorAnswer 502 "TransportError" fault.message)
        | .ok _ => ∃ m k, Shows e m k ∧ answer.1 = .ok (if (k : Int) < m then
              healthAnswer 503 name false ("there are not enough active nodes. " ++
                String.ofList (Numeral.ofInt m) ++
                " nodes required to be active, but found only " ++
                String.ofList (Numeral.ofInt k))
            else healthAnswer 200 name true "")
        | .error (.failure _) => False
        | .error (.defect d) => answer.1 = .error d) ∧
    (SaysHealthy answer.1 ↔ name ∈ s.registry.names ∧
      ∃ c, Client.ofSettings s.settings = .ok c ∧ (∃ found, (c.survey e).1 = .ok found) ∧
        ∃ m k, Shows e m k ∧ m ≤ k) ∧
    TellsOfHealth name answer.1 := by
  intro answer
  have answer_eq : answer = _ := handle_providerHealth hname hslash htarget body e
  rw [provider_eq] at answer_eq
  rw [answer_eq]
  obtain unknown | builtin := hbound
  · rw [Registry.not_mem_names_iff.1 unknown]
    exact ⟨fun _ => rfl, fun known => absurd known unknown, fun known => absurd known unknown,
      iff_of_false (not_saysHealthy_reportFailure _) fun h => unknown h.1,
      tellsOfHealth_reportFailure nofun⟩
  · have known : name ∈ s.registry.names := Registry.mem_names_iff.2 ⟨_, builtin⟩
    rw [builtin]
    by_cases complete : s.settings.conductor.Complete
    · obtain ⟨c, hc, hfactory⟩ := factory_of_complete complete
      dsimp only
      rw [hfactory]
      dsimp only
      refine ⟨fun unknown => absurd known unknown, fun _ incomplete => absurd complete incomplete,
        fun _ _ => ⟨c, hc, settle_examine_client name c e⟩, ?_, ?_⟩
      · rw [settle_examine, saysHealthy_healthOf_iff]
        refine Client.healthcheck_eq_ok_iff.trans ⟨fun h => ⟨known, c, hc, h⟩, ?_⟩
        rintro ⟨-, c', hc', h⟩
        rw [hc] at hc'
        cases hc'
        exact h
      · rw [settle_examine]
        exact tellsOfHealth_healthOf _ _
    · dsimp only
      rw [factory_of_not_complete complete]
      exact ⟨fun unknown => absurd known unknown,
        fun _ _ => ⟨_, fun v => ConductorSettings.mem_missing_iff, rfl⟩,
        fun _ complete' => absurd complete' complete,
        iff_of_false (not_saysHealthy_reportFailure _) fun ⟨_, _, hc, _⟩ =>
          complete (complete_of_ofSettings hc),
        tellsOfHealth_reportFailure nofun⟩

/-- A backend with one active server where two are required. -/
def exampleBackend : Exchange where
  now := 1000000
  replies := [.answer ⟨200, Text.toUtf8 Client.exampleNodes.toList⟩,
    .answer ⟨200, Text.toUtf8 Client.exampleConfig.toList⟩]

theorem health_answered_by_first_fault_exampleBackend :
    (exampleService.handle ⟨"GET", "/providers/elementalconductor/health", .empty⟩
      exampleBackend).1 = .ok (healthAnswer 503 "elementalconductor" false
        ("there are not enough active nodes. 2 nodes required to be active, " ++
          "but found only 1")) := by
  have target : pathOf "/providers/elementalconductor/health".toList =
      healthPath "elementalconductor".toList := by decide +kernel
  have complete : exampleService.settings.conductor.Complete :=
    ConductorSettings.missing_eq_nil_iff.1 (by decide +kernel)
  obtain ⟨-, -, decided, -⟩ := health_answered_by_first_fault exampleService (by decide)
    (by decide) target (.inr rfl) .empty exampleBackend
  obtain ⟨c, hc, -, h⟩ := decided (by decide) complete
  obtain ⟨c', hc', surveyed⟩ := exists_of_any (x := Client.ofSettings exampleService.settings)
    (p := fun c => (c.survey exampleBackend).1.toOption.any fun found =>
      found.2.minNodes == 2 && found.1.countP Node.isActiveServer == 1) (by decide +kernel)
  rw [hc] at hc'
  cases hc'
  obtain ⟨found, hfound, counts⟩ := exists_of_any surveyed
  obtain ⟨required, active⟩ := Bool.and_eq_true_iff.1 counts
  have shows : Shows exampleBackend 2 1 := by
    rw [← beq_iff_eq.1 required, ← beq_iff_eq.1 active]
    exact Client.shows_of_survey hfound
  rw [hfound] at h
  obtain ⟨m, k, shows', answer⟩ := h
  obtain ⟨rfl, rfl⟩ := shows.unique shows'
  rw [answer, if_pos (by decide)]
  exact congrArg (Except.ok <| healthAnswer 503 "elementalconductor" false ·) (by decide +kernel)

end Transcoding.Service
