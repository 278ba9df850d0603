import Transcoding.Proofs.Conductor.Factory
import Transcoding.Proofs.Registry
import Transcoding.Proofs.Service.Submission
import Transcoding.Proofs.Service.Route

/-!
The names of providers are the same wherever the service deals with them. Whatever was registered
and removed before, the two lists of names agree, and a name that is not in them is the only one
that a job or the health of a provider is not found for.
-/

namespace Transcoding

namespace Registry

variable {α : Type}

/-- What is found in a registry after some actions was in it before, or was registered by one of
them. -/
theorem exists_of_find?_after {r : Registry α} {past : List (Action α)} {name : String}
    {factory : α} (h : (r.after past).find? name = some factory) :
    (∃ name, r.find? name = some factory) ∨ ∃ name, .register name (some factory) ∈ past := by
  induction past generalizing r with
  | nil => exact .inl ⟨name, h⟩
  | cons a rest ih =>
      obtain ⟨name, hname⟩ | ⟨name, hname⟩ := ih h
      · obtain hnew | ⟨hold, -⟩ := (find?_act_iff r a name factory).1 hname
        · cases (Prod.mk.inj hnew).1
          exact .inr ⟨name, List.mem_cons_self⟩
        · exact .inl ⟨name, hold⟩
      · exact .inr ⟨name, List.mem_cons_of_mem _ hname⟩

end Registry

namespace Service

open Conductor (answering)

/-- Whether an answer says that a provider is not found. -/
def IsNotFound (answer : Except Defect Response) : Prop :=
  ∃ detail, answer = .ok (errorAnswer 404 "ProviderNotFoundError" detail)

/-- No other failure has this status. -/
theorem reportFailure_eq_notFound_iff {f : Failure} :
    (∃ detail, reportFailure f = errorAnswer 404 "ProviderNotFoundError" detail) ↔
      ∃ name, f = .providerNotFound name := by
  constructor
  · rintro ⟨detail, h⟩
    have status : statusOf f.kind = 404 := congrArg Response.status h
    cases f with
    | providerNotFound name => exact ⟨name, rfl⟩
    | plain _ | unnamedProvider | uncallableFactory _ | alreadyRegistered _ | missingSettings _
    | invalidConfig _ | presetNotFound _ _ | transport _ | capacity _ _ => cases status
  · rintro ⟨name, rfl⟩
    exact ⟨_, rfl⟩

theorem isNotFound_settle_iff {came : Except Problem Response × Exchange}
    (h : ∀ response, came.1 = .ok response → response.status ≠ 404) :
    IsNotFound (settle came).1 ↔ ∃ name, came.1 = .error (.failure (.providerNotFound name)) := by
  obtain ⟨outcome, e⟩ := came
  match outcome, h with
  | .ok response, h =>
      refine ⟨?_, nofun⟩
      rintro ⟨detail, hdetail⟩
      exact absurd (congrArg Response.status (Except.ok.inj hdetail)) (h response rfl)
  | .error (.failure f), _ =>
      have answered : IsNotFound (settle (.error (.failure f), e)).1 ↔
          ∃ detail, reportFailure f = errorAnswer 404 "ProviderNotFoundError" detail :=
        exists_congr fun detail => ⟨fun h => Except.ok.inj h, fun h => congrArg Except.ok h⟩
      rw [answered, reportFailure_eq_notFound_iff]
      refine exists_congr fun name => ?_
      simp only [Except.error.injEq, Problem.failure.injEq]
  | .error (.defect d), _ => exact ⟨nofun, nofun⟩

/-- Whether something that is asked of a provider is never answered for want of a provider. -/
structure Innocent (asked : Provider → Call Response) (p : Provider) : Prop where
  failure : (asked p).NeverNotFound
  status : ∀ e response, (asked p e).1 = .ok response → response.status ≠ 404

theorem innocent_tell {α : Type} {asked : Provider → Call α} {told : α → Response} {p : Provider}
    (hasked : (asked p).NeverNotFound) (htold : ∀ a, (told a).status ≠ 404) :
    Innocent (fun p => do return told (← asked p)) p where
  failure := .bind hasked fun _ => .pure _
  status e response hresponse := by
    rw [tell_apply] at hresponse
    cases hanswer : (asked p e).1 with
    | error problem =>
        rw [hanswer] at hresponse
        cases hresponse
    | ok a =>
        rw [hanswer] at hresponse
        cases hresponse
        exact htold a

theorem innocent_create (r : TranscodeRequest) {p : Provider} (h : p.NeverNotFound) :
    Innocent (create r) p :=
  innocent_tell (h.transcode r.source r.presets) fun _ => nofun

theorem innocent_query (jobId : String) {p : Provider} (h : p.NeverNotFound) :
    Innocent (query jobId) p :=
  innocent_tell (h.jobStatus jobId) fun _ => nofun

theorem healthcheck_of_examine_error {name : String} {p : Provider} {e : Exchange}
    {problem : Problem} (h : (examine name p e).1 = .error problem) :
    (p.healthcheck e).1 = .error problem := by
  rw [examine_apply] at h
  rcases hran : p.healthcheck e with ⟨(f | d) | u, e'⟩
  · rw [hran] at h
    -- Only a lack of capacity is told otherwise.
    cases f with
    | capacity _ _ => cases h
    | plain _ | unnamedProvider | uncallableFactory _ | alreadyRegistered _ | missingSettings _
    | invalidConfig _ | providerNotFound _ | presetNotFound _ _ | transport _ =>
        exact congrArg Except.error (Except.error.inj h)
  · rw [hran] at h
    exact congrArg Except.error (Except.error.inj h)
  · rw [hran] at h
    cases h

theorem innocent_examine (name : String) {p : Provider} (h : p.NeverNotFound) :
    Innocent (examine name) p := by
  refine ⟨fun e n hn => h.healthcheck e n (healthcheck_of_examine_error hn),
    fun e response hresponse => ?_⟩
  rw [examine_apply] at hresponse
  split at hresponse
  · cases hresponse
    exact nofun
  · cases hresponse
    exact nofun
  · cases hresponse

/-- What is asked of a provider by a name is answered for want of a provider if and only if nobody
has the name. -/
theorem isNotFound_ask_iff {s : Service} {name : String} {asked : Provider → Call Response}
    (hmade : ∀ factory, s.registry.find? name = some factory →
      ∀ n, factory s.settings ≠ .error (.providerNotFound n))
    (hasked : ∀ p, s.provider name = .ok p → Innocent asked p) (e : Exchange) :
    IsNotFound (settle (match s.provider name with
      | .ok p => asked p e
      | .error f => (.error (.failure f), e))).1 ↔ name ∉ s.registry.names := by
  cases hfind : s.registry.find? name with
  | none =>
      have unknown : name ∉ s.registry.names := Registry.not_mem_names_iff.2 hfind
      rw [provider_eq, hfind]
      exact ⟨fun _ => unknown, fun _ => ⟨_, rfl⟩⟩
  | some factory =>
      have known : name ∈ s.registry.names := Registry.mem_names_iff.2 ⟨factory, hfind⟩
      refine ⟨fun h => ?_, fun h => absurd known h⟩
      have made := hmade factory hfind
      have provided : s.provider name = factory s.settings := by rw [provider_eq, hfind]
      cases hp : s.provider name with
      | ok p =>
          rw [hp] at h
          have innocent := hasked p hp
          obtain ⟨n, hn⟩ := (isNotFound_settle_iff (innocent.status e)).1 h
          exact absurd hn (innocent.failure e n)
      | error f =>
          rw [hp] at h
          have unanswered (response : Response)
              (hr : (Except.error (.failure f) : Except Problem Response) = .ok response) :
              response.status ≠ 404 := nomatch hr
          obtain ⟨n, hn⟩ := (isNotFound_settle_iff unanswered).1 h
          cases hn
          exact absurd (provided.symm.trans hp) (made n)

/-- Every factory in the registry of the service after some actions is built in or was registered by
one of them. -/
theorem neverNotFound_of_find? {past : List (Registry.Action ProviderFactory)}
    (hpast : ∀ name factory, .register name (some factory) ∈ past →
      ProviderFactory.NeverNotFound factory) {name : String} {factory : ProviderFactory}
    (h : (initialRegistry.after past).find? name = some factory) :
    ProviderFactory.NeverNotFound factory := by
  obtain ⟨name, hname⟩ | ⟨name, hname⟩ := Registry.exists_of_find?_after h
  · rw [Registry.initialRegistry_eq] at hname
    have builtin := List.mem_singleton.1 (Registry.find?_eq_some_iff.1 hname)
    rw [(Prod.mk.inj builtin).2]
    exact Conductor.factory_neverNotFound
  · exact hpast name factory hname

theorem exists_factory_of_provider {s : Service} {name : String} {p : Provider}
    (h : s.provider name = .ok p) :
    ∃ factory, s.registry.find? name = some factory ∧ factory s.settings = .ok p := by
  rw [provider_eq] at h
  cases hfind : s.registry.find? name with
  | none =>
      rw [hfind] at h
      cases h
  | some factory =>
      rw [hfind] at h
      exact ⟨factory, rfl, h⟩

/-- Whether some target asks for a path. -/
def Reachable (path : List Char) : Prop :=
  ∃ target : String, pathOf target.toList = path

theorem reachable (path : List Char) : Reachable path :=
  ⟨String.ofList (targetOf path), by rw [String.toList_ofList, pathOf_targetOf]⟩

/-- At every point of a run the two lists of names are the same, and a provider is not found exactly
if its name is not in them, whatever it is asked for. Jobs and health can be asked for under every
name. -/
theorem not_found_iff_not_listed (past : List (Registry.Action ProviderFactory))
    (hpast : ∀ name factory, .register name (some factory) ∈ past →
      ProviderFactory.NeverNotFound factory) (settings : Settings) (nesting : Nesting) :
    let s : Service := ⟨initialRegistry.after past, settings, nesting⟩
    let names := s.registry.names
    ∀ (e : Exchange) (body : Body),
      s.handle ⟨"GET", "/providers", body⟩ e =
        (.ok ⟨200, .object [("providers", .array (names.map .string))]⟩, e) ∧
      s.handle ⟨"GET", "/health", body⟩ e =
        (.ok ⟨200, .object [("status", .string "ok"), ("version", .string version),
          ("providers", .array (names.map .string))]⟩, e) ∧
      (∀ r, body.Describes nesting.read r →
        (IsNotFound (s.handle ⟨"POST", "/jobs", body⟩ e).1 ↔ r.provider ∉ names)) ∧
      ∀ name : String, name ≠ "" → '/' ∉ name.toList →
        (∀ jobId, jobId ≠ [] → '/' ∉ jobId → Reachable (jobPath name.toList jobId) ∧
          ∀ target : String, pathOf target.toList = jobPath name.toList jobId →
            (IsNotFound (s.handle ⟨"GET", target, body⟩ e).1 ↔ name ∉ names)) ∧
        Reachable (healthPath name.toList) ∧
        ∀ target : String, pathOf target.toList = healthPath name.toList →
          (IsNotFound (s.handle ⟨"GET", target, body⟩ e).1 ↔ name ∉ names) := by
  intro s names e body
  have never (name : String) (factory : ProviderFactory)
      (h : s.registry.find? name = some factory) : ProviderFactory.NeverNotFound factory :=
    neverNotFound_of_find? hpast h
  have provided (name : String) (p : Provider) (h : s.provider name = .ok p) :
      p.NeverNotFound := by
    obtain ⟨factory, hfind, hp⟩ := exists_factory_of_provider h
    exact (never name factory hfind).provider s.settings p hp
  have asked (name : String) (what : Provider → Call Response)
      (h : ∀ p, s.provider name = .ok p → Innocent what p) :
      IsNotFound (settle (match s.provider name with
        | .ok p => what p e
        | .error f => (.error (.failure f), e))).1 ↔ name ∉ names :=
    isNotFound_ask_iff (fun factory hfind => (never name factory hfind).made s.settings) h e
  have get : String.ofList (Text.toUpper "GET".toList) = "GET" := by decide +kernel
  have nonempty {name : String} (h : name ≠ "") : name.toList ≠ [] :=
    fun hnil => h (String.toList_eq_nil_iff.1 hnil)
  refine ⟨?_, ?_, fun r hr => ?_, fun name hname hslash => ⟨fun jobId hid hidSlash =>
    ⟨reachable _, fun target hpath => ?_⟩, reachable _, fun target hpath => ?_⟩⟩
  · have found : route "GET" (pathOf "/providers".toList) = .found .listProviders := by
      decide +kernel
    exact handle_of_route get (by decide) found e
  · have found : route "GET" (pathOf "/health".toList) = .found .health := by decide +kernel
    exact handle_of_route get (by decide) found e
  · rw [handle_createJob, createJob_of_describes hr, ask_apply]
    exact asked r.provider _ fun p hp => innocent_create r (provided _ p hp)
  · have found := route_jobPath (nonempty hname) hslash hid hidSlash
    rw [← hpath] at found
    rw [handle_of_route get (by decide) found, serve, String.ofList_toList, ask_apply]
    exact asked name _ fun p hp => innocent_query _ (provided _ p hp)
  · have found := route_healthPath (nonempty hname) hslash
    rw [← hpath] at found
    rw [handle_of_route get (by decide) found, serve, String.ofList_toList, ask_apply]
    exact asked name _ fun p hp => innocent_examine name (provided _ p hp)

/-- A provider of another kind. -/
def exampleProvider : Provider where
  transcode _ _ := pure ⟨"caf\u00e9", "1", .queued, []⟩
  jobStatus jobId := pure ⟨"caf\u00e9", jobId, .started, []⟩
  healthcheck := pure ()

/-- The provider that is built in is replaced, and replaced again in vain. -/
def exampleActions : List (Registry.Action ProviderFactory) := [
  .register "caf\u00e9" (some fun _ => .ok exampleProvider),
  .unregister "elementalconductor",
  .register "caf\u00e9" (some fun _ => .ok exampleProvider),
  .register "" none]

theorem not_found_iff_not_listed_exampleActions :
    let s : Service := ⟨initialRegistry.after exampleActions, {}, ⟨60, 30⟩⟩
    let e := answering 201 "<job/>"
    s.handle ⟨"GET", "/providers", exampleBody⟩ e =
        (.ok ⟨200, .object [("providers", .array [.string "caf\u00e9"])]⟩, e) ∧
      s.handle ⟨"GET", "/health", exampleBody⟩ e =
        (.ok ⟨200, .object [("status", .string "ok"), ("version", .string "0.1.0"),
          ("providers", .array [.string "caf\u00e9"])]⟩, e) ∧
      IsNotFound (s.handle ⟨"POST", "/jobs", exampleBody⟩ e).1 ∧
      ¬IsNotFound (s.handle ⟨"GET", "/jobs/caf%C3%A9/17", exampleBody⟩ e).1 ∧
      ¬IsNotFound (s.handle ⟨"GET", "/providers/caf%C3%A9/health", exampleBody⟩ e).1 := by
  intro s e
  have never : ProviderFactory.NeverNotFound fun _ => .ok exampleProvider := by
    refine ⟨fun _ _ => nofun, ?_⟩
    rintro _ _ ⟨⟩
    exact ⟨fun _ _ => .pure _, fun _ => .pure _, .pure _⟩
  have registered (name : String) (factory : ProviderFactory)
      (h : .register name (some factory) ∈ exampleActions) :
      ProviderFactory.NeverNotFound factory := by
    have same : name = "caf\u00e9" ∧ factory = fun _ => .ok exampleProvider := by
      simpa [exampleActions] using h
    rw [same.2]
    exact never
  have names : s.registry.names = ["caf\u00e9"] := by decide +kernel
  have known : ¬"caf\u00e9" ∉ s.registry.names := by
    rw [names]
    decide
  obtain ⟨listed, healthy, submitted, asked⟩ :=
    not_found_iff_not_listed exampleActions registered {} ⟨60, 30⟩ e exampleBody
  obtain ⟨queried, -, examined⟩ := asked "caf\u00e9" (by decide) (by decide +kernel)
  have job : pathOf "/jobs/caf%C3%A9/17".toList = jobPath "caf\u00e9".toList "17".toList := by
    decide +kernel
  have health : pathOf "/providers/caf%C3%A9/health".toList = healthPath "caf\u00e9".toList := by
    decide +kernel
  rw [names] at listed healthy
  refine ⟨listed, healthy, (submitted exampleRequest exampleBody_describes).2 ?_,
    fun h => known ?_, fun h => known ?_⟩
  · rw [names]
    decide +kernel
  · exact ((queried "17".toList (by decide) (by decide)).2 _ job).1 h
  · exact (examined _ health).1 h

end Service
end Transcoding
