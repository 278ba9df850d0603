import Transcoding.Conductor.Provider
import Transcoding.Proofs.Conductor.Client
import Transcoding.Proofs.Conductor.Submission

/-!
What it takes to make a client from the settings, which of them are missing otherwise, and how a
provider with a client can fail. It is never for want of a provider.
-/

namespace Transcoding

/-- Whether all settings of the Conductor are given. -/
structure ConductorSettings.Complete (s : ConductorSettings) : Prop where
  host : s.host ≠ ""
  userLogin : s.userLogin ≠ ""
  apiKey : s.apiKey ≠ ""
  authExpires : s.authExpires ≠ 0
  awsAccessKeyId : s.awsAccessKeyId ≠ ""
  awsSecretAccessKey : s.awsSecretAccessKey ≠ ""
  destination : s.destination ≠ ""

/-- Whether the setting that an environment variable stands for is not given. -/
inductive ConductorSettings.Lacks (s : ConductorSettings) : String → Prop
  | host : s.host = "" → s.Lacks "ELEMENTALCONDUCTOR_HOST"
  | userLogin : s.userLogin = "" → s.Lacks "ELEMENTALCONDUCTOR_USER_LOGIN"
  | apiKey : s.apiKey = "" → s.Lacks "ELEMENTALCONDUCTOR_API_KEY"
  | authExpires : s.authExpires = 0 → s.Lacks "ELEMENTALCONDUCTOR_AUTH_EXPIRES"
  | awsAccessKeyId : s.awsAccessKeyId = "" → s.Lacks "ELEMENTALCONDUCTOR_AWS_ACCESS_KEY_ID"
  | awsSecretAccessKey :
      s.awsSecretAccessKey = "" → s.Lacks "ELEMENTALCONDUCTOR_AWS_SECRET_ACCESS_KEY"
  | destination : s.destination = "" → s.Lacks "ELEMENTALCONDUCTOR_DESTINATION"

theorem ConductorSettings.mem_missing_iff {s : ConductorSettings} {v : String} :
    v ∈ s.missing ↔ s.Lacks v := by
  simp only [missing, List.mem_filterMap, List.mem_cons, List.not_mem_nil, or_false,
    Option.ite_none_right_eq_some, Option.some.injEq]
  constructor
  · rintro ⟨_, rfl | rfl | rfl | rfl | rfl | rfl | rfl, absent, rfl⟩
    · exact .host (String.isEmpty_iff.1 absent)
    · exact .userLogin (String.isEmpty_iff.1 absent)
    · exact .apiKey (String.isEmpty_iff.1 absent)
    · exact .authExpires (beq_iff_eq.1 absent)
    · exact .awsAccessKeyId (String.isEmpty_iff.1 absent)
    · exact .awsSecretAccessKey (String.isEmpty_iff.1 absent)
    · exact .destination (String.isEmpty_iff.1 absent)
  · intro h
    cases h with
    | host h | userLogin h | apiKey h | authExpires h | awsAccessKeyId h | awsSecretAccessKey h
    | destination h => simp [h]

theorem ConductorSettings.missing_eq_nil_iff {s : ConductorSettings} :
    s.missing = [] ↔ s.Complete := by
  rw [List.eq_nil_iff_forall_not_mem]
  simp only [mem_missing_iff]
  constructor
  · intro given
    exact ⟨fun h => given _ (.host h), fun h => given _ (.userLogin h),
      fun h => given _ (.apiKey h), fun h => given _ (.authExpires h),
      fun h => given _ (.awsAccessKeyId h), fun h => given _ (.awsSecretAccessKey h),
      fun h => given _ (.destination h)⟩
  · intro complete v lacks
    cases lacks with
    | host h => exact complete.host h
    | userLogin h => exact complete.userLogin h
    | apiKey h => exact complete.apiKey h
    | authExpires h => exact complete.authExpires h
    | awsAccessKeyId h => exact complete.awsAccessKeyId h
    | awsSecretAccessKey h => exact complete.awsSecretAccessKey h
    | destination h => exact complete.destination h

namespace Conductor

theorem factory_of_not_complete {s : Settings} (h : ¬s.conductor.Complete) :
    factory s = .error (.missingSettings s.conductor.missing) := by
  rw [factory, Client.ofSettings]
  cases hmissing : s.conductor.missing with
  | nil => exact absurd (ConductorSettings.missing_eq_nil_iff.1 hmissing) h
  | cons name names => rfl

theorem factory_of_complete {s : Settings} (h : s.conductor.Complete) :
    ∃ c, Client.ofSettings s = .ok c ∧ factory s = .ok c.provider := by
  rw [factory, Client.ofSettings, ConductorSettings.missing_eq_nil_iff.2 h]
  exact ⟨_, rfl, rfl⟩

theorem complete_of_ofSettings {s : Settings} {c : Client} (h : Client.ofSettings s = .ok c) :
    s.conductor.Complete := by
  by_contra incomplete
  have made : factory s = .ok c.provider := by
    rw [factory, h]
    rfl
  rw [factory_of_not_complete incomplete] at made
  cases made

end Conductor

/-- Whether a call never fails for want of a provider. -/
def Call.NeverNotFound {α : Type} (x : Call α) : Prop :=
  ∀ e name, (x e).1 ≠ .error (.failure (.providerNotFound name))

namespace Call.NeverNotFound

variable {α β ε : Type}

theorem pure (a : α) : Call.NeverNotFound (pure a) :=
  fun _ _ => nofun

theorem ofExcept {problem : ε → Problem} {x : Except ε α}
    (h : ∀ f name, x = .error f → problem f ≠ .failure (.providerNotFound name)) :
    Call.NeverNotFound (Call.ofExcept problem x) := by
  intro e name hx
  rw [ofExcept_apply] at hx
  cases x with
  | ok a => cases hx
  | error f => exact h f name rfl (Except.error.inj hx)

theorem bind {x : Call α} {f : α → Call β} (hx : x.NeverNotFound)
    (hf : ∀ a, (f a).NeverNotFound) : (x >>= f).NeverNotFound := by
  intro e name
  have first := hx e name
  rw [bind_apply]
  generalize x e = ran at first ⊢
  match ran, first with
  | (.ok a, e'), _ => exact hf a e' name
  | (.error _, _), first => exact fun h => first (congrArg Except.error (Except.error.inj h))

end Call.NeverNotFound

/-- Whether nothing that a provider is asked fails for want of a provider. -/
structure Provider.NeverNotFound (p : Provider) : Prop where
  transcode : ∀ source presets, (p.transcode source presets).NeverNotFound
  jobStatus : ∀ jobId, (p.jobStatus jobId).NeverNotFound
  healthcheck : p.healthcheck.NeverNotFound

/-- Whether a factory never fails for want of a provider, and neither do its providers. -/
structure ProviderFactory.NeverNotFound (f : Settings → Except Failure Provider) : Prop where
  made : ∀ s name, f s ≠ .error (.providerNotFound name)
  provider : ∀ s p, f s = .ok p → p.NeverNotFound

namespace Conductor

namespace Client

variable {α : Type}

theorem Operation.neverNotFound (op : Operation α) (c : Client) : (op.call c).NeverNotFound := by
  intro e name h
  obtain ⟨fault, hfault⟩ | ⟨d, hd⟩ := op.call_error h
  · cases hfault
  · cases hd

/-- A job is only kept from being built by a preset that cannot be had. -/
theorem buildJob_error {c : Client} {source : String} {presets : List Preset} {f : Failure}
    (h : c.buildJob source presets = .error f) :
    ∃ p, presets.find? isUnmapped = some p ∧ f = .presetNotFound p.name providerName := by
  rw [buildJob] at h
  cases hfind : presets.find? isUnmapped with
  | some p =>
      rw [Job.ofPresets_of_find? hfind] at h
      cases h
      exact ⟨p, rfl, rfl⟩
  | none =>
      obtain ⟨job, hjob, -⟩ := Job.exists_ofPresets hfind c.storage source
      rw [hjob] at h
      cases h

theorem transcode_neverNotFound (c : Client) (source : String) (presets : List Preset) :
    (c.transcode source presets).NeverNotFound := by
  refine .bind (.ofExcept fun f name hf => ?_) fun job =>
    .bind ((Operation.postJob job).neverNotFound c) fun _ => .pure _
  obtain ⟨p, -, rfl⟩ := buildJob_error hf
  exact nofun

theorem healthcheck_neverNotFound (c : Client) : c.healthcheck.NeverNotFound := by
  refine .bind (Operation.getNodes.neverNotFound c) fun nodes =>
    .bind (Operation.getCloudConfig.neverNotFound c) fun config => ?_
  dsimp only
  split
  · exact fun _ _ => nofun
  · exact .pure _

theorem provider_neverNotFound (c : Client) : c.provider.NeverNotFound where
  transcode := c.transcode_neverNotFound
  jobStatus jobId := .bind ((Operation.getJob jobId).neverNotFound c) fun _ => .pure _
  healthcheck := c.healthcheck_neverNotFound

end Client

theorem factory_cases (s : Settings) :
    (∃ c : Client, factory s = .ok c.provider) ∨
      factory s = .error (.missingSettings s.conductor.missing) := by
  by_cases complete : s.conductor.Complete
  · obtain ⟨c, -, hc⟩ := factory_of_complete complete
    exact .inl ⟨c, hc⟩
  · exact .inr (factory_of_not_complete complete)

/-- The provider that is built in never fails for want of a provider. -/
theorem factory_neverNotFound : ProviderFactory.NeverNotFound factory where
  made s name h := by
    obtain ⟨c, hc⟩ | missing := factory_cases s
    · rw [hc] at h
      cases h
    · rw [missing] at h
      cases h
  provider s p hp := by
    obtain ⟨c, hc⟩ | missing := factory_cases s
    · rw [hc] at hp
      cases hp
      exact c.provider_neverNotFound
    · rw [missing] at hp
      cases hp

end Conductor
end Transcoding
