import Transcoding.Proofs.Conductor.Factory
import Transcoding.Proofs.Conductor.Fetch
import Transcoding.Proofs.Conductor.Secrecy
import Transcoding.Proofs.Exchange
import Transcoding.Proofs.Failure
import Transcoding.Proofs.Text.Segment

/-!
What becomes of the settings of a Conductor. Those that are not given are told by name; if all are
given, each has its own place in every request that the provider sends and in every job that it
builds.
-/

namespace Transcoding

open Conductor

namespace ConductorSettings

variable {s s' : ConductorSettings}

/-- The environment variables of all settings, in order. -/
def variableNames : List String :=
  ["ELEMENTALCONDUCTOR_HOST", "ELEMENTALCONDUCTOR_USER_LOGIN", "ELEMENTALCONDUCTOR_API_KEY",
    "ELEMENTALCONDUCTOR_AUTH_EXPIRES", "ELEMENTALCONDUCTOR_AWS_ACCESS_KEY_ID",
    "ELEMENTALCONDUCTOR_AWS_SECRET_ACCESS_KEY", "ELEMENTALCONDUCTOR_DESTINATION"]

theorem sublist_filterMap {α : Type} (entries : List (α × Bool)) :
    (entries.filterMap fun (name, absent) => if absent then some name else none).Sublist
      (entries.map (·.1)) := by
  induction entries with
  | nil => exact .slnil
  | cons entry entries ih =>
      obtain ⟨name, absent⟩ := entry
      cases absent with
      | true => exact ih.cons_cons name
      | false => exact ih.cons name

theorem missing_sublist (s : ConductorSettings) : s.missing.Sublist variableNames :=
  sublist_filterMap _

theorem not_mem_comma_of_missing : ∀ name ∈ s.missing, ',' ∉ name.toList := by
  have free : ∀ name ∈ variableNames, ',' ∉ name.toList := by decide
  exact fun name hname => free name (s.missing_sublist.subset hname)

theorem not_complete_iff : ¬s.Complete ↔ ∃ v, s.Lacks v := by
  rw [← missing_eq_nil_iff]
  constructor
  · intro h
    obtain ⟨v, hv⟩ := List.exists_mem_of_ne_nil _ h
    exact ⟨v, mem_missing_iff.1 hv⟩
  · rintro ⟨v, lacks⟩
    exact List.ne_nil_of_mem (mem_missing_iff.2 lacks)

end ConductorSettings

namespace Conductor

/-- Whether a client has every setting in its place. -/
structure Client.Carries (c : Client) (s : Settings) : Prop where
  host : Text.IsBare s.conductor.host.toList c.host.toList
  userLogin : c.userLogin = s.conductor.userLogin
  apiKey : c.apiKey = s.conductor.apiKey
  authExpires : c.authExpires = s.conductor.authExpires
  accessKeyId : c.accessKeyId = s.conductor.awsAccessKeyId
  secretAccessKey : c.secretAccessKey = s.conductor.awsSecretAccessKey
  destination : c.destination = s.conductor.destination
  timeout : c.timeout = s.httpTimeout

theorem Client.ofSettings_carries {s : Settings} {c : Client} (h : Client.ofSettings s = .ok c) :
    c.Carries s := by
  rw [ofSettings, ConductorSettings.missing_eq_nil_iff.2 (complete_of_ofSettings h)] at h
  cases h
  refine ⟨?_, rfl, rfl, rfl, rfl, rfl, rfl, rfl⟩
  rw [tidy, String.toList_ofList]
  exact Text.isBare_dropTrailingSlashes _

/-- Whether a job reads its source and writes its outputs with the credentials that are set, and
below the root that is set. -/
structure Job.UsesStorage (job : Job) (s : ConductorSettings) (source : String) : Prop where
  input : job.input = ⟨source, s.awsAccessKeyId, s.awsSecretAccessKey⟩
  destination : job.outputGroup.destination =
    ⟨Conductor.destination source s.destination, s.awsAccessKeyId, s.awsSecretAccessKey⟩

/-- Whether a request goes to a path below the interface on the host that is set, and is signed with
the login and the key that are set for as long as is set. -/
structure IsSigned (s : ConductorSettings) (now : Int) (path : List Char) (r : Request) : Prop where
  url : ∃ host url, Text.IsBare s.host.toList host ∧
    Url.parse (host ++ "/api".toList ++ path) = .ok url ∧ r.url = String.ofList url.target.text
  user : r.signature.user = s.userLogin
  expires : r.signature.expires = String.ofList (Numeral.ofInt (now + s.authExpires * 60))
  key : r.signature.key = String.ofList (Digest.md5Hex (s.apiKey.toList ++
    Digest.md5Hex (path ++ s.userLogin.toList ++ s.apiKey.toList ++ r.signature.expires.toList)))

/-- The address of a signed request, where the host that is set is a plain one. -/
theorem IsSigned.address {s : ConductorSettings} {now : Int} {path : List Char} {r : Request}
    (h : IsSigned s now path r) {scheme name : List Char} (plain : Url.PlainHost scheme name)
    (hhost : Text.IsBare s.host.toList (scheme ++ "://".toList ++ name))
    (settled : Url.IsSettled ("/api".toList ++ path)) :
    r.url = String.ofList
      ((scheme ++ "://".toList ++ name).map Char.toLower ++ ("/api".toList ++ path)) := by
  obtain ⟨host, url, hbare, hurl, htext⟩ := h.url
  rw [← hbare.eq_dropTrailingSlashes, hhost.eq_dropTrailingSlashes,
    List.append_assoc (_ ++ _)] at hurl
  rw [htext, plain.target_text settled hurl]

/-- Which requests it takes to do what a provider is asked: method, path and body. -/
inductive Takes (s : ConductorSettings) (c : Client) :
    Ask → Method → List Char → Option String → Prop
  | transcode {source : String} {presets : List Preset} {job : Job} {document : List Char}
      (built : c.buildJob source presets = .ok job) (storage : job.UsesStorage s source)
      (written : job.document = .ok document) :
      Takes s c (.transcode source presets) .post "/jobs".toList (some (String.ofList document))
  | jobStatus (jobId : String) :
      Takes s c (.jobStatus jobId) .get ("/jobs/".toList ++ jobId.toList) none
  | nodes : Takes s c .healthcheck .get "/nodes".toList none
  | cloudConfig : Takes s c .healthcheck .get "/configs/cloud".toList none

namespace Client

variable {s : Settings} {c : Client}

theorem Carries.usesStorage (h : c.Carries s) {source : String} {presets : List Preset} {job : Job}
    (built : c.buildJob source presets = .ok job) : job.UsesStorage s.conductor source := by
  obtain ⟨⟨group, assemblies⟩, hmap, hjob⟩ := bind_eq_ok_iff.1 built
  obtain ⟨renditions, -, hgroup⟩ := bind_eq_ok_iff.1 hmap
  cases hgroup
  cases hjob
  constructor
  · rw [← h.accessKeyId, ← h.secretAccessKey]
    rfl
  · rw [← h.accessKeyId, ← h.secretAccessKey, ← h.destination]
    rfl

theorem sign_eq_ok_iff {path : List Char} {now : Int} {signature : Signature} :
    c.sign path now = .ok signature ↔ Numeral.Fits (c.expiry now) ∧
      signature = ⟨c.userLogin, String.ofList (Numeral.ofInt (c.expiry now)),
        String.ofList (Digest.md5Hex (c.apiKey.toList ++
          Digest.md5Hex (c.signedText path (Numeral.ofInt (c.expiry now)))))⟩ := by
  rw [sign, bind_eq_ok_iff]
  constructor
  · rintro ⟨expires, hwrite, hsigned⟩
    obtain ⟨fits, rfl⟩ := Numeral.write_eq_ok_iff.1 hwrite
    exact ⟨fits, pure_eq_ok_iff.1 hsigned⟩
  · rintro ⟨fits, rfl⟩
    exact ⟨_, Numeral.write_eq_ok_iff.2 ⟨fits, rfl⟩, rfl⟩

theorem prepare_ok {method : Method} {path : List Char} {body : Option (List Char)} {now : Int}
    {r : Request} (h : c.prepare method path body now = .ok r) :
    ∃ signature url, c.sign path now = .ok signature ∧
      Url.parse (c.host.toList ++ "/api".toList ++ path) = .ok url ∧
      r = ⟨method, String.ofList url.target.text, signature, body.map String.ofList⟩ := by
  refine (prepare_eq_ok_iff ?_).1 h
  obtain ⟨signature, -, hrest⟩ := bind_eq_ok_iff.1 h
  obtain ⟨url, -, hlast⟩ := bind_eq_ok_iff.1 hrest
  cases hlogin : Header.fault? c.userLogin.toList with
  | none => rfl
  | some fault =>
      rw [hlogin] at hlast
      cases hlast

theorem Carries.isSigned (h : c.Carries s) {method : Method} {path : List Char}
    {body : Option (List Char)} {now : Int} {r : Request}
    (prepared : c.prepare method path body now = .ok r) :
    r.method = method ∧ r.body = body.map String.ofList ∧ IsSigned s.conductor now path r := by
  obtain ⟨signature, url, hsign, hurl, rfl⟩ := prepare_ok prepared
  obtain ⟨-, rfl⟩ := sign_eq_ok_iff.1 hsign
  refine ⟨rfl, rfl, ⟨_, url, h.host, hurl, rfl⟩, h.userLogin, ?_, ?_⟩
  · rw [← h.authExpires, expiry]
  · dsimp only
    rw [String.toList_ofList, ← h.userLogin, ← h.apiKey, signedText]

/-- Whether a request is one of those that an ask takes, signed. -/
def Serves (s : ConductorSettings) (c : Client) (now : Int) (a : Ask) (r : Request) : Prop :=
  ∃ path, Takes s c a r.method path r.body ∧ IsSigned s now path r

theorem Operation.call_sends {α : Type} (op : Operation α) {allowed : Int → Request → Prop}
    (h : ∀ now r, op.request c now = .ok r → allowed now r) : (op.call c).Sends allowed := by
  intro e
  rw [call_apply]
  cases hr : op.request c e.now with
  | error d => exact .refl e
  | ok r => exact .after (h e.now r hr) e

theorem Carries.serves (h : c.Carries s) {a : Ask} {method : Method} {path : List Char}
    {body : Option (List Char)} (takes : Takes s.conductor c a method path (body.map String.ofList))
    {now : Int} {r : Request} (prepared : c.prepare method path body now = .ok r) :
    Serves s.conductor c now a r := by
  obtain ⟨hmethod, hbody, signed⟩ := h.isSigned prepared
  rw [← hmethod, ← hbody] at takes
  exact ⟨path, takes, signed⟩

theorem Carries.postJob_serves (h : c.Carries s) {source : String} {presets : List Preset}
    {job : Job} (built : c.buildJob source presets = .ok job) {now : Int} {r : Request}
    (made : (Operation.postJob job).request c now = .ok r) :
    Serves s.conductor c now (.transcode source presets) r := by
  rw [Operation.request] at made
  cases hdocument : job.document with
  | error f =>
      rw [hdocument] at made
      cases made
  | ok document =>
      rw [hdocument] at made
      have takes : Takes s.conductor c (.transcode source presets) .post "/jobs".toList
          ((some document).map String.ofList) :=
        .transcode built (h.usesStorage built) hdocument
      exact h.serves takes made

/-- Step: whatever is asked of a provider, it sends nothing but what that takes. -/
theorem Carries.ask_sends (h : c.Carries s) (a : Ask) :
    (c.provider.ask a).Sends fun now r => Serves s.conductor c now a r := by
  cases a with
  | transcode source presets =>
      refine .bind (.ofExcept_bind fun job built => .bind ?_ fun _ => .pure _) fun _ => .pure _
      exact (Operation.postJob job).call_sends fun now r => h.postJob_serves built
  | jobStatus jobId =>
      refine .bind (.bind ?_ fun _ => .pure _) fun _ => .pure _
      exact (Operation.getJob jobId).call_sends fun now r => h.serves (.jobStatus jobId)
  | healthcheck =>
      refine .bind (.bind ?_ fun nodes => .bind ?_ fun config => ?_) fun _ => .pure _
      · exact Operation.getNodes.call_sends fun now r => h.serves .nodes
      · exact Operation.getCloudConfig.call_sends fun now r => h.serves .cloudConfig
      · dsimp only
        split
        · exact .fail _
        · exact .pure _

end Client
end Conductor

/-- Run: what is sent while a provider is asked one thing after the other is allowed for one of
these things, at its time. -/
theorem Provider.run_sent {p : Provider} {allowed : Int → Ask → Request → Prop}
    (h : ∀ a, (p.ask a).Sends fun now r => allowed now a r) (e : Exchange)
    (asks : List (Int × Ask)) :
    ∃ new, (p.run e asks).2.sent = new ++ e.sent ∧
      ∀ r ∈ new, ∃ asked ∈ asks, allowed asked.1 asked.2 r := by
  induction asks generalizing e with
  | nil => exact ⟨[], rfl, nofun⟩
  | cons first rest ih =>
      obtain ⟨now, a⟩ := first
      obtain ⟨new, hnew, allowedNew⟩ := (h a { e with now := now }).sent
      obtain ⟨later, hlater, allowedLater⟩ := ih (p.ask a { e with now := now }).2
      refine ⟨later ++ new, ?_, fun r hr => ?_⟩
      · rw [run, hlater, hnew, List.append_assoc]
      · obtain hr | hr := List.mem_append.1 hr
        · obtain ⟨asked, hasked, allowedAsked⟩ := allowedLater r hr
          exact ⟨asked, List.mem_cons_of_mem _ hasked, allowedAsked⟩
        · exact ⟨(now, a), List.mem_cons_self, allowedNew r hr⟩

namespace Conductor

theorem factory_error {s : Settings} {f : Failure} (h : factory s = .error f) :
    f = .missingSettings s.conductor.missing ∧ ¬s.conductor.Complete := by
  by_cases complete : s.conductor.Complete
  · obtain ⟨c, -, made⟩ := factory_of_complete complete
    rw [h] at made
    cases made
  · rw [factory_of_not_complete complete] at h
    cases h
    exact ⟨rfl, complete⟩

theorem factory_ok {s : Settings} {p : Provider} (h : factory s = .ok p) :
    ∃ c, Client.ofSettings s = .ok c ∧ p = c.provider := by
  rw [factory] at h
  cases hc : Client.ofSettings s with
  | error f =>
      rw [hc] at h
      cases h
  | ok c =>
      rw [hc] at h
      cases h
      exact ⟨c, rfl, rfl⟩

theorem missing_eq_of_message {s s' : ConductorSettings} (h : ¬s.Complete) (h' : ¬s'.Complete)
    (same : (Failure.missingSettings s.missing).message =
      (Failure.missingSettings s'.missing).message) : s.missing = s'.missing :=
  Failure.missingSettings_inj (fun none => h (ConductorSettings.missing_eq_nil_iff.1 none))
    (fun none => h' (ConductorSettings.missing_eq_nil_iff.1 none))
    ConductorSettings.not_mem_comma_of_missing ConductorSettings.not_mem_comma_of_missing same

/-- A provider is made if all settings of the Conductor are given. If not, the message lists the
variables of just those that are not, in order, so that it tells which they are. The provider has
every setting in its place: all requests it ever sends go to the host that is set and are signed as
is set, and all jobs it builds use the storage that is set. -/
theorem factory_carries_settings (s : Settings) :
    ((∃ f, factory s = .error f) ↔ ∃ v, s.conductor.Lacks v) ∧
      (∀ f, factory s = .error f → f.kind = .invalidConfig ∧
        (∃ names, f.message = "missing Elemental Conductor configuration. " ++
            "Please define the environment variables " ++ ", ".intercalate names ++
            " or set these values in the .env file" ∧
          names.Sublist ConductorSettings.variableNames ∧
          ∀ v, v ∈ names ↔ s.conductor.Lacks v) ∧
        ∀ (s' : Settings) (f' : Failure), factory s' = .error f' → f'.message = f.message →
          ∀ v, s'.conductor.Lacks v ↔ s.conductor.Lacks v) ∧
      ∀ p, factory s = .ok p → ∃ c : Client, p = c.provider ∧ c.Carries s ∧
        (∀ source presets job, c.buildJob source presets = .ok job →
          job.UsesStorage s.conductor source) ∧
        ∀ (e : Exchange) (asks : List (Int × Ask)),
          ∃ new, (p.run e asks).2.sent = new ++ e.sent ∧
            ∀ r ∈ new, ∃ asked ∈ asks, c.Serves s.conductor asked.1 asked.2 r := by
  refine ⟨?_, fun f hf => ?_, fun p hp => ?_⟩
  · rw [← ConductorSettings.not_complete_iff]
    constructor
    · rintro ⟨f, hf⟩
      exact (factory_error hf).2
    · intro incomplete
      exact ⟨_, factory_of_not_complete incomplete⟩
  · obtain ⟨rfl, incomplete⟩ := factory_error hf
    refine ⟨rfl, ⟨s.conductor.missing, rfl, s.conductor.missing_sublist, fun v =>
      ConductorSettings.mem_missing_iff⟩, fun s' f' hf' same v => ?_⟩
    obtain ⟨rfl, incomplete'⟩ := factory_error hf'
    rw [← ConductorSettings.mem_missing_iff, ← ConductorSettings.mem_missing_iff,
      missing_eq_of_message incomplete' incomplete same]
  · obtain ⟨c, hc, rfl⟩ := factory_ok hp
    have carries := Client.ofSettings_carries hc
    exact ⟨c, rfl, carries, fun source presets job => carries.usesStorage,
      Provider.run_sent carries.ask_sends⟩

end Conductor
end Transcoding
