import Transcoding.Proofs.Settings.Places
import Transcoding.Proofs.Validation

/-!
Which variables decide the settings. A setting is read from the variable of its own name, and one of
the Conductor from the variable of its name with a prefix; no other variable is of any account, so
long as the file refers to none in braces.
-/

namespace Transcoding.Settings

/-- The names of the variables that settings are read from. -/
def sourceNames : List String :=
  Sources.conductorVariable :: names ++
    ConductorSettings.names.map ("elementalconductor_" ++ ·)

section Congruence

variable {s t : Sources}

/-- Whether variables are set alike in both places. -/
def Sources.Alike (s t : Sources) (name : String) : Prop :=
  s.environment.get? name = t.environment.get? name ∧ s.file.get? name = t.file.get? name

theorem Sources.Alike.get?_eq {name : String} (h : s.Alike t name) : s.get? name = t.get? name := by
  rw [get?, get?, h.1, h.2]

theorem Sources.members_congr {start : String} {names : List String}
    (h : ∀ name ∈ names, s.Alike t (start ++ name)) :
    s.members start names = t.members start names := by
  rw [members, members]
  exact List.filterMap_congr fun name hname => by rw [(h name hname).get?_eq]

theorem Sources.wholeConductor_congr {v w : Variables}
    (h : v.get? conductorVariable = w.get? conductorVariable) (levels : Nat) (origin : Origin) :
    wholeConductor levels v origin = wholeConductor levels w origin := by
  rw [wholeConductor, wholeConductor, h]

/-- Sources that are alike for the variables of the settings have the same outcome. -/
theorem Sources.settings_congr (h : ∀ name ∈ sourceNames, s.Alike t name) (levels : Nat) :
    s.settings levels = t.settings levels := by
  have whole : s.Alike t conductorVariable := h _ (by decide)
  have own : s.members "" Settings.names = t.members "" Settings.names :=
    members_congr fun name hname => by
      rw [String.empty_append]
      exact h _ (List.mem_cons_of_mem _ (List.mem_append_left _ hname))
  have conductor : s.conductorMembers = t.conductorMembers :=
    members_congr fun name hname =>
      h _ (List.mem_append_right _ (List.mem_map_of_mem hname))
  have check : s.checkWhole = t.checkWhole := by
    funext value
    rw [checkWhole, checkWhole, conductor]
  rw [settings, settings, wholeConductor_congr whole.1, wholeConductor_congr whole.2,
    conductorSettings, conductorSettings, check, own, conductor]

end Congruence

section Reading

variable {α : Type} {p : Places}

/-- Whether a setting has the value that is read from its variable, or the default if nothing sets
that. -/
def Places.Decides (p : Places) (name : String) (read : Json → Check α) (default value : α) :
    Prop :=
  (p.Tells name none ∧ default = value) ∨
    ∃ text, p.Tells name (some text) ∧ read (.string (String.ofList text)) = .valid value

theorem Sources.lookup_members {s : Sources} {start name : String} {names : List String}
    (h : name ∈ names) : (s.members start names).lookup (.text name) =
      (s.get? (start ++ name)).map fun text => .string (String.ofList text) := by
  rw [members, lookup_filterMap (fun _ _ => Json.Name.text.inj) (fun name => s.get? (start ++ name))
    (fun text => Json.string (String.ofList text)), if_pos (List.contains_iff_mem.2 h)]

theorem Places.mayHold_iff (h : p.IsDistinct) {start name : String} {names : List String}
    (hname : name ∈ names) {read : Json → Check α} {default value : α} :
    MayHold (p.sources.members start names) name default (fun v a => read v = .valid a) value ↔
      p.Decides (start ++ name) read default value := by
  rw [MayHold, Holds, Sources.lookup_members hname, Option.map_eq_none_iff, get?_eq_iff h, Decides]
  refine or_congr_right ⟨?_, ?_⟩
  · rintro ⟨_, hvalue, hread⟩
    obtain ⟨text, htext, rfl⟩ := Option.map_eq_some_iff.1 hvalue
    exact ⟨text, (get?_eq_iff h).1 htext, hread⟩
  · rintro ⟨text, told, hread⟩
    exact ⟨_, Option.map_eq_some_iff.2 ⟨text, (get?_eq_iff h).2 told, rfl⟩, hread⟩

end Reading

section Following

open Validation

theorem checkConductor_eq_valid_iff {members : Json.Members} {c : ConductorSettings} :
    ConductorSettings.check members = .valid c ↔
      MayHold members "host" "" (string · = .valid ·) c.host ∧
        MayHold members "user_login" "" (string · = .valid ·) c.userLogin ∧
        MayHold members "api_key" "" (string · = .valid ·) c.apiKey ∧
        MayHold members "auth_expires" 0 (int · = .valid ·) c.authExpires ∧
        MayHold members "aws_access_key_id" "" (string · = .valid ·) c.awsAccessKeyId ∧
        MayHold members "aws_secret_access_key" "" (string · = .valid ·) c.awsSecretAccessKey ∧
        MayHold members "destination" "" (string · = .valid ·) c.destination := by
  cases c
  simp [ConductorSettings.check, Check.seq_eq_valid_iff, Check.map_eq_valid_iff,
    optional_eq_valid_iff, and_assoc]

theorem check_eq_valid_iff {members : Json.Members} {conductor : Check ConductorSettings}
    {s : Settings} :
    check members conductor = .valid s ↔
      MayHold members "host" "0.0.0.0" (string · = .valid ·) s.host ∧
        MayHold members "port" 8080 (int · = .valid ·) s.port ∧
        MayHold members "debug" false (bool · = .valid ·) s.debug ∧
        MayHold members "log_level" "info" (string · = .valid ·) s.logLevel ∧
        MayHold members "http_timeout" (.ofFraction false 30 1) (float · = .valid ·)
          s.httpTimeout ∧
        conductor = .valid s.conductor := by
  cases s
  simp [check, Check.seq_eq_valid_iff, Check.map_eq_valid_iff, optional_eq_valid_iff, and_assoc,
    -Bool.exists_bool]

/-- Whether the settings of the Conductor are what their variables say. -/
structure Places.FollowsConductor (p : Places) (c : ConductorSettings) : Prop where
  host : p.Decides ("elementalconductor_" ++ "host") string "" c.host
  userLogin : p.Decides ("elementalconductor_" ++ "user_login") string "" c.userLogin
  apiKey : p.Decides ("elementalconductor_" ++ "api_key") string "" c.apiKey
  authExpires : p.Decides ("elementalconductor_" ++ "auth_expires") int 0 c.authExpires
  awsAccessKeyId :
    p.Decides ("elementalconductor_" ++ "aws_access_key_id") string "" c.awsAccessKeyId
  awsSecretAccessKey :
    p.Decides ("elementalconductor_" ++ "aws_secret_access_key") string "" c.awsSecretAccessKey
  destination : p.Decides ("elementalconductor_" ++ "destination") string "" c.destination

/-- Whether the settings are what their variables say. -/
structure Places.Follows (p : Places) (s : Settings) : Prop where
  host : p.Decides "host" string "0.0.0.0" s.host
  port : p.Decides "port" int 8080 s.port
  debug : p.Decides "debug" bool false s.debug
  logLevel : p.Decides "log_level" string "info" s.logLevel
  httpTimeout : p.Decides "http_timeout" float (.ofFraction false 30 1) s.httpTimeout
  conductor : p.FollowsConductor s.conductor

namespace Places

variable {p : Places}

theorem followsConductor_iff (h : p.IsDistinct) {c : ConductorSettings} :
    ConductorSettings.check p.sources.conductorMembers = .valid c ↔ p.FollowsConductor c := by
  rw [checkConductor_eq_valid_iff, Sources.conductorMembers]
  simp (disch := decide) only [mayHold_iff h]
  exact ⟨fun ⟨h₁, h₂, h₃, h₄, h₅, h₆, h₇⟩ => ⟨h₁, h₂, h₃, h₄, h₅, h₆, h₇⟩,
    fun ⟨h₁, h₂, h₃, h₄, h₅, h₆, h₇⟩ => ⟨h₁, h₂, h₃, h₄, h₅, h₆, h₇⟩⟩

theorem follows_iff (h : p.IsDistinct) {s : Settings} :
    check (p.sources.members "" names) (ConductorSettings.check p.sources.conductorMembers) =
      .valid s ↔ p.Follows s := by
  rw [check_eq_valid_iff, followsConductor_iff h]
  simp (disch := decide) only [mayHold_iff h, String.empty_append]
  exact ⟨fun ⟨h₁, h₂, h₃, h₄, h₅, h₆⟩ => ⟨h₁, h₂, h₃, h₄, h₅, h₆⟩,
    fun ⟨h₁, h₂, h₃, h₄, h₅, h₆⟩ => ⟨h₁, h₂, h₃, h₄, h₅, h₆⟩⟩

/-- Whether no two variables in one place share a name but for letter case, and none holds all
settings of the Conductor. -/
structure IsPlain (p : Places) : Prop extends p.IsDistinct where
  apart : p.Tells Sources.conductorVariable none

theorem IsPlain.of_get? (h : p.IsDistinct)
    (unset : p.sources.get? Sources.conductorVariable = none) : p.IsPlain :=
  ⟨h, (get?_eq_iff h).1 unset⟩

/-- The settings, or why there are none, where JSON is read with at most so many arrays and objects
in each other. -/
def outcome (levels : Nat) (p : Places) : Except Fault Settings :=
  ofEnvironment levels p.environment p.file

theorem outcome_eq (h : p.IsPlain) (levels : Nat) :
    p.outcome levels =
      (ConductorSettings.check p.sources.conductorMembers).toExcept.mapError .invalid >>=
        fun c => (check (p.sources.members "" names) (.valid c)).toExcept.mapError .invalid := by
  have unset : p.sources.get? Sources.conductorVariable = none :=
    (get?_eq_iff h.toIsDistinct).2 h.apart
  obtain ⟨henv, hfile⟩ := Option.or_eq_none_iff.1 unset
  have apart {v : Variables} (hv : v.get? Sources.conductorVariable = none) (origin : Origin) :
      Sources.wholeConductor levels v origin = .ok none := by
    rw [Sources.wholeConductor, hv]
  change p.sources.settings levels = _
  rw [Sources.settings, apart henv, apart hfile, Sources.conductorSettings]
  cases ConductorSettings.check p.sources.conductorMembers <;> rfl

theorem outcome_eq_ok_iff (h : p.IsPlain) {levels : Nat} {s : Settings} :
    p.outcome levels = .ok s ↔ p.Follows s := by
  rw [outcome_eq h, ← follows_iff h.toIsDistinct]
  cases ConductorSettings.check p.sources.conductorMembers with
  | valid c =>
      change (check (p.sources.members "" names) (.valid c)).toExcept.mapError _ = .ok s ↔ _
      cases check (p.sources.members "" names) (.valid c) <;>
        simp [Check.toExcept, Except.mapError]
  | invalid issues => exact ⟨nofun, fun hs => nomatch (check_eq_valid_iff.1 hs).2.2.2.2.2⟩

/-- If no two variables in one place share a name but for letter case, each setting is read from the
variable of its name, that of the environment before that of the file, and each of the Conductor
from the variable with the prefix. No other variables have a part in what a variable is set to, or
in the settings or what is wrong with them, so long as no value in the file refers to one. -/
theorem outcome_follows_named_variables (levels : Nat) (p : Places) (h : p.IsPlain) :
    (∀ s, p.outcome levels = .ok s ↔ p.Follows s) ∧
      ∀ (others : List Char → Bool) (q : Places), p.Agree q others → ¬p.Refers others →
        (∀ name told, Spares others name → (q.Tells name told ↔ p.Tells name told)) ∧
        ((∀ name ∈ sourceNames, Spares others name) → q.outcome levels = p.outcome levels) := by
  refine ⟨fun s => outcome_eq_ok_iff h, fun others q agree closed => ⟨?_, ?_⟩⟩
  · exact fun name told spared => agree.tells_iff closed spared
  · intro spared
    exact Sources.settings_congr (fun name hname => agree.get?_eq closed (spared name hname)) levels

/-- A host in both places, that of the Conductor in the file, and a variable that is no setting. -/
def sample : Places where
  environment := [("Host", "a"), ("X", "b")]
  file := some "HOST=c\nElementalConductor_Host=d\n"

theorem outcome_follows_named_variables_sample :
    sample.IsPlain ∧ sample.Follows { host := "a", conductor := { host := "d" } } ∧
      { sample with environment := [("Host", "a")] }.outcome 900 = sample.outcome 900 := by
  have plain : sample.IsPlain := .of_get? ⟨by decide, by decide⟩ (by decide)
  have spared : ∀ name ∈ sourceNames, Text.toLower ['X'] ≠ name.toList := by decide
  obtain ⟨follows, frame⟩ := outcome_follows_named_variables 900 sample plain
  have agree : sample.Agree { sample with environment := [("Host", "a")] } (· == ['X']) :=
    ⟨by decide, rfl⟩
  exact ⟨plain, (follows _).1 (by decide),
    (frame _ _ agree (by decide)).2 fun name hname => spares_iff.2 (spared name hname)⟩

/-- If a value in the file does refer to a variable, what that is set to matters. -/
theorem outcome_of_referred :
    let p : Places := ⟨[("X", "a")], some "HOST=$\x7bX\x7d\n"⟩
    let q : Places := ⟨[], some "HOST=$\x7bX\x7d\n"⟩
    p.IsPlain ∧ q.IsPlain ∧ p.Agree q (· == ['X']) ∧
      (∀ name ∈ sourceNames, Spares (· == ['X']) name) ∧
      ∀ levels, p.outcome levels = .ok { host := "a" } ∧ q.outcome levels = .ok { host := "" } := by
  intro p q
  have spared : ∀ name ∈ sourceNames, Text.toLower ['X'] ≠ name.toList := by decide
  have plainP : p.IsPlain := .of_get? ⟨by decide, by decide⟩ (by decide)
  have plainQ : q.IsPlain := .of_get? ⟨by decide, by decide⟩ (by decide)
  refine ⟨plainP, plainQ, ⟨by decide, by decide⟩,
    fun name hname => spares_iff.2 (spared name hname), fun levels => ?_⟩
  rw [outcome_eq plainP, outcome_eq plainQ]
  exact ⟨by decide, by decide⟩

end Places
end Following
end Transcoding.Settings
