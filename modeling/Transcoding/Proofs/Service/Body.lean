import Transcoding.Proofs.Json.Reader
import Transcoding.Proofs.Validation
import Transcoding.Service.Body

/-!
What bodies of requests ask for. A body asks for a transcoding if it is the JSON of an object with a
source, a provider and at least one preset; other members make no difference.
-/

namespace Transcoding

open Validation

def IsOptions (value : Json) (o : OutputOptions) : Prop :=
  ∃ members, value = .object members ∧ MayHold members "extension" "" IsString o.extension

def IsPreset (value : Json) (p : Preset) : Prop :=
  ∃ members, value = .object members ∧ Holds members "name" IsString p.name ∧
    MayHold members "output_opts" {} IsOptions p.outputOptions ∧
    MayHold members "provider_mapping" [] IsMapping p.providerMapping

namespace Preset

theorem checkOptions_decides (notRecord : IssueKind) (value : Json) :
    (checkOptions notRecord value).Decides (IsOptions value) := by
  refine (record_decides notRecord value fun members =>
    (optional_decides members "extension" "" string_decides).map OutputOptions.mk).congr
      fun o => exists_congr fun members => and_congr_right fun _ => ?_
  constructor
  · rintro ⟨_, h, rfl⟩
    exact h
  · exact fun h => ⟨o.extension, h, rfl⟩

theorem check_decides (notRecord : IssueKind) (value : Json) :
    (check notRecord value).Decides (IsPreset value) := by
  refine (record_decides notRecord value fun members =>
    (((required_decides members "name" string_decides).map Preset.mk).seq
      (optional_decides members "output_opts" {} (checkOptions_decides notRecord))).seq
      (optional_decides members "provider_mapping" [] mapping_decides)).congr
        fun p => exists_congr fun members => and_congr_right fun _ => ?_
  constructor
  · rintro ⟨_, _, ⟨_, _, ⟨_, hname, rfl⟩, hoptions, rfl⟩, hmapping, rfl⟩
    exact ⟨hname, hoptions, hmapping⟩
  · rintro ⟨hname, hoptions, hmapping⟩
    exact ⟨_, _, ⟨_, _, ⟨_, hname, rfl⟩, hoptions, rfl⟩, hmapping, rfl⟩

end Preset

namespace Service

def ArePresets (value : Json) (presets : List Preset) : Prop :=
  ∃ items, value = .array items ∧ items ≠ [] ∧ List.Forall₂ IsPreset items presets

/-- Whether a value is an object that asks for a transcoding. -/
def IsTranscodeRequest (value : Json) (r : TranscodeRequest) : Prop :=
  ∃ members, value = .object members ∧ Holds members "source" IsString r.source ∧
    Holds members "provider" IsString r.provider ∧ Holds members "presets" ArePresets r.presets

theorem checkPresets_decides (value : Json) : (checkPresets value).Decides (ArePresets value) := by
  rw [checkPresets.eq_def]
  split
  · refine .issue _ fun presets => ?_
    rintro ⟨_, hitems, hne, -⟩
    cases hitems
    exact hne rfl
  · next other =>
      refine (list_decides (Preset.check_decides .modelAttributesType) value).congr fun presets =>
        exists_congr fun items => and_congr_right fun hitems => ?_
      rw [and_iff_right]
      rintro rfl
      exact other hitems

theorem TranscodeRequest.check_decides (value : Json) :
    (TranscodeRequest.check value).Decides (IsTranscodeRequest value) := by
  refine (record_decides .modelAttributesType value fun members =>
    (((required_decides members "source" string_decides).map TranscodeRequest.mk).seq
      (required_decides members "provider" string_decides)).seq
      (required_decides members "presets" checkPresets_decides)).congr
        fun r => exists_congr fun members => and_congr_right fun _ => ?_
  constructor
  · rintro ⟨_, _, ⟨_, _, ⟨_, hsource, rfl⟩, hprovider, rfl⟩, hpresets, rfl⟩
    exact ⟨hsource, hprovider, hpresets⟩
  · rintro ⟨hsource, hprovider, hpresets⟩
    exact ⟨_, _, ⟨_, _, ⟨_, hsource, rfl⟩, hprovider, rfl⟩, hpresets, rfl⟩

namespace Body

variable {levels : Nat} {b : Body} {r : TranscodeRequest}

/-- Whether a body, read with at most so many arrays and objects in each other, asks for a
transcoding. -/
def Describes (b : Body) (levels : Nat) (r : TranscodeRequest) : Prop :=
  ∃ value, b.content levels = .json value ∧ IsTranscodeRequest value r

/-- What a body asks for, if it does. -/
def request? (b : Body) (levels : Nat) : Option TranscodeRequest :=
  match b.content levels with
  | .json value => (TranscodeRequest.check value).toExcept.toOption
  | _ => none

theorem describes_iff : b.Describes levels r ↔
    ∃ value, b.content levels = .json value ∧ TranscodeRequest.check value = .valid r :=
  exists_congr fun value => and_congr_right fun _ =>
    ((TranscodeRequest.check_decides value).valid_iff r).symm

theorem request?_eq_some_iff : b.request? levels = some r ↔ b.Describes levels r := by
  rw [describes_iff, request?]
  cases b.content levels with
  | json value =>
      simp only [BodyContent.json.injEq, exists_eq_left']
      cases TranscodeRequest.check value with
      | valid r' => simp [Check.toExcept, Except.toOption]
      | invalid issues => simp [Check.toExcept, Except.toOption]
  | absent | invalid | unreadable _ | foreign => simp

end Body
end Service
end Transcoding
