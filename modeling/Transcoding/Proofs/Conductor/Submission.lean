import Transcoding.Conductor.Submission
import Transcoding.Proofs.Conductor.JobDocument

/-!
Which jobs presets make. The first preset without an identifier at the provider keeps a job from
being made; without such a preset every preset makes a rendition at its own position, there is a
job, and its numbers count its outputs.
-/

namespace Transcoding.Conductor

open Numeral (Fits)

/-- Whether a preset has no identifier at the provider. -/
def isUnmapped (p : Preset) : Bool :=
  (p.providerMapping.lookup providerName).isNone

theorem ofPreset_unmapped {p : Preset} (h : isUnmapped p = true) (index : Nat) :
    Rendition.ofPreset index p = .error (.presetNotFound p.name providerName) := by
  rw [Rendition.ofPreset, Option.isNone_iff_eq_none.1 h]

/-- The name of the stream of a position. -/
def streamName (index : Nat) : String :=
  "stream_" ++ String.ofList (Numeral.ofNat index)

/-- Whether a rendition is what a preset makes at a position. -/
structure Renders (index : Nat) (p : Preset) (r : Rendition) : Prop where
  output : r.output = ⟨streamName index, "_" ++ p.name, index,
    (Container.ofExtension p.outputOptions.bareExtension).name⟩
  assembly : ∃ id, p.providerMapping.lookup providerName = some id ∧
    r.assembly = ⟨streamName index, id⟩
  adaptive : r.adaptive = (Container.ofExtension p.outputOptions.bareExtension).adaptive

/-- Whether renditions are what presets make, each at its own position from an index on. -/
inductive RendersAll : Nat → List Preset → List Rendition → Prop
  | nil {index : Nat} : RendersAll index [] []
  | cons {index : Nat} {p : Preset} {presets : List Preset} {r : Rendition}
      {renditions : List Rendition} (first : Renders index p r)
      (others : RendersAll (index + 1) presets renditions) :
      RendersAll index (p :: presets) (r :: renditions)

theorem exists_ofPreset {p : Preset} (h : isUnmapped p = false) (index : Nat) :
    ∃ r, Rendition.ofPreset index p = .ok r ∧ Renders index p r := by
  obtain ⟨preset, hpreset⟩ := Option.isSome_iff_exists.1 (Option.isNone_eq_false_iff.1 h)
  rw [Rendition.ofPreset, hpreset]
  exact ⟨_, rfl, rfl, ⟨preset, hpreset, rfl⟩, rfl⟩

/-- The first preset without an identifier is the one that a caller is told. -/
theorem listOfPresets_of_find? {presets : List Preset} {p : Preset}
    (h : presets.find? isUnmapped = some p) (index : Nat) :
    Rendition.listOfPresets index presets = .error (.presetNotFound p.name providerName) := by
  -- What the presets before it make is dropped with the error.
  induction presets generalizing index with
  | nil => cases h
  | cons q rest ih =>
      rw [Rendition.listOfPresets]
      cases hq : isUnmapped q with
      | true =>
          rw [List.find?_cons_of_pos hq] at h
          cases h
          rw [ofPreset_unmapped hq]
          rfl
      | false =>
          rw [List.find?_cons_of_neg (Bool.eq_false_iff.1 hq)] at h
          obtain ⟨r, hr, -⟩ := exists_ofPreset hq index
          rw [hr, ih h]
          rfl

theorem exists_listOfPresets {presets : List Preset} (h : presets.find? isUnmapped = none)
    (index : Nat) :
    ∃ renditions, Rendition.listOfPresets index presets = .ok renditions ∧
      RendersAll index presets renditions := by
  induction presets generalizing index with
  | nil => exact ⟨[], rfl, .nil⟩
  | cons p rest ih =>
      rw [List.find?_cons] at h
      cases hp : isUnmapped p with
      | true =>
          rw [hp] at h
          cases h
      | false =>
          rw [hp] at h
          obtain ⟨first, hfirst, renders⟩ := exists_ofPreset hp index
          obtain ⟨others, hothers, rendersOthers⟩ := ih h (index + 1)
          refine ⟨first :: others, ?_, .cons renders rendersOthers⟩
          rw [Rendition.listOfPresets, hfirst, hothers]
          rfl

theorem RendersAll.order_lt {index : Nat} {presets : List Preset} {renditions : List Rendition}
    (h : RendersAll index presets renditions) :
    ∀ r ∈ renditions, ∃ n < index + presets.length, r.output.order = n := by
  induction h with
  | nil => exact nofun
  | cons first others ih =>
      rw [List.length_cons, List.forall_mem_cons]
      refine ⟨⟨_, Nat.lt_add_of_pos_right (Nat.succ_pos _), ?_⟩, fun r hr => ?_⟩
      · rw [first.output]
      · obtain ⟨n, hn, hrn⟩ := ih r hr
        exact ⟨n, by omega, hrn⟩

theorem Job.ofPresets_of_find? {presets : List Preset} {p : Preset}
    (h : presets.find? isUnmapped = some p) (s : Storage) (source : String) :
    Job.ofPresets s source presets = .error (.presetNotFound p.name providerName) := by
  rw [Job.ofPresets, mapPresets, listOfPresets_of_find? h]
  rfl

theorem Job.exists_ofPresets {presets : List Preset} (h : presets.find? isUnmapped = none)
    (s : Storage) (source : String) :
    ∃ job, Job.ofPresets s source presets = .ok job ∧
      (presets.length ≤ Nat.pow 10 Numeral.maxDigits → ∀ i ∈ job.numbers, Fits i) := by
  obtain ⟨renditions, hrenditions, rendersAll⟩ := exists_listOfPresets h 0
  rw [Job.ofPresets, mapPresets, hrenditions]
  refine ⟨_, rfl, fun hlength => ?_⟩
  -- The priority and the order of the group are fixed; only the orders of the outputs grow.
  have small {n : Nat} (hn : n < Nat.pow 10 Numeral.maxDigits) : Fits n := hn
  have fifty : 50 < Nat.pow 10 Numeral.maxDigits := by decide +kernel
  simp only [numbers, OutputGroup.ofRenditions, List.forall_mem_cons, List.forall_mem_map]
  refine ⟨small fifty, small (Nat.lt_trans (by decide) fifty), fun r hr => ?_⟩
  obtain ⟨n, hn, hrn⟩ := rendersAll.order_lt r hr
  rw [hrn]
  exact small (by omega)

end Transcoding.Conductor
