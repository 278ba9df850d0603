import Transcoding.Conductor.Provider
import Transcoding.Proofs.Conductor.Client
import Transcoding.Proofs.Conductor.Container
import Transcoding.Proofs.Conductor.Submission
import Transcoding.Proofs.Keyed

/-!
What presets make, position by position. Every preset makes the output and the stream assembly of
its own position; the name of the stream, which no other position has, ties the two together. One
output for adaptive streaming is enough to have the whole group delivered as a live stream.
-/

namespace Transcoding.Conductor

/-- Whether a preset has an identifier at the provider. -/
def IsMapped (p : Preset) : Prop :=
  ∃ id, p.providerMapping.lookup "elementalconductor" = some id

theorem find?_isUnmapped_eq_none_iff {presets : List Preset} :
    presets.find? isUnmapped = none ↔ ∀ p ∈ presets, IsMapped p := by
  rw [List.find?_eq_none]
  refine forall₂_congr fun p _ => ?_
  rw [isUnmapped, Bool.not_eq_true, Option.isNone_eq_false_iff, Option.isSome_iff_exists]
  rfl

namespace RendersAll

variable {index : Nat} {presets : List Preset} {renditions : List Rendition}

theorem length_eq (h : RendersAll index presets renditions) :
    renditions.length = presets.length := by
  induction h with
  | nil => rfl
  | cons first others ih => rw [List.length_cons, List.length_cons, ih]

theorem exists_at (h : RendersAll index presets renditions) {i : Nat} {p : Preset}
    (hp : presets[i]? = some p) : ∃ r, renditions[i]? = some r ∧ Renders (index + i) p r := by
  induction h generalizing i with
  | nil => cases hp
  | cons first others ih =>
      cases i with
      | zero =>
          cases hp
          exact ⟨_, rfl, first⟩
      | succ i =>
          obtain ⟨r, hr, renders⟩ := ih hp
          rw [Nat.add_right_comm] at renders
          exact ⟨r, hr, renders⟩

theorem exists_preset_at (h : RendersAll index presets renditions) {i : Nat} {r : Rendition}
    (hr : renditions[i]? = some r) : ∃ p, presets[i]? = some p ∧ Renders (index + i) p r := by
  have inside : i < presets.length := by
    rw [← h.length_eq]
    exact (List.getElem?_eq_some_iff.1 hr).1
  obtain ⟨r', hr', renders⟩ := h.exists_at (List.getElem?_eq_getElem inside)
  rw [hr] at hr'
  cases hr'
  exact ⟨presets[i], List.getElem?_eq_getElem inside, renders⟩

theorem exists_of_mem (h : RendersAll index presets renditions) {r : Rendition}
    (hr : r ∈ renditions) : ∃ i, ∃ p ∈ presets, Renders i p r := by
  induction h with
  | nil => cases hr
  | cons first others ih =>
      rcases List.mem_cons.1 hr with rfl | hr
      · exact ⟨_, _, List.mem_cons_self, first⟩
      · obtain ⟨i, p, hp, renders⟩ := ih hr
        exact ⟨i, p, List.mem_cons_of_mem _ hp, renders⟩

/-- What only the position decides is the same for all presets. -/
theorem map_eq {β : Type} {f : Rendition → β} {g : Nat → β}
    (hf : ∀ i p r, Renders i p r → f r = g i) (h : RendersAll index presets renditions) :
    renditions.map f = (List.range' index presets.length).map g := by
  induction h with
  | nil => rfl
  | cons first others ih =>
      rw [List.map_cons, List.length_cons, List.range'_succ, List.map_cons, hf _ _ _ first, ih]

theorem map_container (h : RendersAll index presets renditions) :
    renditions.map (·.output.container) =
      presets.map fun p => (Container.ofExtension p.outputOptions.bareExtension).name := by
  induction h with
  | nil => rfl
  | cons first others ih => rw [List.map_cons, List.map_cons, ih, first.output]

theorem exists_adaptive_iff (h : RendersAll index presets renditions) :
    (∃ r ∈ renditions, r.adaptive = true) ↔
      ∃ p ∈ presets, Container.IsAdaptive p.outputOptions.bareExtension := by
  constructor
  · rintro ⟨r, hr, hadaptive⟩
    obtain ⟨_, p, hp, renders⟩ := h.exists_of_mem hr
    rw [renders.adaptive, Container.adaptive_iff] at hadaptive
    exact ⟨p, hp, hadaptive⟩
  · rintro ⟨p, hp, hadaptive⟩
    obtain ⟨i, hi⟩ := List.mem_iff_getElem?.1 hp
    obtain ⟨r, hr, renders⟩ := h.exists_at hi
    refine ⟨r, List.mem_of_getElem? hr, ?_⟩
    rw [renders.adaptive, Container.adaptive_iff]
    exact hadaptive

/-- Whether a rendition is adaptive can be told from its container. -/
theorem adaptive_iff_container (h : RendersAll index presets renditions) {r : Rendition}
    (hr : r ∈ renditions) : r.adaptive = true ↔ r.output.container = "m3u8" := by
  obtain ⟨_, p, -, renders⟩ := h.exists_of_mem hr
  rw [renders.adaptive, renders.output, Container.adaptive_iff, Container.name_eq_m3u8_iff]

end RendersAll

theorem type_ofRenditions (destination : Location) (renditions : List Rendition) :
    (OutputGroup.ofRenditions destination renditions).type = .appleLive ↔
      ∃ r ∈ renditions, r.adaptive = true := by
  have live : (OutputGroup.ofRenditions destination renditions).type =
      if renditions.any (·.adaptive) then .appleLive else .file := rfl
  rw [live, ← List.any_eq_true]
  split
  · next any => exact iff_of_true rfl any
  · next none => exact iff_of_false nofun none

theorem exists_mapPresets {presets : List Preset} (h : ∀ p ∈ presets, IsMapped p)
    (destination : Location) :
    ∃ renditions, RendersAll 0 presets renditions ∧ mapPresets destination presets =
      .ok (.ofRenditions destination renditions, renditions.map (·.assembly)) := by
  obtain ⟨renditions, hrenditions, rendersAll⟩ :=
    exists_listOfPresets (find?_isUnmapped_eq_none_iff.2 h) 0
  refine ⟨renditions, rendersAll, ?_⟩
  rw [mapPresets, hrenditions]
  rfl

theorem exists_mapPresets_iff {destination : Location} {presets : List Preset} :
    (∃ result, mapPresets destination presets = .ok result) ↔ ∀ p ∈ presets, IsMapped p := by
  constructor
  · rintro ⟨result, h⟩
    rw [← find?_isUnmapped_eq_none_iff]
    cases hfind : presets.find? isUnmapped with
    | none => rfl
    | some p =>
        rw [mapPresets, listOfPresets_of_find? hfind] at h
        cases h
  · intro h
    obtain ⟨_, -, hresult⟩ := exists_mapPresets h destination
    exact ⟨_, hresult⟩

/-- Whether an output group and stream assemblies are those of some presets: one output and one
stream assembly for each, at its own position. -/
structure Encodes (presets : List Preset) (destination : Location) (group : OutputGroup)
    (assemblies : List StreamAssembly) : Prop where
  order : group.order = 1
  location : group.destination = destination
  outputsLength : group.outputs.length = presets.length
  assembliesLength : assemblies.length = presets.length
  each : ∀ (i : Nat) (p : Preset), presets[i]? = some p →
    group.outputs[i]? = some ⟨"stream_" ++ String.ofList (Numeral.ofNat i), "_" ++ p.name, i,
      (Container.ofExtension p.outputOptions.bareExtension).name⟩ ∧
    ∃ id, p.providerMapping.lookup "elementalconductor" = some id ∧
      assemblies[i]? = some ⟨"stream_" ++ String.ofList (Numeral.ofNat i), id⟩
  type : group.type.name =
    if ∃ p ∈ presets, Container.IsAdaptive p.outputOptions.bareExtension then
      "apple_live_group_settings"
    else "file_group_settings"

theorem RendersAll.encodes {presets : List Preset} {renditions : List Rendition}
    (h : RendersAll 0 presets renditions) (destination : Location) :
    Encodes presets destination (.ofRenditions destination renditions)
      (renditions.map (·.assembly)) where
  order := rfl
  location := rfl
  outputsLength := by rw [OutputGroup.ofRenditions, List.length_map, h.length_eq]
  assembliesLength := by rw [List.length_map, h.length_eq]
  each i p hp := by
    obtain ⟨r, hr, renders⟩ := h.exists_at hp
    rw [Nat.zero_add] at renders
    obtain ⟨id, hid, hassembly⟩ := renders.assembly
    rw [OutputGroup.ofRenditions, List.getElem?_map, List.getElem?_map, hr]
    exact ⟨congrArg some renders.output, id, hid, congrArg some hassembly⟩
  type := by
    have live := type_ofRenditions destination renditions
    rw [h.exists_adaptive_iff] at live
    split
    · next adaptive => rw [live.2 adaptive, OutputGroupType.name]
    · next none =>
        cases htype : (OutputGroup.ofRenditions destination renditions).type with
        | file => rfl
        | appleLive => exact absurd (live.1 htype) none

/-- Whether two presets are the same but for what they say to other providers and for the dots in
front of their extensions. -/
structure Interchangeable (p q : Preset) : Prop where
  name : p.name = q.name
  extension : p.outputOptions.bareExtension = q.outputOptions.bareExtension
  mapped : p.providerMapping.lookup "elementalconductor" =
    q.providerMapping.lookup "elementalconductor"

theorem Interchangeable.ofPreset_eq {p q : Preset} (h : Interchangeable p q) (index : Nat) :
    Rendition.ofPreset index p = Rendition.ofPreset index q := by
  rw [Rendition.ofPreset, Rendition.ofPreset, providerName, h.mapped, h.name, h.extension]

theorem listOfPresets_eq_of_forall₂ {presets others : List Preset}
    (h : List.Forall₂ Interchangeable presets others) (index : Nat) :
    Rendition.listOfPresets index presets = Rendition.listOfPresets index others := by
  induction h generalizing index with
  | nil => rfl
  | cons first rest ih =>
      rw [Rendition.listOfPresets, Rendition.listOfPresets, first.ofPreset_eq, ih]

/-- Presets that all have an identifier at the provider, and only such, make a group with one output
for each and as many stream assemblies, each as its own preset says. Nothing else of the presets has
a part in it. -/
theorem mapPresets_encodes (destination : Location) (presets : List Preset) :
    ((∃ result, mapPresets destination presets = .ok result) ↔ ∀ p ∈ presets, IsMapped p) ∧
      (∀ group assemblies, mapPresets destination presets = .ok (group, assemblies) →
        Encodes presets destination group assemblies) ∧
      ∀ others, List.Forall₂ Interchangeable others presets →
        mapPresets destination others = mapPresets destination presets := by
  refine ⟨exists_mapPresets_iff, fun group assemblies h => ?_, fun others h => ?_⟩
  · obtain ⟨renditions, rendersAll, hresult⟩ :=
      exists_mapPresets (exists_mapPresets_iff.1 ⟨_, h⟩) destination
    rw [hresult] at h
    cases h
    exact rendersAll.encodes destination
  · rw [mapPresets, mapPresets, listOfPresets_eq_of_forall₂ h]

/-- A preset for each kind of container, the last for adaptive streaming. -/
def mixedPresets : List Preset := [
  ⟨"720p", ⟨"MXF"⟩, [("elementalconductor", "17")]⟩,
  ⟨"web", {}, [("other", "3"), ("elementalconductor", "18")]⟩,
  ⟨"720p", ⟨"..M3u8"⟩, [("elementalconductor", "")]⟩]

theorem mapPresets_encodes_mixedPresets :
    ∃ group assemblies,
      mapPresets ⟨"s3://out/film", "", ""⟩ mixedPresets = .ok (group, assemblies) ∧
        Encodes mixedPresets ⟨"s3://out/film", "", ""⟩ group assemblies ∧
        group.type.name = "apple_live_group_settings" ∧
        assemblies[2]? = some ⟨"stream_2", ""⟩ := by
  obtain ⟨succeeds, encodes, -⟩ := mapPresets_encodes ⟨"s3://out/film", "", ""⟩ mixedPresets
  have mapped : ∀ p ∈ mixedPresets, IsMapped p :=
    find?_isUnmapped_eq_none_iff.1 (by decide +kernel)
  obtain ⟨⟨group, assemblies⟩, h⟩ := succeeds.2 mapped
  have made := encodes group assemblies h
  obtain ⟨-, id, hid, hassembly⟩ := made.each 2 _ rfl
  cases hid
  have name : "stream_" ++ String.ofList (Numeral.ofNat 2) = "stream_2" := by decide +kernel
  rw [name] at hassembly
  refine ⟨group, assemblies, h, made, ?_, hassembly⟩
  rw [made.type]
  exact if_pos (by decide +kernel)

theorem streamName_inj {i j : Nat} : streamName i = streamName j ↔ i = j := by
  refine ⟨fun h => ?_, congrArg streamName⟩
  have chars := congrArg String.toList h
  rw [streamName, streamName, String.toList_append, String.toList_append] at chars
  have digits := List.append_cancel_left chars
  rw [String.toList_ofList, String.toList_ofList] at digits
  exact Numeral.ofNat_inj.1 digits

theorem Renders.assembly_name {index : Nat} {p : Preset} {r : Rendition} (h : Renders index p r) :
    r.assembly.name = streamName index := by
  obtain ⟨_, -, hassembly⟩ := h.assembly
  rw [hassembly]

theorem Renders.stream_name {index : Nat} {p : Preset} {r : Rendition} (h : Renders index p r) :
    r.output.streamAssemblyName = streamName index := by
  rw [h.output]

namespace RendersAll

variable {index : Nat} {presets : List Preset} {renditions : List Rendition}

/-- What each position has for itself is different for all presets. -/
theorem nodup_map {β : Type} {f : Rendition → β} {g : Nat → β}
    (h : RendersAll index presets renditions) (hf : ∀ i p r, Renders i p r → f r = g i)
    (hg : ∀ i j, g i = g j → i = j) : (renditions.map f).Nodup := by
  have positions : (List.range' index presets.length).Nodup := List.nodup_range'
  rw [h.map_eq hf, List.Nodup, List.pairwise_map]
  exact positions.imp fun differ same => differ (hg _ _ same)

theorem nodup_names (h : RendersAll index presets renditions) :
    ((renditions.map (·.assembly)).map (·.name)).Nodup := by
  rw [List.map_map]
  exact h.nodup_map (fun _ _ _ renders => renders.assembly_name) fun _ _ => streamName_inj.1

theorem nodup_streams (h : RendersAll index presets renditions) :
    ((renditions.map (·.output)).map (·.streamAssemblyName)).Nodup := by
  rw [List.map_map]
  exact h.nodup_map (fun _ _ _ renders => renders.stream_name) fun _ _ => streamName_inj.1

theorem nodup_orders (h : RendersAll index presets renditions) :
    ((renditions.map (·.output)).map (·.order)).Nodup := by
  rw [List.map_map]
  exact h.nodup_map (g := fun i => (i : Int))
    (fun _ _ _ renders => congrArg Output.order renders.output) fun _ _ => Int.ofNat.inj

/-- The stream of a rendition leads from its output to its stream assembly, and back. -/
theorem tied (h : RendersAll index presets renditions) {r : Rendition} (hr : r ∈ renditions) :
    (renditions.map (·.assembly)).filter (·.name == r.output.streamAssemblyName) = [r.assembly] ∧
      (renditions.map (·.output)).filter (·.streamAssemblyName == r.assembly.name) =
        [r.output] := by
  obtain ⟨i, p, -, renders⟩ := h.exists_of_mem hr
  have same : r.output.streamAssemblyName = r.assembly.name := by
    rw [renders.stream_name, renders.assembly_name]
  constructor
  · rw [same]
    exact filter_key_eq_singleton h.nodup_names (List.mem_map_of_mem hr)
  · rw [← same]
    exact filter_key_eq_singleton h.nodup_streams (List.mem_map_of_mem hr)

end RendersAll

theorem exists_buildJob {presets : List Preset} (h : ∀ p ∈ presets, IsMapped p) (c : Client)
    (source : String) :
    ∃ job renditions, c.buildJob source presets = .ok job ∧ RendersAll 0 presets renditions ∧
      job.outputGroup.outputs = renditions.map (·.output) ∧
      job.streamAssemblies = renditions.map (·.assembly) := by
  obtain ⟨renditions, rendersAll, hresult⟩ :=
    exists_mapPresets h (c.storage.location (destination source c.storage.root))
  rw [Client.buildJob, Job.ofPresets, hresult]
  exact ⟨_, renditions, rfl, rendersAll, rfl, rfl⟩

/-- The job of presets that can all be had ties every output to the one stream assembly of its name,
which encodes with the preset that the output is named after, and every stream assembly to one
output. -/
theorem buildJob_pairs_outputs_and_assemblies (c : Client) (source : String) {presets : List Preset}
    (h : ∀ p ∈ presets, IsMapped p) :
    ∃ job, c.buildJob source presets = .ok job ∧
      (job.streamAssemblies.map (·.name)).Nodup ∧
      (job.outputGroup.outputs.map (·.order)).Nodup ∧
      job.outputGroup.outputs.length = presets.length ∧
      (∀ (i : Nat) output, job.outputGroup.outputs[i]? = some output →
        ∃ p id, presets[i]? = some p ∧ output.nameModifier = "_" ++ p.name ∧
          p.providerMapping.lookup "elementalconductor" = some id ∧
          job.streamAssemblies.filter (·.name == output.streamAssemblyName) =
            [⟨output.streamAssemblyName, id⟩]) ∧
      ∀ assembly ∈ job.streamAssemblies, ∃ output,
        job.outputGroup.outputs.filter (·.streamAssemblyName == assembly.name) = [output] := by
  obtain ⟨job, renditions, hjob, rendersAll, houtputs, hassemblies⟩ := exists_buildJob h c source
  refine ⟨job, hjob, ?_⟩
  rw [houtputs, hassemblies]
  refine ⟨rendersAll.nodup_names, rendersAll.nodup_orders, ?_, fun i output houtput => ?_,
    fun assembly hassembly => ?_⟩
  · rw [List.length_map, rendersAll.length_eq]
  · rw [List.getElem?_map, Option.map_eq_some_iff] at houtput
    obtain ⟨r, hr, rfl⟩ := houtput
    obtain ⟨p, hp, renders⟩ := rendersAll.exists_preset_at hr
    obtain ⟨id, hid, hassembly⟩ := renders.assembly
    have only := (rendersAll.tied (List.mem_of_getElem? hr)).1
    rw [hassembly] at only
    rw [renders.output] at only ⊢
    exact ⟨p, id, hp, rfl, hid, only⟩
  · obtain ⟨r, hr, rfl⟩ := List.mem_map.1 hassembly
    exact ⟨r.output, (rendersAll.tied hr).2⟩

/-- Two presets of one name among twelve, which are known to the provider under different
identifiers. -/
def namesakePresets : List Preset :=
  List.replicate 10 ⟨"720p", ⟨"mp4"⟩, [("elementalconductor", "17")]⟩ ++
    [⟨"720p", ⟨"ts"⟩, [("elementalconductor", "18")]⟩, ⟨"web", {}, [("elementalconductor", "17")]⟩]

theorem buildJob_pairs_outputs_and_assemblies_namesakePresets :
    ∃ job output, exampleClient.buildJob "s3://in/film.mov" namesakePresets = .ok job ∧
      job.outputGroup.outputs[10]? = some output ∧ output.nameModifier = "_720p" ∧
      job.streamAssemblies.filter (·.name == output.streamAssemblyName) =
        [⟨output.streamAssemblyName, "18"⟩] := by
  have mapped : ∀ p ∈ namesakePresets, IsMapped p :=
    find?_isUnmapped_eq_none_iff.1 (by decide +kernel)
  obtain ⟨job, hjob, -, -, length, ties, -⟩ :=
    buildJob_pairs_outputs_and_assemblies exampleClient "s3://in/film.mov" mapped
  have inside : 10 < job.outputGroup.outputs.length := by
    rw [length]
    decide
  obtain ⟨p, id, hp, hmodifier, hid, only⟩ := ties 10 _ (List.getElem?_eq_getElem inside)
  cases hp
  cases hid
  exact ⟨job, _, hjob, List.getElem?_eq_getElem inside, hmodifier, only⟩

/-- A group is delivered as a live stream exactly if that shows in the container of some output. -/
theorem RendersAll.type_eq_appleLive_iff {index : Nat} {presets : List Preset}
    {renditions : List Rendition} (h : RendersAll index presets renditions)
    (destination : Location) :
    (OutputGroup.ofRenditions destination renditions).type = .appleLive ↔
      ∃ o ∈ (OutputGroup.ofRenditions destination renditions).outputs, o.container = "m3u8" := by
  rw [type_ofRenditions]
  constructor
  · rintro ⟨r, hr, hadaptive⟩
    exact ⟨r.output, List.mem_map_of_mem hr, (h.adaptive_iff_container hr).mp hadaptive⟩
  · rintro ⟨o, ho, hcontainer⟩
    obtain ⟨r, hr, rfl⟩ := List.mem_map.mp ho
    exact ⟨r, hr, (h.adaptive_iff_container hr).mpr hcontainer⟩

/-- The container of an extension says whether it is adaptive: three words in any case are, behind
any dots, and have a container of their own. Any other extension is its own container, or the
default if nothing is left of it; a container is kept when it is taken for an extension. So the
delivery of a group can be told from the containers in it. -/
theorem adaptive_iff_container_m3u8 (extension : String) {c : Container}
    (hc : Container.ofExtension (OutputOptions.bareExtension ⟨extension⟩) = c) :
    (∃ dots bare, extension.toList = dots ++ bare ∧ (∀ d ∈ dots, d = '.') ∧
      bare.head? ≠ some '.' ∧
      (c.adaptive = true ↔ ∃ word ∈ ["ts", "hls", "m3u8"], Text.InAnyCase word.toList bare) ∧
      (c.adaptive = true ↔ c.name = "m3u8") ∧
      (c.adaptive = false → c.name = if bare = [] then "mp4" else String.ofList bare)) ∧
    c.name ≠ "" ∧ c.name.toList.head? ≠ some '.' ∧
    Container.ofExtension c.name = c ∧
    Container.ofExtension (OutputOptions.bareExtension ⟨c.name⟩) = c ∧
    ∀ destination presets, (∀ p ∈ presets, IsMapped p) → ∃ group assemblies,
      mapPresets destination presets = .ok (group, assemblies) ∧
      group.outputs.map (·.container) = presets.map
        (fun p => (Container.ofExtension p.outputOptions.bareExtension).name) ∧
      (group.type = .appleLive ↔ ∃ o ∈ group.outputs, o.container = "m3u8") := by
  obtain ⟨dots, hextension, hdots, hbare⟩ := OutputOptions.exists_dots extension
  obtain rfl := hc
  have nodot := Container.head?_name_ne_dot hbare
  refine ⟨⟨dots, _, hextension, hdots, hbare, ?_, ?_, fun hplain => ?_⟩,
    Container.name_ne_empty _, nodot, Container.ofExtension_name _, ?_,
    fun destination presets hmapped => ?_⟩
  · rw [Container.adaptive_iff, Container.isAdaptive_iff]
  · rw [Container.adaptive_iff, Container.name_eq_m3u8_iff]
  · have plain : ¬Container.IsAdaptive (OutputOptions.bareExtension ⟨extension⟩) := by
      rw [← Container.adaptive_iff, hplain]
      exact Bool.false_ne_true
    rw [Container.ofExtension_of_not_isAdaptive plain]
    simp only [String.toList_eq_nil_iff, String.ofList_toList]
  · rw [OutputOptions.bareExtension_of_head? nodot]
    exact Container.ofExtension_name _
  · obtain ⟨renditions, rendersAll, hresult⟩ := exists_mapPresets hmapped destination
    refine ⟨_, _, hresult, ?_, rendersAll.type_eq_appleLive_iff destination⟩
    exact List.map_map.trans rendersAll.map_container

theorem adaptive_iff_container_m3u8_mixedPresets :
    (Container.ofExtension (OutputOptions.bareExtension ⟨"..M3u8"⟩)).name = "m3u8" ∧
      ∃ group assemblies,
        mapPresets ⟨"s3://out/film", "", ""⟩ mixedPresets = .ok (group, assemblies) ∧
        group.outputs.map (·.container) = ["MXF", "mp4", "m3u8"] ∧ group.type = .appleLive := by
  obtain ⟨⟨_, _, -, -, -, -, known, -⟩, -, -, -, -, delivers⟩ :=
    adaptive_iff_container_m3u8 "..M3u8" rfl
  have mapped : ∀ p ∈ mixedPresets, IsMapped p :=
    find?_isUnmapped_eq_none_iff.1 (by decide +kernel)
  obtain ⟨group, assemblies, hmap, containers, live⟩ :=
    delivers ⟨"s3://out/film", "", ""⟩ mixedPresets mapped
  have made : group.outputs.map (·.container) = ["MXF", "mp4", "m3u8"] :=
    containers.trans (by decide +kernel)
  refine ⟨known.1 (by decide +kernel), group, assemblies, hmap, made, live.2 ?_⟩
  refine List.mem_map.1 ?_
  rw [made]
  decide

end Transcoding.Conductor
