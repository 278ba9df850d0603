import Transcoding.Conductor.Job
import Transcoding.Failure
import Transcoding.Preset
import Transcoding.Text.Letter
import Transcoding.Text.Part

/-!
The job that encodes a source with some presets: one output and one stream assembly for each, in
order. The extension of a preset asks for a container, and if any of these is for adaptive streaming
the whole group is delivered as a live stream. The outputs go below the root of all destinations,
under the file name of the source without its extension.
-/

namespace Transcoding.Conductor

structure Container where
  name : String
  adaptive : Bool
  deriving DecidableEq, Repr

namespace Container

def adaptiveExtensions : List String := ["ts", "hls", "m3u8"]

/-- The container for an extension without leading dots. -/
def ofExtension (extension : String) : Container :=
  if adaptiveExtensions.any fun e => e.toList == Text.toLower extension.toList then ⟨"m3u8", true⟩
  else if extension.isEmpty then ⟨"mp4", false⟩
  else ⟨extension, false⟩

end Container

def destination (source root : String) : String :=
  String.ofList (Text.dropTrailingSlashes root.toList ++
    '/' :: Text.stem (Text.lastSegment source.toList))

/-- The name of the provider, by which presets are mapped. -/
def providerName : String := "elementalconductor"

/-- The part of a job that a single preset makes. -/
structure Rendition where
  output : Output
  assembly : StreamAssembly
  adaptive : Bool
  deriving DecidableEq, Repr

def Rendition.ofPreset (index : Nat) (p : Preset) : Except Failure Rendition :=
  match p.providerMapping.lookup providerName with
  | none => .error (.presetNotFound p.name providerName)
  | some preset =>
    let stream := "stream_" ++ String.ofList (Numeral.ofNat index)
    let container := Container.ofExtension p.outputOptions.bareExtension
    .ok {
      output := ⟨stream, "_" ++ p.name, index, container.name⟩
      assembly := ⟨stream, preset⟩
      adaptive := container.adaptive }

def Rendition.listOfPresets (index : Nat) : List Preset → Except Failure (List Rendition)
  | [] => .ok []
  | p :: rest => do
    let first ← Rendition.ofPreset index p
    let others ← Rendition.listOfPresets (index + 1) rest
    return first :: others

def OutputGroup.ofRenditions (destination : Location) (renditions : List Rendition) :
    OutputGroup where
  order := 1
  type := if renditions.any (·.adaptive) then .appleLive else .file
  destination := destination
  outputs := renditions.map (·.output)

def mapPresets (destination : Location) (presets : List Preset) :
    Except Failure (OutputGroup × List StreamAssembly) := do
  let renditions ← Rendition.listOfPresets 0 presets
  return (.ofRenditions destination renditions, renditions.map (·.assembly))

/-- What a job needs besides its source and presets. -/
structure Storage where
  /-- The root of all destinations. -/
  root : String
  username : String
  password : String
  deriving DecidableEq, Repr

def Storage.location (s : Storage) (uri : String) : Location :=
  ⟨uri, s.username, s.password⟩

def Job.ofPresets (s : Storage) (source : String) (presets : List Preset) : Except Failure Job := do
  let (outputGroup, streamAssemblies) ←
    mapPresets (s.location (Conductor.destination source s.root)) presets
  return {
    input := s.location source
    priority := 50
    outputGroup := outputGroup
    streamAssemblies := streamAssemblies }

end Transcoding.Conductor
