import Transcoding.Text.Numeral
import Transcoding.Validation
import Transcoding.Xml.Outline

/-!
Jobs as a Conductor takes them: an input, one group of outputs, and for each output the stream
assembly that says which preset encodes it. A job is submitted as a document, in which the
destination of the output group stands in an element named after the type of the group. There is no
document if a number is too long to be written.
-/

namespace Transcoding.Conductor

/-- An address with the credentials to it. -/
structure Location where
  uri : String
  username : String := ""
  password : String := ""
  deriving DecidableEq, Repr

/-- A named stream and the preset that encodes it. -/
structure StreamAssembly where
  name : String
  preset : String
  deriving DecidableEq, Repr

structure Output where
  streamAssemblyName : String
  nameModifier : String
  order : Int
  container : String
  deriving DecidableEq, Repr

inductive OutputGroupType
  | file
  | appleLive
  deriving DecidableEq, Repr

def OutputGroupType.name : OutputGroupType → String
  | .file => "file_group_settings"
  | .appleLive => "apple_live_group_settings"

structure OutputGroup where
  order : Int
  type : OutputGroupType
  destination : Location
  outputs : List Output := []
  deriving DecidableEq, Repr

structure Job where
  input : Location
  priority : Int
  outputGroup : OutputGroup
  streamAssemblies : List StreamAssembly := []
  deriving DecidableEq, Repr

open Validation

def Location.check (value : Json) : Check Location :=
  record .modelType value fun members =>
    Location.mk <$> required members "uri" string
      <*> optional members "username" "" string
      <*> optional members "password" "" string

def StreamAssembly.check (value : Json) : Check StreamAssembly :=
  record .modelType value fun members =>
    StreamAssembly.mk <$> required members "name" string <*> required members "preset" string

def Output.check (value : Json) : Check Output :=
  record .modelType value fun members =>
    Output.mk <$> required members "stream_assembly_name" string
      <*> required members "name_modifier" string
      <*> required members "order" int
      <*> required members "container" string

def OutputGroupType.check : Json → Check OutputGroupType
  | .string s =>
    if s == OutputGroupType.file.name then .valid .file
    else if s == OutputGroupType.appleLive.name then .valid .appleLive
    else .issue .enumeration
  | _ => .issue .enumeration

def OutputGroup.check (value : Json) : Check OutputGroup :=
  record .modelType value fun members =>
    OutputGroup.mk <$> required members "order" int
      <*> required members "type" OutputGroupType.check
      <*> required members "destination" Location.check
      <*> optional members "outputs" [] (list Output.check)

def Job.check (value : Json) : Check Job :=
  record .modelType value fun members =>
    Job.mk <$> required members "input" Location.check
      <*> required members "priority" int
      <*> required members "output_group" OutputGroup.check
      <*> optional members "stream_assemblies" [] (list StreamAssembly.check)

open Xml

def Location.outline (l : Location) (tag : String) : Outline :=
  .group tag (.text "uri" l.uri.toList ++ .text "username" l.username.toList ++
    .text "password" l.password.toList)

def StreamAssembly.outline (s : StreamAssembly) : Outline :=
  .group "stream_assembly" (.text "name" s.name.toList ++ .text "preset" s.preset.toList)

def Output.outline (o : Output) : Except Numeral.Fault Outline := do
  let order ← Numeral.write o.order
  return .group "output" (.text "stream_assembly_name" o.streamAssemblyName.toList ++
    .text "name_modifier" o.nameModifier.toList ++ .text "order" order ++
    .text "container" o.container.toList)

def OutputGroup.outline (g : OutputGroup) : Except Numeral.Fault Outline := do
  let order ← Numeral.write g.order
  let outputs ← g.outputs.mapM Output.outline
  return .group "output_group" (.text "order" order ++
    .group g.type.name (g.destination.outline "destination") ++
    .text "type" g.type.name.toList ++ outputs.foldr (· ++ ·) .nil)

def Job.outline (j : Job) : Except Numeral.Fault Outline := do
  let priority ← Numeral.write j.priority
  let outputGroup ← j.outputGroup.outline
  return .group "job" (.group "input" (j.input.outline "file_input") ++ .text "priority" priority ++
    outputGroup ++ (j.streamAssemblies.map StreamAssembly.outline).foldr (· ++ ·) .nil)

def Job.document (j : Job) : Except Numeral.Fault (List Char) := do
  return (← j.outline).document

end Transcoding.Conductor
