import Transcoding.Conductor.Job
import Transcoding.Proofs.Xml.Content

/-!
Jobs read from the documents that submit them. The reader takes every value from its own place in
the tree and accepts it there only once. Apart from it, a job has strings: all of them in a list, a
function applied to each, and what is left of the job without them.
-/

namespace Transcoding.Conductor

open Xml

def Location.ofElement? (e : Element) : Option Location := do
  return ⟨← e.text? "uri", ← e.text? "username", ← e.text? "password"⟩

def StreamAssembly.ofElement? (e : Element) : Option StreamAssembly := do
  return ⟨← e.text? "name", ← e.text? "preset"⟩

def Output.ofElement? (e : Element) : Option Output := do
  return ⟨← e.text? "stream_assembly_name", ← e.text? "name_modifier", ← e.integer? "order",
    ← e.text? "container"⟩

def OutputGroupType.ofName? (name : String) : Option OutputGroupType :=
  if name = OutputGroupType.file.name then some .file
  else if name = OutputGroupType.appleLive.name then some .appleLive
  else none

/-- The destination stands in the element that the type names. -/
def OutputGroup.ofElement? (e : Element) : Option OutputGroup := do
  let type ← OutputGroupType.ofName? (← e.text? "type")
  let settings ← e.child? type.name
  return ⟨← e.integer? "order", type, ← Location.ofElement? (← settings.child? "destination"),
    ← (e.content.children (.plain "output")).mapM Output.ofElement?⟩

def Job.ofElement? (e : Element) : Option Job :=
  if e.name = .plain "job" then do
    let input ← e.child? "input"
    return ⟨← Location.ofElement? (← input.child? "file_input"), ← e.integer? "priority",
      ← OutputGroup.ofElement? (← e.child? "output_group"),
      ← (e.content.children (.plain "stream_assembly")).mapM StreamAssembly.ofElement?⟩
  else none

/-- The job that the bytes of a document describe. -/
def Job.ofBytes? (bytes : List UInt8) : Option Job := do
  Job.ofElement? (← (Element.ofBytes bytes).toOption)

def Location.strings (l : Location) : List String :=
  [l.uri, l.username, l.password]

def StreamAssembly.strings (s : StreamAssembly) : List String :=
  [s.name, s.preset]

def Output.strings (o : Output) : List String :=
  [o.streamAssemblyName, o.nameModifier, o.container]

def OutputGroup.strings (g : OutputGroup) : List String :=
  g.destination.strings ++ g.outputs.flatMap Output.strings

def Job.strings (j : Job) : List String :=
  j.input.strings ++ j.outputGroup.strings ++ j.streamAssemblies.flatMap StreamAssembly.strings

def Location.mapStrings (f : String → String) (l : Location) : Location :=
  ⟨f l.uri, f l.username, f l.password⟩

def StreamAssembly.mapStrings (f : String → String) (s : StreamAssembly) : StreamAssembly :=
  ⟨f s.name, f s.preset⟩

def Output.mapStrings (f : String → String) (o : Output) : Output :=
  ⟨f o.streamAssemblyName, f o.nameModifier, o.order, f o.container⟩

def OutputGroup.mapStrings (f : String → String) (g : OutputGroup) : OutputGroup :=
  ⟨g.order, g.type, g.destination.mapStrings f, g.outputs.map (Output.mapStrings f)⟩

def Job.mapStrings (f : String → String) (j : Job) : Job :=
  ⟨j.input.mapStrings f, j.priority, j.outputGroup.mapStrings f,
    j.streamAssemblies.map (StreamAssembly.mapStrings f)⟩

/-- What is left of a job without its strings. -/
def Job.shape (j : Job) : Job :=
  j.mapStrings fun _ => ""

theorem Location.mapStrings_eq_self_iff {f : String → String} {l : Location} :
    l.mapStrings f = l ↔ ∀ s ∈ l.strings, f s = s := by
  cases l
  simp [mapStrings, strings]

theorem StreamAssembly.mapStrings_eq_self_iff {f : String → String} {s : StreamAssembly} :
    s.mapStrings f = s ↔ ∀ t ∈ s.strings, f t = t := by
  cases s
  simp [mapStrings, strings]

theorem Output.mapStrings_eq_self_iff {f : String → String} {o : Output} :
    o.mapStrings f = o ↔ ∀ s ∈ o.strings, f s = s := by
  cases o
  simp [mapStrings, strings]

private theorem map_eq_self_iff {α : Type} {f : α → α} {as : List α} :
    as.map f = as ↔ ∀ a ∈ as, f a = a := by
  simpa only [List.map_id, id] using List.map_inj_left (f := f) (g := id) (l := as)

theorem OutputGroup.mapStrings_eq_self_iff {f : String → String} {g : OutputGroup} :
    g.mapStrings f = g ↔ ∀ s ∈ g.strings, f s = s := by
  cases g
  simp only [mapStrings, strings, mk.injEq, true_and, map_eq_self_iff,
    Location.mapStrings_eq_self_iff, Output.mapStrings_eq_self_iff, List.forall_mem_append,
    List.forall_mem_flatMap]

theorem Job.mapStrings_eq_self_iff {f : String → String} {j : Job} :
    j.mapStrings f = j ↔ ∀ s ∈ j.strings, f s = s := by
  cases j
  simp only [mapStrings, strings, mk.injEq, true_and, map_eq_self_iff,
    Location.mapStrings_eq_self_iff, OutputGroup.mapStrings_eq_self_iff,
    StreamAssembly.mapStrings_eq_self_iff, List.forall_mem_append, List.forall_mem_flatMap,
    and_assoc]

end Transcoding.Conductor
