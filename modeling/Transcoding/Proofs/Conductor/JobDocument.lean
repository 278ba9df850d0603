import Transcoding.Conductor.Job
import Transcoding.Proofs.Conductor.JobReader
import Transcoding.Proofs.Outcome
import Transcoding.Proofs.Text.Numeral

/-!
Jobs are read back from the documents that submit them. A document gives back its job exactly if no
string of the job has a carriage return or a character that is none of XML; and whatever characters
of XML the strings are made of, the elements of the document are the same.
-/

namespace Transcoding.Conductor

open Xml
open Numeral (Fits read_ofInt write_eq_ok_iff)

section Written

/-- The outline of an output whose order can be written. -/
def Output.written (o : Output) : Outline :=
  .group "output" (.text "stream_assembly_name" o.streamAssemblyName.toList ++
    .text "name_modifier" o.nameModifier.toList ++ .text "order" (Numeral.ofInt o.order) ++
    .text "container" o.container.toList)

def OutputGroup.written (g : OutputGroup) : Outline :=
  .group "output_group" (.text "order" (Numeral.ofInt g.order) ++
    .group g.type.name (g.destination.outline "destination") ++
    .text "type" g.type.name.toList ++ Outline.join (g.outputs.map Output.written))

def Job.writtenInner (j : Job) : Outline :=
  .group "input" (j.input.outline "file_input") ++
    .text "priority" (Numeral.ofInt j.priority) ++ j.outputGroup.written ++
    Outline.join (j.streamAssemblies.map StreamAssembly.outline)

def Job.written (j : Job) : Outline :=
  .group "job" j.writtenInner

/-- The numbers of a job. -/
def Job.numbers (j : Job) : List Int :=
  j.priority :: j.outputGroup.order :: j.outputGroup.outputs.map (·.order)

theorem Job.numbers_mapStrings (f : String → String) (j : Job) :
    (j.mapStrings f).numbers = j.numbers := by
  simp only [numbers, mapStrings, OutputGroup.mapStrings, List.map_map]
  rfl

theorem Output.outline_eq_ok_iff (o : Output) (x : Outline) :
    o.outline = .ok x ↔ Fits o.order ∧ x = o.written := by
  rw [outline, bind_eq_ok_iff_of fun _ => write_eq_ok_iff, pure_eq_ok_iff]
  rfl

theorem OutputGroup.outline_eq_ok_iff (g : OutputGroup) (x : Outline) :
    g.outline = .ok x ↔
      (Fits g.order ∧ ∀ o ∈ g.outputs, Fits o.order) ∧ x = g.written := by
  rw [outline, bind_eq_ok_iff_of fun _ => write_eq_ok_iff,
    bind_eq_ok_iff_of (mapM_eq_ok_iff Output.outline_eq_ok_iff g.outputs), pure_eq_ok_iff,
    and_assoc]
  rfl

theorem Job.outline_eq_ok_iff (j : Job) (x : Outline) :
    j.outline = .ok x ↔ (∀ i ∈ j.numbers, Fits i) ∧ x = j.written := by
  have numbers : (∀ i ∈ j.numbers, Fits i) ↔
      Fits j.priority ∧ Fits j.outputGroup.order ∧ ∀ o ∈ j.outputGroup.outputs, Fits o.order := by
    simp only [Job.numbers, List.forall_mem_cons, List.forall_mem_map]
  rw [outline, bind_eq_ok_iff_of fun _ => write_eq_ok_iff,
    bind_eq_ok_iff_of j.outputGroup.outline_eq_ok_iff, pure_eq_ok_iff, numbers, ← and_assoc]
  rfl

/-- A job has a document exactly if its numbers can be written. -/
theorem Job.document_eq_ok_iff {j : Job} {doc : List Char} :
    j.document = .ok doc ↔ (∀ i ∈ j.numbers, Fits i) ∧ doc = j.written.document := by
  rw [document, bind_eq_ok_iff_of j.outline_eq_ok_iff, pure_eq_ok_iff]

end Written

section Read

private theorem mapM_children_join {α : Type} {write : α → Outline} {read : Element → Option α}
    {name : Name} {as : List α}
    (h : ∀ a ∈ as, ∃ e, (write a).content.children name = [e] ∧ read e = some a) :
    ((Outline.join (as.map write)).content.children name).mapM read = some as := by
  induction as with
  | nil => rfl
  | cons a as ih =>
      obtain ⟨⟨e, he, hread⟩, has⟩ := List.forall_mem_cons.1 h
      rw [Outline.children_join] at ih ⊢
      rw [List.map_cons, List.flatMap_cons, he, List.singleton_append, List.mapM_cons, hread,
        ih has]
      rfl

private theorem children_join_eq_nil {α : Type} {write : α → Outline} {name : Name} {as : List α}
    (h : ∀ a, (write a).content.children name = []) :
    (Outline.join (as.map write)).content.children name = [] := by
  rw [Outline.children_join, List.flatMap_map, List.flatMap_eq_nil_iff]
  exact fun a _ => h a

theorem Location.children_outline (l : Location) (tag : String) :
    ∃ e, (l.outline tag).content.children (.plain tag) = [e] ∧ ofElement? e = some l := by
  refine ⟨_, by rw [outline, Outline.children_group, if_pos rfl], ?_⟩
  simp [ofElement?, Element.text?, Element.child?, Outline.root]

theorem StreamAssembly.children_outline (s : StreamAssembly) :
    ∃ e, s.outline.content.children (.plain "stream_assembly") = [e] ∧
      ofElement? e = some s := by
  refine ⟨_, by rw [outline, Outline.children_group, if_pos rfl], ?_⟩
  simp [ofElement?, Element.text?, Element.child?, Outline.root]

theorem Output.children_written {o : Output} (h : Fits o.order) :
    ∃ e, o.written.content.children (.plain "output") = [e] ∧ ofElement? e = some o := by
  refine ⟨_, by rw [written, Outline.children_group, if_pos rfl], ?_⟩
  simp [ofElement?, Element.text?, Element.child?, Element.integer?, Outline.root, read_ofInt h,
    Except.toOption]

theorem OutputGroup.children_written {g : OutputGroup} (h : Fits g.order)
    (ho : ∀ o ∈ g.outputs, Fits o.order) :
    ∃ e, g.written.content.children (.plain "output_group") = [e] ∧ ofElement? e = some g := by
  -- The element with the destination is named by the type, so it has to be told apart from the rest
  -- for either type.
  obtain ⟨order, type, destination, outputs⟩ := g
  obtain ⟨d, hd, hdestination⟩ := destination.children_outline "destination"
  have houtputs := mapM_children_join fun o hm => Output.children_written (ho o hm)
  have others {name : String} (hn : "output" ≠ name) :
      (Outline.join (outputs.map Output.written)).content.children (.plain name) = [] :=
    children_join_eq_nil fun o => by simp [Output.written, hn]
  refine ⟨_, by rw [written, Outline.children_group, if_pos rfl], ?_⟩
  cases type with
  | file | appleLive =>
      simp [ofElement?, Element.text?, Element.child?, Element.integer?, Outline.root,
        read_ofInt h, Except.toOption, others, OutputGroupType.name, OutputGroupType.ofName?, hd,
        hdestination, houtputs]

/-- The tree of a job is read as the job. -/
theorem Job.ofElement?_root {j : Job} (h : ∀ i ∈ j.numbers, Fits i) :
    ofElement? (Outline.root "job" j.writtenInner) = some j := by
  simp only [numbers, List.forall_mem_cons, List.forall_mem_map] at h
  obtain ⟨hpriority, horder, houtputs⟩ := h
  obtain ⟨input, hinput, hread⟩ := j.input.children_outline "file_input"
  obtain ⟨group, hgroup, hreadGroup⟩ := OutputGroup.children_written horder houtputs
  have assemblies := mapM_children_join fun s (_ : s ∈ j.streamAssemblies) => s.children_outline
  have others {name : String} (hn : "stream_assembly" ≠ name) :
      (Outline.join (j.streamAssemblies.map StreamAssembly.outline)).content.children
        (.plain name) = [] :=
    children_join_eq_nil fun s => by simp [StreamAssembly.outline, hn]
  have groupless {name : String} (hn : "output_group" ≠ name) :
      j.outputGroup.written.content.children (.plain name) = [] := by
    simp [OutputGroup.written, hn]
  simp [ofElement?, writtenInner, Element.text?, Element.child?, Element.integer?, Outline.root,
    read_ofInt hpriority, Except.toOption, others, groupless, hinput, hread, hgroup, hreadGroup,
    assemblies]

end Read

section Texts

theorem Location.legal_outline (l : Location) (tag : String) :
    (l.outline tag).legal = l.strings.all (·.toList.all isXmlChar) := by
  simp [outline, strings, Bool.and_assoc]

theorem StreamAssembly.legal_outline (s : StreamAssembly) :
    s.outline.legal = s.strings.all (·.toList.all isXmlChar) := by
  simp [outline, strings]

theorem Output.legal_written (o : Output) :
    o.written.legal = o.strings.all (·.toList.all isXmlChar) := by
  simp [written, strings, all_isXmlChar_ofInt, Bool.and_assoc]

theorem OutputGroup.legal_written (g : OutputGroup) :
    g.written.legal = g.strings.all (·.toList.all isXmlChar) := by
  have name : g.type.name.toList.all isXmlChar = true := by
    cases g.type <;> rfl
  simp [written, strings, all_isXmlChar_ofInt, name, Location.legal_outline,
    Output.legal_written, Function.comp_def]

theorem Job.legal_writtenInner (j : Job) :
    j.writtenInner.legal = j.strings.all (·.toList.all isXmlChar) := by
  simp [writtenInner, strings, all_isXmlChar_ofInt, Location.legal_outline,
    OutputGroup.legal_written, StreamAssembly.legal_outline, Function.comp_def, Bool.and_assoc]

theorem Location.wellNamed_outline (l : Location) (tag : String)
    (h : isPlainName tag.toList = true) : (l.outline tag).wellNamed = true := by
  rw [outline, Outline.wellNamed_group, h]
  rfl

theorem OutputGroup.wellNamed_written (g : OutputGroup) : g.written.wellNamed = true := by
  have name : isPlainName g.type.name.toList = true := by
    cases g.type <;> rfl
  have outputs : (Outline.join (g.outputs.map Output.written)).wellNamed = true := by
    rw [Outline.wellNamed_join, List.all_map, List.all_eq_true]
    exact fun o _ => rfl
  have destination := g.destination.wellNamed_outline "destination" rfl
  simp only [written, Outline.wellNamed_group, Outline.wellNamed_append, Outline.wellNamed_text,
    name, destination, outputs]
  rfl

theorem Job.wellNamed_writtenInner (j : Job) : j.writtenInner.wellNamed = true := by
  have assemblies :
      (Outline.join (j.streamAssemblies.map StreamAssembly.outline)).wellNamed = true := by
    rw [Outline.wellNamed_join, List.all_map, List.all_eq_true]
    exact fun s _ => rfl
  have input := j.input.wellNamed_outline "file_input" rfl
  simp only [writtenInner, Outline.wellNamed_group, Outline.wellNamed_append,
    Outline.wellNamed_text, input, OutputGroup.wellNamed_written, assemblies]
  rfl

end Texts

section MapTexts

variable {f : List Char → List Char}

/-- A function on texts as one on strings. -/
def onString (f : List Char → List Char) (s : String) : String :=
  String.ofList (f s.toList)

theorem Location.mapTexts_outline (l : Location) (tag : String) :
    (l.outline tag).mapTexts f = (l.mapStrings (onString f)).outline tag := by
  simp [outline, mapStrings, onString]

theorem StreamAssembly.mapTexts_outline (s : StreamAssembly) :
    s.outline.mapTexts f = (s.mapStrings (onString f)).outline := by
  simp [outline, mapStrings, onString]

variable (hf : ∀ cs, '\r' ∉ cs → f cs = cs)

include hf

private theorem map_ofInt (i : Int) : f (Numeral.ofInt i) = Numeral.ofInt i :=
  hf _ fun h => Numeral.forall_mem_ofInt (p := (· ≠ '\r')) (by decide) (by decide) i _ h rfl

theorem Output.mapTexts_written (o : Output) :
    o.written.mapTexts f = (o.mapStrings (onString f)).written := by
  simp [written, mapStrings, onString, map_ofInt hf]

theorem OutputGroup.mapTexts_written (g : OutputGroup) :
    g.written.mapTexts f = (g.mapStrings (onString f)).written := by
  have name : f g.type.name.toList = g.type.name.toList := by
    cases g.type <;> exact hf _ (by decide)
  simp [written, mapStrings, map_ofInt hf, name, Location.mapTexts_outline,
    Output.mapTexts_written hf, Function.comp_def]

theorem Job.mapTexts_writtenInner (j : Job) :
    j.writtenInner.mapTexts f = (j.mapStrings (onString f)).writtenInner := by
  simp [writtenInner, mapStrings, map_ofInt hf, Location.mapTexts_outline,
    OutputGroup.mapTexts_written hf, StreamAssembly.mapTexts_outline, Function.comp_def]

end MapTexts

section Skeleton

variable (f : String → String)

theorem Location.skeleton_outline (l : Location) (tag : String) :
    ((l.mapStrings f).outline tag).content.skeleton = (l.outline tag).content.skeleton := by
  simp [outline, Content.append]

theorem StreamAssembly.skeleton_outline (s : StreamAssembly) :
    (s.mapStrings f).outline.content.skeleton = s.outline.content.skeleton := by
  simp [outline, Content.append]

theorem Output.skeleton_written (o : Output) :
    (o.mapStrings f).written.content.skeleton = o.written.content.skeleton := by
  simp [written, Content.append]

theorem OutputGroup.skeleton_written (g : OutputGroup) :
    (g.mapStrings f).written.content.skeleton = g.written.content.skeleton := by
  simp [written, mapStrings, Location.skeleton_outline, Output.skeleton_written,
    Outline.skeleton_join, Function.comp_def]

theorem Job.skeleton_writtenInner (j : Job) :
    (j.mapStrings f).writtenInner.content.skeleton = j.writtenInner.content.skeleton := by
  simp [writtenInner, mapStrings, Location.skeleton_outline, OutputGroup.skeleton_written,
    StreamAssembly.skeleton_outline, Outline.skeleton_join, Function.comp_def]

end Skeleton

/-- The characters that a document keeps: those of XML 1.0 other than a carriage return. -/
def IsKept (c : Char) : Prop :=
  c = '\t' ∨ c = '\n' ∨ (0x20 ≤ c.toNat ∧ c.toNat ≤ 0xD7FF) ∨
    (0xE000 ≤ c.toNat ∧ c.toNat ≤ 0xFFFD) ∨ (0x10000 ≤ c.toNat ∧ c.toNat ≤ 0x10FFFF)

private theorem isKept_iff (c : Char) : IsKept c ↔ isXmlChar c = true ∧ c ≠ '\r' := by
  have hvalid : c.toNat < 0xD800 ∨ 0xDFFF < c.toNat ∧ c.toNat < 0x110000 := c.valid
  simp only [IsKept, isXmlChar, ne_eq, ← Char.toNat_inj]
  split
  · next h =>
      simp only [Bool.or_eq_true, beq_iff_eq, Char.reduceToNat]
      omega
  · next h =>
      simp only [Bool.and_eq_true, bne_iff_ne, Char.reduceToNat]
      omega

private theorem forall_isKept_iff (ss : List String) :
    (∀ s ∈ ss, ∀ c ∈ s.toList, IsKept c) ↔
      ss.all (·.toList.all isXmlChar) = true ∧ ∀ s ∈ ss, '\r' ∉ s.toList := by
  simp only [isKept_iff, List.all_eq_true]
  constructor
  · intro h
    exact ⟨fun s hs c hc => (h s hs c hc).1, fun s hs hr => (h s hs _ hr).2 rfl⟩
  · rintro ⟨hall, hreturn⟩ s hs c hc
    refine ⟨hall s hs c hc, ?_⟩
    rintro rfl
    exact hreturn s hs hc

private theorem onString_lineEnds_eq_iff (s : String) :
    onString (lineEnds false) s = s ↔ '\r' ∉ s.toList := by
  rw [onString, ← lineEnds_eq_iff, ← String.toList_inj, String.toList_ofList]

/-- The tree of a document: that of its job with the line ends of strings as they are read. -/
theorem Job.element_document {j : Job} {doc : List Char} (h : j.document = .ok doc)
    (hj : j.strings.all (·.toList.all isXmlChar) = true) :
    Element.ofBytes (Text.toUtf8 doc) =
      .ok (Outline.root "job" (j.mapStrings (onString (lineEnds false))).writtenInner) := by
  obtain ⟨_, rfl⟩ := document_eq_ok_iff.1 h
  have fixed : ∀ cs, '\r' ∉ cs → lineEnds false cs = cs := fun _ => lineEnds_of_not_mem
  rw [written, Outline.group,
    Outline.ofBytes_document rfl j.wellNamed_writtenInner (j.legal_writtenInner.trans hj),
    mapTexts_writtenInner fixed]
  rfl

/-- What a document is read as: nothing if it holds a character that is none of XML. -/
theorem Job.ofBytes?_document {j : Job} {doc : List Char} (h : j.document = .ok doc) :
    ofBytes? (Text.toUtf8 doc) =
      if j.strings.all (·.toList.all isXmlChar) then
        some (j.mapStrings (onString (lineEnds false)))
      else none := by
  split
  · next hj =>
      rw [ofBytes?, element_document h hj]
      exact ofElement?_root (by rw [numbers_mapStrings]; exact (document_eq_ok_iff.1 h).1)
  · next hj =>
      obtain ⟨_, rfl⟩ := document_eq_ok_iff.1 h
      have illegal := j.legal_writtenInner.trans (Bool.eq_false_iff.2 hj)
      have tag : isPlainName "job".toList = true := rfl
      obtain ⟨fault, hfault⟩ :=
        Outline.ofBytes_illegal_document tag j.wellNamed_writtenInner illegal
      rw [ofBytes?, written, Outline.group, hfault]
      rfl

theorem Job.skeleton_root_eq {j k : Job} (h : k.shape = j.shape) (f : String → String) :
    (Outline.root "job" (k.mapStrings f).writtenInner).skeleton =
      (Outline.root "job" (j.mapStrings f).writtenInner).skeleton := by
  simp only [Element.skeleton, Outline.root, Element.mk.injEq, true_and]
  calc
    (k.mapStrings f).writtenInner.content.skeleton = k.shape.writtenInner.content.skeleton := by
      rw [skeleton_writtenInner, shape, skeleton_writtenInner]
    _ = j.shape.writtenInner.content.skeleton := by rw [h]
    _ = (j.mapStrings f).writtenInner.content.skeleton := by
      rw [skeleton_writtenInner, shape, skeleton_writtenInner]

theorem Job.exists_document {j k : Job} {doc : List Char} (h : j.document = .ok doc)
    (hshape : k.shape = j.shape) : ∃ doc', k.document = .ok doc' := by
  have numbers : k.numbers = j.numbers := by
    rw [← numbers_mapStrings (fun _ => "") k, ← shape, hshape, shape, numbers_mapStrings]
  exact ⟨_, document_eq_ok_iff.2 ⟨numbers ▸ (document_eq_ok_iff.1 h).1, rfl⟩⟩

/-- A document gives back its job exactly if all its strings are kept, and strings decide nothing
about its elements. -/
theorem Job.read_document {j : Job} {doc : List Char} (h : j.document = .ok doc) :
    (ofBytes? (Text.toUtf8 doc) = some j ↔ ∀ s ∈ j.strings, ∀ c ∈ s.toList, IsKept c) ∧
      ∀ k : Job, k.shape = j.shape →
        (∀ s ∈ j.strings ++ k.strings, ∀ c ∈ s.toList, IsKept c ∨ c = '\r') →
        ∃ doc' e e', k.document = .ok doc' ∧ Element.ofBytes (Text.toUtf8 doc) = .ok e ∧
          Element.ofBytes (Text.toUtf8 doc') = .ok e' ∧ e'.skeleton = e.skeleton := by
  constructor
  · rw [ofBytes?_document h, forall_isKept_iff]
    split
    · next hall =>
        simp only [hall, Option.some_inj, mapStrings_eq_self_iff, onString_lineEnds_eq_iff,
          true_and]
    · next hall => simp [hall]
  · intro k hshape hlegal
    have hxml : ∀ s ∈ j.strings ++ k.strings, ∀ c ∈ s.toList, isXmlChar c = true := by
      intro s hs c hc
      rcases hlegal s hs c hc with hkept | rfl
      · exact ((isKept_iff c).1 hkept).1
      · rfl
    simp only [List.forall_mem_append, ← List.all_eq_true] at hxml
    obtain ⟨doc', hdoc'⟩ := exists_document h hshape
    exact ⟨doc', _, _, hdoc', element_document h hxml.1, element_document hdoc' hxml.2,
      skeleton_root_eq hshape _⟩

/-- A job with markup and blanks in its strings. -/
def markupJob : Job where
  input := { uri := "s3://in/a&b ]]>.mov", username := " ", password := "" }
  priority := 50
  outputGroup := {
    order := -1
    type := .appleLive
    destination := { uri := "</uri><uri>" }
    outputs := [⟨"stream_0", "_720p\n", 0, "m3u8"⟩] }
  streamAssemblies := [⟨"stream_0", "&lt;é"⟩]

theorem Job.read_document_markup :
    ∃ doc, markupJob.document = .ok doc ∧ ofBytes? (Text.toUtf8 doc) = some markupJob ∧
      ∃ doc' e e', markupJob.shape.document = .ok doc' ∧
        Element.ofBytes (Text.toUtf8 doc) = .ok e ∧ Element.ofBytes (Text.toUtf8 doc') = .ok e' ∧
        e'.skeleton = e.skeleton := by
  have h : markupJob.document = .ok markupJob.written.document := by decide +kernel
  have kept : ∀ s ∈ markupJob.strings ++ markupJob.shape.strings, ∀ c ∈ s.toList, IsKept c :=
    (forall_isKept_iff _).2 ⟨by decide +kernel, by decide +kernel⟩
  obtain ⟨read, elements⟩ := Job.read_document h
  exact ⟨_, h, read.2 fun s hs => kept s (List.mem_append_left _ hs),
    elements markupJob.shape rfl fun s hs c hc => .inl (kept s hs c hc)⟩

end Transcoding.Conductor
