import Transcoding.Failure
import Transcoding.Proofs.Text.Quoted

/-!
What can be told from the message of a failure: which settings are missing, and for want of which
provider or preset something could not be done. No name that callers choose makes a message look
like that of another name, or puts a line end or a control into it.
-/

namespace Transcoding

namespace Text

variable {first second : Char} {part part' : List Char} {parts parts' : List (List Char)}

/-- A separator of two characters is one of them, and the other stands in front of a part. -/
theorem intercalate_pair (first second : Char) (part : List Char) (parts : List (List Char)) :
    [first, second].intercalate (part :: parts) =
      [first].intercalate (part :: parts.map (second :: ·)) := by
  induction parts generalizing part with
  | nil => rfl
  | cons next parts ih =>
      rw [List.intercalate_cons_cons, ih, List.map_cons, List.intercalate_cons_cons]
      cases parts with
      | nil => simp
      | cons last parts => simp [List.intercalate_cons_cons]

/-- Texts that do not have the separator in them can be told from all of them in a row. -/
theorem intercalate_pair_inj (distinct : first ≠ second)
    (h : ∀ cs ∈ part :: parts, first ∉ cs) (h' : ∀ cs ∈ part' :: parts', first ∉ cs)
    (same : [first, second].intercalate (part :: parts) =
      [first, second].intercalate (part' :: parts')) : part :: parts = part' :: parts' := by
  have spaced {part : List Char} {parts : List (List Char)}
      (h : ∀ cs ∈ part :: parts, first ∉ cs) :
      List.splitOn first ([first, second].intercalate (part :: parts)) =
        part :: parts.map (second :: ·) := by
    rw [intercalate_pair]
    refine List.splitOn_intercalate first (fun cs hcs => ?_) (List.cons_ne_nil _ _)
    obtain rfl | hcs := List.mem_cons.1 hcs
    · exact h _ List.mem_cons_self
    · obtain ⟨cs, hmem, rfl⟩ := List.mem_map.1 hcs
      rw [List.mem_cons, not_or]
      exact ⟨distinct, h cs (List.mem_cons_of_mem _ hmem)⟩
  have split : part :: parts.map (second :: ·) = part' :: parts'.map (second :: ·) := by
    rw [← spaced h, ← spaced h', same]
  obtain ⟨rfl, tails⟩ := List.cons.inj split
  rw [(List.map_inj_right fun _ _ h => (List.cons.inj h).2).1 tails]

end Text

theorem Failure.message_missingSettings (names : List String) :
    (Failure.missingSettings names).message =
      "missing Elemental Conductor configuration. Please define the environment variables " ++
        ", ".intercalate names ++ " or set these values in the .env file" :=
  rfl

/-- The message about settings that are not given tells which they are. -/
theorem Failure.missingSettings_inj {names names' : List String} (lacking : names ≠ [])
    (lacking' : names' ≠ []) (h : ∀ name ∈ names, ',' ∉ name.toList)
    (h' : ∀ name ∈ names', ',' ∉ name.toList)
    (same : (Failure.missingSettings names).message = (Failure.missingSettings names').message) :
    names = names' := by
  have listed : (", ".intercalate names).toList = (", ".intercalate names').toList := by
    rw [message_missingSettings, message_missingSettings, String.append_left_inj,
      String.append_right_inj] at same
    rw [same]
  rw [String.toList_intercalate, String.toList_intercalate] at listed
  obtain ⟨name, names, rfl⟩ := List.exists_cons_of_ne_nil lacking
  obtain ⟨name', names', rfl⟩ := List.exists_cons_of_ne_nil lacking'
  have free {names : List String} (h : ∀ name ∈ names, ',' ∉ name.toList) :
      ∀ cs ∈ names.map String.toList, ',' ∉ cs :=
    List.forall_mem_map.2 h
  have texts : (name :: names).map String.toList = (name' :: names').map String.toList :=
    Text.intercalate_pair_inj (by decide : ',' ≠ ' ') (free h) (free h') listed
  exact (List.map_inj_right fun _ _ => String.toList_inj.1).1 texts

namespace Failure

theorem message_providerNotFound (name : String) :
    (providerNotFound name).message = "provider not found: " ++ Text.quoted name :=
  rfl

theorem message_presetNotFound {preset : String} (named : preset ≠ "") (provider : String) :
    (presetNotFound preset provider).message =
      "preset " ++ Text.quoted preset ++ " not found in provider " ++ Text.quoted provider :=
  if_neg (mt String.isEmpty_iff.1 named)

theorem message_presetNotFound_empty (provider : String) :
    (presetNotFound "" provider).message = "preset not found in provider" :=
  rfl

theorem providerNotFound_inj {name name' : String}
    (same : (providerNotFound name).message = (providerNotFound name').message) : name = name' := by
  rw [message_providerNotFound, message_providerNotFound, String.append_right_inj] at same
  exact Text.quoted_inj same

theorem presetNotFound_inj {preset preset' provider provider' : String} (named : preset ≠ "")
    (named' : preset' ≠ "")
    (same : (presetNotFound preset provider).message = (presetNotFound preset' provider').message) :
    preset = preset' ∧ provider = provider' := by
  rw [message_presetNotFound named, message_presetNotFound named'] at same
  simp only [String.append_assoc, String.append_right_inj] at same
  obtain ⟨rfl, rest⟩ := Text.quoted_append_inj same
  exact ⟨rfl, Text.quoted_inj ((String.append_right_inj _).1 rest)⟩

/-- Whatever names are put into a message about them, all of it is printable. -/
theorem printable_message {f : Failure}
    (h : f.kind = .providerNotFound ∨ f.kind = .presetNotFound) : Text.Printable f.message := by
  cases f with
  | providerNotFound name =>
      rw [message_providerNotFound]
      exact .append (Text.printable_of_all (by decide)) (Text.printable_quoted name)
  | presetNotFound preset provider =>
      by_cases named : preset = ""
      · rw [named, message_presetNotFound_empty]
        exact Text.printable_of_all (by decide)
      · rw [message_presetNotFound named]
        have first : Text.Printable "preset " := Text.printable_of_all (by decide)
        have between : Text.Printable " not found in provider " :=
          Text.printable_of_all (by decide)
        exact ((first.append (Text.printable_quoted preset)).append between).append
          (Text.printable_quoted provider)
  | plain _ | unnamedProvider | uncallableFactory _ | alreadyRegistered _ | missingSettings _
  | invalidConfig _ | transport _ | capacity _ _ => simp [kind] at h

/-- A message tells for want of which provider, or of which preset of which provider, something
could not be done: messages about different names differ, whatever the names are. None has a control
or a line end in it. -/
theorem message_determines_names :
    (∀ name name' : String,
      (providerNotFound name).message = (providerNotFound name').message → name = name') ∧
      (∀ preset provider preset' provider' : String, preset ≠ "" → preset' ≠ "" →
        (presetNotFound preset provider).message = (presetNotFound preset' provider').message →
          preset = preset' ∧ provider = provider') ∧
      ∀ f : Failure, f.kind = .providerNotFound ∨ f.kind = .presetNotFound →
        ∀ c ∈ f.message.toList,
          Text.isPrintable c = true ∧ ¬Text.IsControlCode c ∧ ¬Text.EndsLine c := by
  refine ⟨fun _ _ => providerNotFound_inj, fun _ _ _ _ named named' =>
    presetNotFound_inj named named', fun f hf c hc => ?_⟩
  have printable := printable_message hf c hc
  exact ⟨printable, Text.not_isControlCode_of_isPrintable printable,
    Text.not_endsLine_of_isPrintable printable⟩

/-- With names put in as they are, the first two messages would be one, and the last one would have
a second line. -/
theorem message_determines_names_forged :
    (presetNotFound "a' not found in provider 'b" "c").message ≠
        (presetNotFound "a" "b' not found in provider 'c").message ∧
      ∀ c ∈ (providerNotFound "a'\n2026-01-01 ERROR all lost").message.toList,
        ¬Text.EndsLine c := by
  obtain ⟨-, presets, printable⟩ := message_determines_names
  constructor
  · intro same
    obtain ⟨preset, -⟩ := presets _ _ _ _ (by decide) (by decide) same
    exact absurd preset (by decide)
  · intro c hc
    exact (printable _ (.inl rfl) c hc).2.2

end Failure
end Transcoding
