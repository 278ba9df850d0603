import Transcoding.Conductor.State
import Transcoding.Proofs.Text.Letter

/-!
Which status a Conductor means by what it reports. Seven words mean a status, whatever the case of
their letters. All other texts mean that nothing is known, also those that are such a word but for a
letter of another script or for blanks around it.
-/

namespace Transcoding.Conductor

open Text (InAnyCase IsPlainLower)

/-- The words for a status. There is none for a status that is not known. -/
def wordsFor : Status → List String
  | .queued => ["pending"]
  | .started => ["preprocessing", "running", "postprocessing"]
  | .finished => ["complete"]
  | .canceled => ["cancelled"]
  | .failed => ["error"]
  | .unknown => []

/-- Whether a text means a status: as a word for it, but for the case of its ASCII letters, or as no
word for any status. -/
inductive Means (text : String) : Status → Prop
  | word {status : Status} {word : String} (listed : word ∈ wordsFor status)
      (written : InAnyCase word.toList text.toList) : Means text status
  | nothing (other : ∀ status, ∀ word ∈ wordsFor status, ¬InAnyCase word.toList text.toList) :
      Means text .unknown

namespace State

variable {s t : State} {text : String}

theorem mem_all (s : State) : s ∈ all := by
  cases s <;> decide

theorem name_inj (h : s.name = t.name) : s = t := by
  have distinct : ∀ s ∈ all, ∀ t ∈ all, s.name = t.name → s = t := by decide
  exact distinct s s.mem_all t t.mem_all h

theorem parse_of_lower (h : Text.toLower text.toList = s.name.toList) : parse text = s := by
  rw [parse, h]
  cases hfind : all.find? fun t => t.name.toList == s.name.toList with
  | none =>
      have unnamed := List.find?_eq_none.1 hfind s s.mem_all
      exact absurd (beq_self_eq_true _) unnamed
  | some t =>
      have named : (t.name.toList == s.name.toList) = true :=
        List.find?_some (p := fun t : State => t.name.toList == s.name.toList) hfind
      exact name_inj (String.toList_inj.1 (beq_iff_eq.1 named))

theorem lower_of_parse (h : parse text = s) (known : s ≠ .unknown) :
    Text.toLower text.toList = s.name.toList := by
  rw [parse] at h
  cases hfind : all.find? fun t => t.name.toList == Text.toLower text.toList with
  | none =>
      rw [hfind] at h
      exact absurd h.symm known
  | some t =>
      rw [hfind] at h
      obtain rfl : t = s := h
      have named : (t.name.toList == Text.toLower text.toList) = true :=
        List.find?_some (p := fun t : State => t.name.toList == Text.toLower text.toList) hfind
      exact (beq_iff_eq.1 named).symm

/-- Only the name of the unknown state has a letter that is the lower case of another script's. -/
theorem isPlainLower_name (known : s ≠ .unknown) : ∀ l ∈ s.name.toList, IsPlainLower l := by
  have plain : ∀ s ∈ all, s ≠ .unknown →
      s.name.toList.all (fun l => decide (IsPlainLower l)) = true := by decide
  exact Text.forall_of_all (plain s s.mem_all known)

theorem parse_eq_iff (known : s ≠ .unknown) :
    parse text = s ↔ InAnyCase s.name.toList text.toList := by
  rw [← Text.toLower_eq_iff (isPlainLower_name known)]
  exact ⟨fun h => lower_of_parse h known, parse_of_lower⟩

theorem parse_name (s : State) : parse s.name = s := by
  cases s <;> decide

theorem name_mem_wordsFor (known : s ≠ .unknown) : s.name ∈ wordsFor s.toStatus := by
  have listed : ∀ s ∈ all, s ≠ .unknown → s.name ∈ wordsFor s.toStatus := by decide
  exact listed s s.mem_all known

theorem exists_of_mem_wordsFor {status : Status} {word : String} (h : word ∈ wordsFor status) :
    ∃ s : State, s ≠ .unknown ∧ s.name = word ∧ s.toStatus = status := by
  have named : ∀ word ∈ wordsFor status,
      ∃ s ∈ all, s ≠ .unknown ∧ s.name = word ∧ s.toStatus = status := by
    cases status <;> decide
  obtain ⟨s, -, hs⟩ := named word h
  exact ⟨s, hs⟩

end State

variable {text : String} {status : Status}

theorem means_translateStatus (text : String) : Means text (translateStatus text) := by
  rw [translateStatus]
  by_cases known : State.parse text = .unknown
  · -- A word that the text is written as would have been found.
    rw [known]
    refine .nothing fun status word hword written => ?_
    obtain ⟨s, hs, rfl, -⟩ := State.exists_of_mem_wordsFor hword
    have found : State.parse text = s := (State.parse_eq_iff hs).2 written
    exact hs (found.symm.trans known)
  · exact .word (State.name_mem_wordsFor known) ((State.parse_eq_iff known).1 rfl)

theorem translateStatus_of_word {word : String} (listed : word ∈ wordsFor status)
    (written : InAnyCase word.toList text.toList) : translateStatus text = status := by
  obtain ⟨s, known, rfl, rfl⟩ := State.exists_of_mem_wordsFor listed
  rw [translateStatus, (State.parse_eq_iff known).2 written]

theorem translateStatus_eq_iff : translateStatus text = status ↔ Means text status := by
  constructor
  · rintro rfl
    exact means_translateStatus text
  · intro h
    cases h with
    | word listed written => exact translateStatus_of_word listed written
    | nothing other =>
        have told := means_translateStatus text
        generalize translateStatus text = status at told
        cases told with
        | word listed written => exact absurd written (other _ _ listed)
        | nothing _ => rfl

/-- A text that means a known status has ASCII letters only. -/
theorem Means.isAlpha (h : Means text status) (known : status ≠ .unknown) :
    ∀ c ∈ text.toList, c.isAlpha = true := by
  cases h with
  | nothing _ => exact absurd rfl known
  | @word _ word listed written =>
      have letters : ∀ word ∈ wordsFor status,
          word.toList.all (fun l => decide (l.isAlpha = true ∧ l.toUpper.isAlpha = true)) = true := by
        cases status <;> decide
      exact InAnyCase.forall_mem written (Text.forall_of_all (letters word listed))

/-- A text means the status whose word it is but for the case of its ASCII letters, and nothing is
known of a job otherwise. So no text with a character outside ASCII or with a blank at one of its
ends means a known status. The name of the state that a text stands for means the same as the text.
-/
theorem translateStatus_eq_iff_means (text : String) :
    (∀ status, translateStatus text = status ↔ Means text status) ∧
      ((∃ c ∈ text.toList, 0x80 ≤ c.toNat) ∨ ¬Text.IsTrimmed text.toList →
        translateStatus text = .unknown) ∧
      translateStatus (State.parse text).name = translateStatus text := by
  refine ⟨fun status => translateStatus_eq_iff, fun odd => ?_, ?_⟩
  · by_contra known
    have letters := (means_translateStatus text).isAlpha known
    have alphanum : ∀ c ∈ text.toList, c.isAlphanum = true := fun c hc =>
      Text.isAlphanum_of_isAlpha (letters c hc)
    obtain ⟨c, hc, outside⟩ | blank := odd
    · have bounds := Text.bounds_of_isAlphanum (alphanum c hc)
      omega
    · exact blank (Text.isTrimmed_of_forall fun c hc => Text.isBlank_of_isAlphanum (alphanum c hc))
  · rw [translateStatus, State.parse_name, translateStatus]

example : translateStatus "CompLete" = .finished := by decide

end Transcoding.Conductor
