import Mathlib.Data.List.TakeWhile
import Transcoding.Conductor.Submission
import Transcoding.Preset
import Transcoding.Proofs.Text.Letter
import Transcoding.Proofs.Text.Trim

/-!
Which container an extension asks for. Three words ask for adaptive streaming, in any case, and
nothing else gets its container. A container is its own extension: it has no dot in front, and what
it asks for is itself.
-/

namespace Transcoding

theorem OutputOptions.bareExtension_of_head? {extension : String}
    (h : extension.toList.head? ≠ some '.') :
    OutputOptions.bareExtension ⟨extension⟩ = extension := by
  have kept : ∀ c ∈ extension.toList.head?, (c == '.') = false := by
    rintro c hc
    exact beq_eq_false_iff_ne.2 fun hdot => h (hdot ▸ hc)
  rw [bareExtension, Text.dropWhile_of_head? kept, String.ofList_toList]

/-- Only dots are taken off an extension, and no dot is left in front. -/
theorem OutputOptions.exists_dots (extension : String) :
    ∃ dots, extension.toList = dots ++ (OutputOptions.bareExtension ⟨extension⟩).toList ∧
      (∀ d ∈ dots, d = '.') ∧
      (OutputOptions.bareExtension ⟨extension⟩).toList.head? ≠ some '.' := by
  refine ⟨extension.toList.takeWhile (· == '.'), ?_, fun d hd => ?_, fun h => ?_⟩
  · rw [bareExtension, String.toList_ofList, List.takeWhile_append_dropWhile]
  · exact beq_iff_eq.1 (List.mem_takeWhile_imp (p := (· == '.')) hd)
  · have stopped := List.head?_dropWhile_not (· == '.') extension.toList
    rw [bareExtension, String.toList_ofList] at h
    rw [h] at stopped
    cases stopped

namespace Conductor.Container

open Text (InAnyCase IsPlainLower)

/-- Whether an extension without leading dots is for adaptive streaming. -/
def IsAdaptive (extension : String) : Prop :=
  ∃ word ∈ ["ts", "hls", "m3u8"], Text.toLower extension.toList = word.toList

instance : DecidablePred IsAdaptive :=
  fun _ => inferInstanceAs (Decidable (∃ word ∈ ["ts", "hls", "m3u8"], _))

variable {extension : String}

/-- No character of another script is taken for a letter of an adaptive extension. -/
theorem isAdaptive_iff : IsAdaptive extension ↔
    ∃ word ∈ ["ts", "hls", "m3u8"], InAnyCase word.toList extension.toList := by
  have plain : ∀ word ∈ ["ts", "hls", "m3u8"],
      word.toList.all (fun l => decide (IsPlainLower l)) = true := by decide
  exact exists_congr fun word => and_congr_right fun hword =>
    Text.toLower_eq_iff (Text.forall_of_all (plain word hword))

theorem ofExtension_of_isAdaptive (h : IsAdaptive extension) :
    ofExtension extension = ⟨"m3u8", true⟩ := by
  obtain ⟨word, hword, hlower⟩ := h
  have known : (adaptiveExtensions.any fun e => e.toList == Text.toLower extension.toList) = true :=
    List.any_eq_true.2 ⟨word, hword, beq_iff_eq.2 hlower.symm⟩
  rw [ofExtension, if_pos known]

theorem ofExtension_of_not_isAdaptive (h : ¬IsAdaptive extension) :
    ofExtension extension = ⟨if extension = "" then "mp4" else extension, false⟩ := by
  have other :
      ¬(adaptiveExtensions.any fun e => e.toList == Text.toLower extension.toList) = true := by
    intro hany
    obtain ⟨word, hword, hlower⟩ := List.any_eq_true.1 hany
    exact h ⟨word, hword, (beq_iff_eq.1 hlower).symm⟩
  rw [ofExtension, if_neg other]
  by_cases hempty : extension = ""
  · rw [if_pos hempty, if_pos (String.isEmpty_iff.2 hempty)]
  · rw [if_neg hempty, if_neg fun hisEmpty => hempty (String.isEmpty_iff.1 hisEmpty)]

theorem isAdaptive_m3u8 : IsAdaptive "m3u8" :=
  ⟨"m3u8", by decide, rfl⟩

theorem not_isAdaptive_mp4 : ¬IsAdaptive "mp4" := by
  decide

theorem adaptive_iff : (ofExtension extension).adaptive = true ↔ IsAdaptive extension := by
  by_cases h : IsAdaptive extension
  · rw [ofExtension_of_isAdaptive h]
    exact iff_of_true rfl h
  · rw [ofExtension_of_not_isAdaptive h]
    exact iff_of_false nofun h

/-- The container of adaptive streaming is got in no other way. -/
theorem name_eq_m3u8_iff : (ofExtension extension).name = "m3u8" ↔ IsAdaptive extension := by
  by_cases h : IsAdaptive extension
  · rw [ofExtension_of_isAdaptive h]
    exact iff_of_true rfl h
  · rw [ofExtension_of_not_isAdaptive h]
    refine iff_of_false (fun hname => ?_) h
    dsimp only at hname
    split at hname
    · exact absurd hname (by decide)
    · rw [hname] at h
      exact h isAdaptive_m3u8

theorem name_ne_empty (extension : String) : (ofExtension extension).name ≠ "" := by
  by_cases h : IsAdaptive extension
  · rw [ofExtension_of_isAdaptive h]
    decide
  · rw [ofExtension_of_not_isAdaptive h]
    dsimp only
    split
    · decide
    · next hne => exact hne

theorem head?_name_ne_dot (h : extension.toList.head? ≠ some '.') :
    (ofExtension extension).name.toList.head? ≠ some '.' := by
  by_cases hadaptive : IsAdaptive extension
  · rw [ofExtension_of_isAdaptive hadaptive]
    decide
  · rw [ofExtension_of_not_isAdaptive hadaptive]
    dsimp only
    split
    · decide
    · exact h

/-- A container asks for itself. -/
theorem ofExtension_name (extension : String) :
    ofExtension (ofExtension extension).name = ofExtension extension := by
  by_cases h : IsAdaptive extension
  · rw [ofExtension_of_isAdaptive h]
    exact ofExtension_of_isAdaptive isAdaptive_m3u8
  · rw [ofExtension_of_not_isAdaptive h]
    dsimp only
    split
    · exact ofExtension_of_not_isAdaptive not_isAdaptive_mp4
    · next hne => rw [ofExtension_of_not_isAdaptive h, if_neg hne]

end Conductor.Container
end Transcoding
