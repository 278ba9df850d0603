import Transcoding.Conductor.Submission
import Transcoding.Proofs.Text.Segment

/-!
Where the outputs of a source go. Only the file name of the source matters, without its last
extension; slashes at the end of the root do not.
-/

namespace Transcoding.Conductor

open Text (HasFileName HasStem IsBare)

/-- Whether a result is where the outputs of a source go below a root: the root without the slashes
at its end, one slash, and the stem of the file name of the source. -/
inductive IsDestination (source root : String) : String → Prop
  | intro {base name stem : List Char} (bare : IsBare root.toList base)
      (named : HasFileName source.toList name) (stemmed : HasStem name stem) :
      IsDestination source root (String.ofList (base ++ '/' :: stem))

variable {source root result : String}

theorem IsDestination.eq_destination (h : IsDestination source root result) :
    destination source root = result := by
  obtain ⟨bare, named, stemmed⟩ := h
  rw [destination, bare.eq_dropTrailingSlashes, named.lastSegment_eq, stemmed.stem_eq]

theorem isDestination_destination (source root : String) :
    IsDestination source root (destination source root) := by
  obtain ⟨name, named⟩ := Text.exists_hasFileName source.toList
  obtain ⟨stem, stemmed⟩ := Text.exists_hasStem name
  have below := IsDestination.intro (Text.isBare_dropTrailingSlashes root.toList) named stemmed
  rw [below.eq_destination]
  exact below

theorem destination_eq_iff :
    destination source root = result ↔ IsDestination source root result := by
  constructor
  · rintro rfl
    exact isDestination_destination source root
  · exact IsDestination.eq_destination

theorem isBare_appendSlashes {base : String} (bare : base.toList.getLast? ≠ some '/')
    (slashes : Nat) :
    IsBare (base ++ String.ofList (List.replicate slashes '/')).toList base.toList := by
  refine ⟨⟨slashes, ?_⟩, bare⟩
  rw [String.toList_append, String.toList_ofList]

/-- Outputs go below the root, whatever slashes it ends in, and there by the file name of their
source up to its last dot. No directory of the source matters and no earlier dot, and what is added
to the root is never more than one segment. -/
theorem destination_joins_one_segment :
    (∀ source root result : String,
      destination source root = result ↔ IsDestination source root result) ∧
      (∀ (directory name extension base : String) (slashes : Nat),
        '/' ∉ name.toList → '/' ∉ extension.toList → '.' ∉ extension.toList →
        base.toList.getLast? ≠ some '/' →
        destination (directory ++ "/" ++ name ++ "." ++ extension)
          (base ++ String.ofList (List.replicate slashes '/')) = base ++ "/" ++ name) ∧
      ∀ (source base : String) (slashes : Nat), base.toList.getLast? ≠ some '/' →
        ∃ stem : String, '/' ∉ stem.toList ∧
          destination source (base ++ String.ofList (List.replicate slashes '/')) =
            base ++ "/" ++ stem := by
  refine ⟨fun _ _ _ => destination_eq_iff, ?_, ?_⟩
  · intro directory name extension base slashes hname hslash hdot bare
    have named : HasFileName (directory ++ "/" ++ name ++ "." ++ extension).toList
        (name.toList ++ '.' :: extension.toList) := by
      have written : (directory ++ "/" ++ name ++ "." ++ extension).toList =
          directory.toList ++ '/' :: (name.toList ++ '.' :: extension.toList) := by simp
      rw [written]
      exact .below (by simp [hname, hslash])
    have below := IsDestination.intro (isBare_appendSlashes bare slashes) named (.dotted hdot)
    rw [below.eq_destination]
    simp [← String.toList_inj]
  · intro source base slashes bare
    obtain ⟨name, named⟩ := Text.exists_hasFileName source.toList
    obtain ⟨stem, stemmed⟩ := Text.exists_hasStem name
    have below := IsDestination.intro (isBare_appendSlashes bare slashes) named stemmed
    refine ⟨String.ofList stem, ?_, ?_⟩
    · rw [String.toList_ofList]
      exact fun hslash => named.not_mem_slash (stemmed.subset hslash)
    · rw [below.eq_destination]
      simp [← String.toList_inj]

example : destination "s3://in/a.b/film.final.mov" "s3://out//" = "s3://out/film.final" := by decide

end Transcoding.Conductor
