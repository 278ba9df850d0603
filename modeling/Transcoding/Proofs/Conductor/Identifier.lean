import Transcoding.Conductor.JobReport
import Transcoding.Proofs.Text.Segment

/-!
The identifier of a job. It is the last segment of the address that a report gives, whatever stands
in front of it and however many slashes follow.
-/

namespace Transcoding.Conductor.JobReport

open Text (EndsIn segments)

variable {r : JobReport}

theorem id_eq_iff {name : String} : r.id = name ↔ EndsIn r.href.toList name.toList := by
  rw [Text.endsIn_iff, ← String.toList_inj, id, String.toList_ofList]
  exact eq_comm

theorem endsIn_href (r : JobReport) : EndsIn r.href.toList r.id.toList :=
  id_eq_iff.1 rfl

theorem id_eq_empty_iff : r.id = "" ↔ segments r.href.toList = [] := by
  rw [← String.toList_eq_nil_iff]
  constructor
  · intro h
    exact Text.segments_of_slashes (r.endsIn_href.eq_nil_iff.1 h)
  · intro h
    rw [r.endsIn_href.eq_getLastD, h]
    rfl

theorem toList_slashes {slashes : Nat} :
    ∀ c ∈ (String.ofList (List.replicate slashes '/')).toList, c = '/' := by
  rw [String.toList_ofList]
  exact fun c hc => List.eq_of_mem_replicate hc

theorem toList_below (directory path : String) :
    (directory ++ "/" ++ path).toList = directory.toList ++ '/' :: path.toList := by
  simp

/-- A report names its job by the last segment of the address that is not empty, and by nothing if
there is none. Slashes at the end of an address do not matter, and neither does what stands in front
of one that has a segment. -/
theorem id_eq_last_segment (r : JobReport) :
    r.id.toList = (segments r.href.toList).getLastD [] ∧
      (r.id = "" ↔ segments r.href.toList = []) ∧
      '/' ∉ r.id.toList ∧
      (∀ slashes : Nat,
        { r with href := r.href ++ String.ofList (List.replicate slashes '/') }.id = r.id) ∧
      (r.id ≠ "" → ∀ directory : String, { r with href := directory ++ "/" ++ r.href }.id = r.id) ∧
      { r with href := r.id }.id = r.id ∧
      ∀ (directory name : String) (slashes : Nat), name ≠ "" → '/' ∉ name.toList →
        { r with href :=
          directory ++ "/" ++ name ++ String.ofList (List.replicate slashes '/') }.id = name := by
  have ends := r.endsIn_href
  refine ⟨ends.eq_getLastD, id_eq_empty_iff, ends.1, fun slashes => ?_, fun named directory => ?_,
    ?_, fun directory name slashes named hslash => ?_⟩
  · rw [id_eq_iff, String.toList_append]
    exact ends.append_slashes toList_slashes
  · rw [id_eq_iff, toList_below]
    exact ends.below (mt String.toList_eq_nil_iff.1 named) directory.toList
  · rw [id_eq_iff]
    exact Text.endsIn_self ends.1
  · rw [id_eq_iff, String.toList_append, toList_below]
    have below := (Text.endsIn_self hslash).below (mt String.toList_eq_nil_iff.1 named)
      directory.toList
    exact below.append_slashes toList_slashes

theorem id_eq_last_segment_seventeen :
    let r : JobReport := { href := "/jobs//17//" }
    r.id = "17" ∧ { r with href := "https://conductor.example.com" ++ "/" ++ r.href }.id = "17" ∧
      { r with href := "/jobs" ++ "/" ++ "18 a" ++ String.ofList (List.replicate 2 '/') }.id =
        "18 a" := by
  intro r
  have named : r.id = "17" := by decide
  obtain ⟨-, -, -, -, below, -, address⟩ := id_eq_last_segment r
  refine ⟨named, ?_, address "/jobs" "18 a" 2 (by decide) (by decide)⟩
  rw [below (by rw [named]; decide), named]

end Transcoding.Conductor.JobReport
