import Mathlib.Data.List.Basic
import Transcoding.Dotenv
import Transcoding.Proofs.Keyed

/-!
Which variables the values in a file of variables depend on. A value depends on those that it refers
to in braces and on no others, so some assignments can be read without the rest if none of them
refers to it.
-/

namespace Transcoding.Dotenv

/-- Whether the values of the names that are kept refer to no others. -/
def IsClosed (keep : List Char → Bool) (lines : List Assignment) : Prop :=
  ∀ a ∈ lines, keep a.1 = true → ∀ value ∈ a.2, ∀ name ∈ referred value, keep name = true

variable {keep : List Char → Bool}

theorem interpolate_filter {value : List Char} (h : ∀ name ∈ referred value, keep name = true)
    (known : List Assignment) :
    interpolate (known.filter fun a => keep a.1) value = interpolate known value := by
  rw [interpolate, interpolate]
  refine List.flatMap_congr fun atom hatom => ?_
  cases atom with
  | text c => rfl
  | value name default =>
      dsimp only
      rw [lookup_filter, if_pos (h name (List.mem_filterMap.2 ⟨_, hatom, rfl⟩))]

theorem resolve_filter {lines : List Assignment} (h : IsClosed keep lines)
    (known : List Assignment) :
    (resolve known lines).filter (fun a => keep a.1) =
      resolve (known.filter fun a => keep a.1) (lines.filter fun a => keep a.1) := by
  induction lines generalizing known with
  | nil => rfl
  | cons a lines ih =>
      obtain ⟨name, value⟩ := a
      obtain ⟨closed, others⟩ := List.forall_mem_cons.1 h
      rw [resolve, List.filter_cons, List.filter_cons, ih others]
      cases hkeep : keep name with
      | false =>
          -- The assignment is left out, and so is what it adds to the values known.
          simp [hkeep]
      | true =>
          have same : value.map (interpolate (known.filter fun a => keep a.1)) =
              value.map (interpolate known) :=
            Option.map_congr fun v hv => interpolate_filter (closed hkeep v hv) known
          simp [hkeep, resolve, same]

theorem assign_filter (a : Assignment) (found : List Assignment) :
    (assign a found).filter (fun a => keep a.1) =
      if keep a.1 then assign a (found.filter fun a => keep a.1)
      else found.filter fun a => keep a.1 := by
  induction found with
  | nil =>
      rw [assign, List.filter_cons, List.filter_nil]
      rfl
  | cons b found ih =>
      rw [assign]
      split
      · next same => cases hkeep : keep a.1 <;> simp [same, hkeep, assign]
      · next other =>
          rw [List.filter_cons, List.filter_cons, ih]
          cases keep a.1 <;> cases keep b.1 <;> simp [assign, other]

theorem foldl_assign_filter (lines found : List Assignment) :
    (lines.foldl (fun found a => assign a found) found).filter (fun a => keep a.1) =
      (lines.filter fun a => keep a.1).foldl (fun found a => assign a found)
        (found.filter fun a => keep a.1) := by
  induction lines generalizing found with
  | nil => rfl
  | cons a lines ih =>
      rw [List.foldl_cons, ih, assign_filter, List.filter_cons]
      cases keep a.1 <;> rfl

/-- What a file gives the names that are kept is what their assignments alone would give. -/
theorem read_filter {text : List Char} (h : IsClosed keep (written text))
    (environment : List (List Char × List Char)) :
    (read environment text).filter (fun a => keep a.1) =
      (resolve (initial (environment.filter fun v => keep v.1))
        ((written text).filter fun a => keep a.1)).foldl (fun found a => assign a found) [] := by
  have known : (initial environment).filter (fun a => keep a.1) =
      initial (environment.filter fun v => keep v.1) := by
    rw [initial, initial, List.filter_map, List.filter_reverse]
    rfl
  rw [read, foldl_assign_filter, resolve_filter h, known]
  rfl

end Transcoding.Dotenv
