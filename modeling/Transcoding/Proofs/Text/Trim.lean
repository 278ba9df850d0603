import Mathlib.Data.List.TakeWhile
import Transcoding.Text.Part

/-!
Trimming a text that stands between blanks gives the text, if it has none at its own ends.
-/

namespace Transcoding.Text

/-- A test passed by each member of a text; to decide the statement itself may take a search through
all characters there are. -/
theorem forall_of_all {p : Char → Prop} [DecidablePred p] {cs : List Char}
    (h : cs.all (fun c => decide (p c)) = true) : ∀ c ∈ cs, p c :=
  fun c hc => of_decide_eq_true (List.all_eq_true.1 h c hc)

/-- Whether a text has no blank at either end. -/
def IsTrimmed (cs : List Char) : Prop :=
  (∀ c ∈ cs.head?, isBlank c = false) ∧ ∀ c ∈ cs.getLast?, isBlank c = false

instance : DecidablePred IsTrimmed := fun cs =>
  decidable_of_iff (cs.head?.any isBlank = false ∧ cs.getLast?.any isBlank = false)
    (and_congr (Option.any_eq_false _ _) (Option.any_eq_false _ _))

theorem dropWhile_of_head? {p : Char → Bool} {cs : List Char} (h : ∀ c ∈ cs.head?, p c = false) :
    cs.dropWhile p = cs := by
  cases cs with
  | nil => rfl
  | cons c cs => exact List.dropWhile_cons_of_neg (by simp [h c rfl])

theorem IsTrimmed.trim_eq {before cs after : List Char} (h : IsTrimmed cs)
    (hbefore : ∀ c ∈ before, isBlank c = true) (hafter : ∀ c ∈ after, isBlank c = true) :
    trim (before ++ (cs ++ after)) = cs := by
  have last : cs.reverse.dropWhile isBlank = cs.reverse :=
    dropWhile_of_head? (by rw [List.head?_reverse]; exact h.2)
  have front : (cs ++ after).dropWhile isBlank = cs ++ after ∨ cs = [] := by
    cases cs with
    | nil => exact .inr rfl
    | cons c cs => exact .inl (List.dropWhile_cons_of_neg (by simp [h.1 c rfl]))
  rw [trim, trimWhile, List.dropWhile_append_of_pos hbefore]
  obtain front | rfl := front
  · rw [front, dropEndWhile_append_of_forall cs hafter, dropEndWhile, last, List.reverse_reverse]
  · rw [List.nil_append, List.dropWhile_eq_nil_iff.2 hafter, dropEndWhile_nil]

theorem IsTrimmed.trim_self {cs : List Char} (h : IsTrimmed cs) : trim cs = cs := by
  have alone : trim ([] ++ (cs ++ [])) = cs := h.trim_eq nofun nofun
  rwa [List.nil_append, List.append_nil] at alone

theorem isTrimmed_of_forall {cs : List Char} (h : ∀ c ∈ cs, isBlank c = false) : IsTrimmed cs :=
  ⟨fun c hc => h c (List.mem_of_mem_head? hc), fun c hc => h c (List.mem_of_mem_getLast? hc)⟩

end Transcoding.Text
