import Transcoding.Failure

/-!
The registry of providers: what makes a provider, by name. A name is registered at most once and is
never empty; the names are listed in order.
-/

namespace Transcoding

structure Registry (α : Type) where
  entries : List (String × α)
  sorted : entries.Pairwise (·.1 < ·.1)
  named : ∀ e ∈ entries, e.1 ≠ ""

namespace Registry

variable {α : Type}

def empty : Registry α := ⟨[], .nil, by simp⟩

/-- The entries with one more at its place. -/
def place (name : String) (factory : α) : List (String × α) → List (String × α)
  | [] => [(name, factory)]
  | e :: rest =>
    if name < e.1 then (name, factory) :: e :: rest else e :: place name factory rest

def find? (r : Registry α) (name : String) : Option α :=
  r.entries.lookup name

def names (r : Registry α) : List String :=
  r.entries.map (·.1)

theorem mem_place {name : String} {factory : α} {entries : List (String × α)} {e : String × α} :
    e ∈ place name factory entries ↔ e = (name, factory) ∨ e ∈ entries := by
  induction entries with
  | nil => simp [place]
  | cons head rest ih =>
    simp only [place]
    split
    · simp
    · simp only [List.mem_cons, ih]
      constructor <;> rintro (h | h | h) <;> simp [h]

theorem sorted_place {name : String} {factory : α} {entries : List (String × α)}
    (sorted : entries.Pairwise (·.1 < ·.1)) (fresh : ∀ e ∈ entries, e.1 ≠ name) :
    (place name factory entries).Pairwise (·.1 < ·.1) := by
  induction entries with
  | nil => simp [place]
  | cons head rest ih =>
    have ⟨first, others⟩ := List.pairwise_cons.1 sorted
    have differs : head.1 ≠ name := fresh head (by simp)
    simp only [place]
    split
    · rename_i before
      refine List.pairwise_cons.2 ⟨fun e h => ?_, sorted⟩
      rcases List.mem_cons.1 h with rfl | h
      · exact before
      · exact String.lt_trans before (first e h)
    · rename_i notBefore
      have after : head.1 < name :=
        Std.lt_of_le_of_ne (String.not_lt.1 notBefore) differs
      refine List.pairwise_cons.2 ⟨fun e h => ?_, ih others fun e h => fresh e (by simp [h])⟩
      rcases mem_place.1 h with rfl | h
      · exact after
      · exact first e h

/-- Registers what makes a provider under a name; nothing stands for what cannot make one. -/
def register (r : Registry α) (name : String) (factory : Option α) : Except Failure (Registry α) :=
  if unnamed : name = "" then .error .unnamedProvider
  else match factory with
    | none => .error (.uncallableFactory name)
    | some f =>
      if taken : ∃ e ∈ r.entries, e.1 = name then .error (.alreadyRegistered name)
      else .ok {
        entries := place name f r.entries
        sorted := sorted_place r.sorted fun e h same => taken ⟨e, h, same⟩
        named := fun e h => by
          rcases mem_place.1 h with rfl | h
          · exact unnamed
          · exact r.named e h }

/-- The registry without a name, which need not be there. -/
def unregister (r : Registry α) (name : String) : Registry α where
  entries := r.entries.filter (·.1 != name)
  sorted := r.sorted.filter _
  named := fun e h => r.named e (List.mem_filter.1 h).1

def get (r : Registry α) (name : String) : Except Failure α :=
  match r.find? name with
  | some factory => .ok factory
  | none => .error (.providerNotFound name)

def single (name : String) (factory : α) (named : name ≠ "") : Registry α where
  entries := [(name, factory)]
  sorted := by simp
  named := by simpa using named

end Registry
end Transcoding
