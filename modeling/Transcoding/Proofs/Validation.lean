import Mathlib.Data.List.Forall2
import Transcoding.Validation

/-!
What checks of JSON values accept. Each check accepts exactly the values that say something, and
gives what they say; a value that is not accepted is never left without an issue. Checks of parts
make up checks of the whole.
-/

namespace Transcoding

variable {α β : Type}

/-- Two checks give a value only together. -/
theorem Check.seq_eq_valid_iff {f : Check (α → β)} {c : Check α} {b : β} :
    f <*> c = .valid b ↔ ∃ g a, f = .valid g ∧ c = .valid a ∧ g a = b := by
  have done : f <*> c = Check.seq f c := rfl
  rw [done]
  cases f with
  | valid g =>
      cases c with
      | valid a => simp [Check.seq]
      | invalid _ => simp [Check.seq]
  | invalid _ => cases c <;> simp [Check.seq]

theorem Check.map_eq_valid_iff {f : α → β} {c : Check α} {b : β} :
    f <$> c = .valid b ↔ ∃ a, c = .valid a ∧ f a = b := by
  have done : f <$> c = .valid f <*> c := rfl
  rw [done, seq_eq_valid_iff]
  simp

/-- Whether a check gives just what is said, and finds an issue if nothing is. -/
structure Check.Decides (c : Check α) (said : α → Prop) : Prop where
  valid_iff : ∀ a, c = .valid a ↔ said a
  told : c ≠ .invalid []

namespace Check.Decides

variable {c : Check α} {said said' : α → Prop}

theorem congr (h : c.Decides said) (same : ∀ a, said a ↔ said' a) : c.Decides said' :=
  ⟨fun a => (h.valid_iff a).trans (same a), h.told⟩

theorem valid (a : α) : (Check.valid a).Decides (a = ·) :=
  ⟨fun b => by rw [Check.valid.injEq], nofun⟩

theorem issue (kind : IssueKind) (none : ∀ a, ¬said a) : (Check.issue kind).Decides said :=
  ⟨fun a => ⟨nofun, fun h => absurd h (none a)⟩, nofun⟩

theorem seq {f : Check (α → β)} {applied : (α → β) → Prop} (hf : f.Decides applied)
    (h : c.Decides said) : (f <*> c).Decides fun b => ∃ g a, applied g ∧ said a ∧ g a = b := by
  refine ⟨fun b => ?_, fun hnil => ?_⟩
  · rw [seq_eq_valid_iff]
    exact exists_congr fun g => exists_congr fun a =>
      and_congr (hf.valid_iff g) (and_congr_left' (h.valid_iff a))
  · have done : Check.seq f c = .invalid [] := hnil
    cases f with
    | valid g =>
        cases c with
        | valid a => cases done
        | invalid issues => exact h.told (by rw [Check.invalid.inj done])
    | invalid issues =>
        refine hf.told ?_
        cases c with
        | valid a => rw [Check.invalid.inj done]
        | invalid others => rw [(List.append_eq_nil_iff.1 (Check.invalid.inj done)).1]

theorem map (h : c.Decides said) (f : α → β) : (f <$> c).Decides fun b => ∃ a, said a ∧ f a = b :=
  ((valid f).seq h).congr fun b => by simp

theorem under (h : c.Decides said) (place : Place) : (c.under place).Decides said := by
  cases c with
  | valid a => exact h
  | invalid issues =>
      refine ⟨fun a => ⟨nofun, fun ha => nomatch (h.valid_iff a).2 ha⟩, fun hnil => h.told ?_⟩
      rw [List.map_eq_nil_iff.1 (Check.invalid.inj hnil)]

theorem items {check : Json → Check α} {meaning : Json → α → Prop}
    (h : ∀ value, (check value).Decides (meaning value)) (index : Nat) (values : List Json) :
    (Check.items check index values).Decides (List.Forall₂ meaning values) := by
  induction values generalizing index with
  | nil => exact (valid []).congr fun as => by simp [eq_comm]
  | cons value rest ih =>
      refine ((((h value).under _).map List.cons).seq (ih (index + 1))).congr fun as => ?_
      rw [List.forall₂_cons_left_iff]
      constructor
      · rintro ⟨_, as, ⟨a, ha, rfl⟩, has, rfl⟩
        exact ⟨a, as, ha, has, rfl⟩
      · rintro ⟨a, as, ha, has, rfl⟩
        exact ⟨_, as, ⟨a, ha, rfl⟩, has, rfl⟩

end Check.Decides

/-- Whether there is a member of a name and it says a value. -/
def Holds (members : Json.Members) (name : String) (meaning : Json → α → Prop) (a : α) : Prop :=
  ∃ value, members.lookup (.text name) = some value ∧ meaning value a

/-- Whether a member of a name says a value, or there is none and the value is the default. -/
def MayHold (members : Json.Members) (name : String) (default : α) (meaning : Json → α → Prop)
    (a : α) : Prop :=
  (members.lookup (.text name) = none ∧ default = a) ∨ Holds members name meaning a

def IsString (value : Json) (s : String) : Prop :=
  value = .string s

/-- Whether a value is an object whose members are these strings, in order. -/
def IsMapping (value : Json) (entries : List (String × String)) : Prop :=
  value = .object (entries.map fun (name, s) => (.text name, .string s))

namespace Validation

variable {check : Json → Check α} {meaning : Json → α → Prop}

theorem string_decides (value : Json) : (string value).Decides (IsString value) := by
  cases value with
  | string s => exact (Check.Decides.valid s).congr fun a => by simp [IsString]
  | null | bool _ | int _ | float _ | brokenString | array _ | object _ => exact .issue _ nofun

theorem required_decides (members : Json.Members) (name : String)
    (h : ∀ value, (check value).Decides (meaning value)) :
    (required members name check).Decides (Holds members name meaning) := by
  refine Check.Decides.under ?_ _
  cases hlookup : members.lookup (.text name) with
  | some value => exact (h value).congr fun a => by simp [Holds, hlookup]
  | none => exact .issue _ fun a => by simp [Holds, hlookup]

theorem optional_decides (members : Json.Members) (name : String) (default : α)
    (h : ∀ value, (check value).Decides (meaning value)) :
    (optional members name default check).Decides (MayHold members name default meaning) := by
  rw [optional]
  cases hlookup : members.lookup (.text name) with
  | some value => exact ((h value).under _).congr fun a => by simp [MayHold, Holds, hlookup]
  | none => exact (Check.Decides.valid default).congr fun a => by simp [MayHold, Holds, hlookup]

theorem optional_eq_valid_iff {members : Json.Members} {name : String} {default a : α} :
    optional members name default check = .valid a ↔
      MayHold members name default (fun value a => check value = .valid a) a := by
  rw [optional, MayHold, Holds]
  cases members.lookup (.text name) with
  | none => simp
  | some value => cases hcheck : check value <;> simp [Check.under, hcheck]

theorem record_decides (notRecord : IssueKind) (value : Json)
    {check : Json.Members → Check α} {meaning : Json.Members → α → Prop}
    (h : ∀ members, (check members).Decides (meaning members)) :
    (record notRecord value check).Decides fun a =>
      ∃ members, value = .object members ∧ meaning members a := by
  cases value with
  | object members => exact (h members).congr fun a => by simp
  | null | bool _ | int _ | float _ | string _ | brokenString | array _ =>
      exact .issue _ fun a => by simp

theorem list_decides (h : ∀ value, (check value).Decides (meaning value)) (value : Json) :
    (list check value).Decides fun as => ∃ items, value = .array items ∧
      List.Forall₂ meaning items as := by
  cases value with
  | array items => exact (Check.Decides.items h 0 items).congr fun as => by simp
  | null | bool _ | int _ | float _ | string _ | brokenString | object _ =>
      exact .issue _ fun as => by simp

theorem entry_decides (name : Json.Name) (value : Json) :
    (entry name value).Decides fun e => name = .text e.1 ∧ value = .string e.2 := by
  have named : (string name.json).Decides fun s => name = .text s :=
    (string_decides name.json).congr fun s => by cases name <;> simp [IsString, Json.Name.json]
  refine Check.Decides.under ?_ _
  refine (((named.under _).map Prod.mk).seq (string_decides value)).congr fun e => ?_
  constructor
  · rintro ⟨_, s, ⟨n, hname, rfl⟩, hs, rfl⟩
    exact ⟨hname, hs⟩
  · rintro ⟨hname, hs⟩
    exact ⟨_, e.2, ⟨e.1, hname, rfl⟩, hs, rfl⟩

private theorem mapping_go_decides (members : Json.Members) :
    (mapping.go members).Decides fun entries =>
      members = entries.map fun (name, s) => (.text name, .string s) := by
  induction members with
  | nil =>
      refine (Check.Decides.valid []).congr fun entries => ?_
      cases entries with
      | nil => exact ⟨fun _ => rfl, fun _ => rfl⟩
      | cons _ _ => exact ⟨nofun, nofun⟩
  | cons member rest ih =>
      obtain ⟨name, value⟩ := member
      refine (((entry_decides name value).map List.cons).seq ih).congr fun entries => ?_
      constructor
      · rintro ⟨_, entries, ⟨_, ⟨rfl, rfl⟩, rfl⟩, rfl, rfl⟩
        rfl
      · intro h
        cases entries with
        | nil => cases h
        | cons entry entries =>
            obtain ⟨name, s⟩ := entry
            cases h
            exact ⟨_, entries, ⟨_, ⟨rfl, rfl⟩, rfl⟩, rfl, rfl⟩

theorem mapping_decides (value : Json) : (mapping value).Decides (IsMapping value) := by
  cases value with
  | object members => exact (mapping_go_decides members).congr fun entries => by simp [IsMapping]
  | null | bool _ | int _ | float _ | string _ | brokenString | array _ =>
      exact .issue _ nofun

end Validation
end Transcoding
