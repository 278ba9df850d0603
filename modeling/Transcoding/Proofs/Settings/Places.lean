import Transcoding.Proofs.Dotenv
import Transcoding.Settings.Environment

/-!
Where variables are set, and what they are set to. A name may be written in any case, the last
assignment to it is the one that counts, and the environment counts before the file.
-/

namespace Transcoding.Settings

/-- Whether a variable of a name, in any case, is set to a value. -/
def IsSet (found : List Dotenv.Assignment) (name : String) (value : List Char) : Prop :=
  ∃ spelling, Text.toLower spelling = name.toList ∧ (spelling, some value) ∈ found

/-- Whether no two variables have one name but for letter case. -/
def IsDistinct (found : List Dotenv.Assignment) : Prop :=
  (found.map fun a => Text.toLower a.1).Nodup

instance : DecidablePred IsDistinct :=
  fun found => inferInstanceAs (Decidable (found.map fun a => Text.toLower a.1).Nodup)

namespace Variables

/-- The variables after one more assignment. -/
def set (known : Variables) (a : Dotenv.Assignment) : Variables :=
  let others := known.filter (·.1 != a.1)
  match a.2 with
  | some value => (a.1, value) :: others
  | none => others

theorem lookup_set (known : Variables) (a : Dotenv.Assignment) (name : List Char) :
    (known.set a).lookup name = if a.1 == name then a.2 else known.lookup name := by
  obtain ⟨written, value⟩ := a
  have others := lookup_filter (· != written) name known
  rw [Bool.beq_comm, set]
  cases hname : name == written with
  | true =>
      obtain rfl := eq_of_beq hname
      cases value <;> simp [others]
  | false =>
      rw [bne, hname, if_pos Bool.not_false] at others
      cases value with
      | none => exact others
      | some _ => rw [List.lookup_cons, hname]; exact others

theorem lookup_go (known : Variables) (found : List Dotenv.Assignment) (name : List Char) :
    (ofAssignments.go known found).lookup name =
      ((found.filter (·.1 == name)).getLast?.map (·.2)).getD (known.lookup name) := by
  induction found generalizing known with
  | nil => rfl
  | cons a found ih =>
      have step : ofAssignments.go known (a :: found) = ofAssignments.go (known.set a) found := rfl
      rw [step, ih, lookup_set, List.filter_cons]
      cases a.1 == name with
      | true =>
          rw [if_pos rfl, if_pos rfl, List.getLast?_cons]
          cases (found.filter (·.1 == name)).getLast? <;> rfl
      | false => rfl

variable {found : List Dotenv.Assignment} {name : String}

theorem get?_ofAssignments (found : List Dotenv.Assignment) (name : String) :
    (ofAssignments found).get? name =
      (found.filter fun a => Text.toLower a.1 == name.toList).getLast?.bind (·.2) := by
  rw [get?, ofAssignments, lookup_go, List.filter_map, List.getLast?_map, Option.map_map]
  change ((found.filter fun a => Text.toLower a.1 == name.toList).getLast?.map (·.2)).getD none = _
  cases (found.filter fun a => Text.toLower a.1 == name.toList).getLast? <;> rfl

theorem get?_eq_some_iff (h : IsDistinct found) {value : List Char} :
    (ofAssignments found).get? name = some value ↔ IsSet found name value := by
  rw [get?_ofAssignments]
  constructor
  · intro hvalue
    obtain ⟨a, hlast, ha⟩ := Option.bind_eq_some_iff.1 hvalue
    obtain ⟨hmem, hname⟩ := List.mem_filter.1 (List.mem_of_getLast? hlast)
    refine ⟨a.1, beq_iff_eq.1 hname, ?_⟩
    rw [← ha]
    exact hmem
  · rintro ⟨spelling, hname, hmem⟩
    have alone := filter_key_eq_singleton h hmem
    rw [← hname, alone]
    rfl

theorem get?_eq_none_iff (h : IsDistinct found) :
    (ofAssignments found).get? name = none ↔ ∀ value, ¬IsSet found name value := by
  rw [Option.eq_none_iff_forall_ne_some]
  exact forall_congr' fun _ => not_congr (get?_eq_some_iff h)

end Variables

/-- Whether the variable of a name is none of some others, in whatever case it is written. -/
def Spares (others : List Char → Bool) (name : String) : Prop :=
  ∀ spelling, Text.toLower spelling = name.toList → others spelling = false

theorem spares_iff {other : List Char} {name : String} :
    Spares (· == other) name ↔ Text.toLower other ≠ name.toList := by
  constructor
  · exact fun h same => beq_eq_false_iff_ne.1 (h other same) rfl
  · exact fun h spelling same => beq_eq_false_iff_ne.2 fun hspelling => h (hspelling ▸ same)

section Spared

variable {others : List Char → Bool} {name : String} {found : List Dotenv.Assignment}

theorem Spares.isSet_filter (h : Spares others name) {value : List Char} :
    IsSet (found.filter (!others ·.1)) name value ↔ IsSet found name value := by
  refine exists_congr fun spelling => and_congr_right fun hname => ?_
  rw [List.mem_filter, h spelling hname]
  exact and_iff_left rfl

theorem Spares.get?_filter (h : Spares others name) :
    (Variables.ofAssignments (found.filter (!others ·.1))).get? name =
      (Variables.ofAssignments found).get? name := by
  have same : (found.filter (!others ·.1)).filter (Text.toLower ·.1 == name.toList) =
      found.filter (Text.toLower ·.1 == name.toList) := by
    rw [List.filter_filter]
    refine List.filter_congr fun a _ => ?_
    cases hname : Text.toLower a.1 == name.toList with
    | true => rw [h _ (beq_iff_eq.1 hname)]; rfl
    | false => rfl
  rw [Variables.get?_ofAssignments, Variables.get?_ofAssignments, same]

end Spared

/-- Where variables are set: an environment, and a file if there is one. -/
structure Places where
  environment : List (String × String)
  file : Option String

namespace Places

/-- The text of the file; a file that does not exist counts as an empty one. -/
def text (p : Places) : List Char :=
  (p.file.getD "").toList

def given (p : Places) : List (List Char × List Char) :=
  p.environment.map fun (name, value) => (name.toList, value.toList)

/-- What the environment sets. -/
def inEnvironment (p : Places) : List Dotenv.Assignment :=
  p.given.map fun (name, value) => (name, some value)

/-- What the file sets, with each variable that a value refers to replaced. -/
def inFile (p : Places) : List Dotenv.Assignment :=
  Dotenv.read p.given p.text

def sources (p : Places) : Sources :=
  .read p.environment p.file

theorem sources_eq (p : Places) :
    p.sources = ⟨.ofAssignments p.inEnvironment, .ofAssignments p.inFile⟩ := by
  obtain ⟨environment, file⟩ := p
  cases file <;> rfl

/-- What the variable of a name is set to, if to anything. The file matters only for variables that
the environment does not set. -/
inductive Tells (p : Places) (name : String) : Option (List Char) → Prop
  | environment {value : List Char} (set : IsSet p.inEnvironment name value) :
      p.Tells name (some value)
  | file {value : List Char} (unset : ∀ v, ¬IsSet p.inEnvironment name v)
      (set : IsSet p.inFile name value) : p.Tells name (some value)
  | nowhere (unset : ∀ v, ¬IsSet p.inEnvironment name v) (absent : ∀ v, ¬IsSet p.inFile name v) :
      p.Tells name none

/-- Whether neither the environment nor the file has two variables of one name but for letter
case. -/
structure IsDistinct (p : Places) : Prop where
  environment : Settings.IsDistinct p.inEnvironment
  file : Settings.IsDistinct p.inFile

variable {p q : Places} {name : String}

theorem get?_eq_iff (h : p.IsDistinct) {told : Option (List Char)} :
    p.sources.get? name = told ↔ p.Tells name told := by
  rw [sources_eq, Sources.get?]
  constructor
  · rintro rfl
    cases henv : (Variables.ofAssignments p.inEnvironment).get? name with
    | some _ => exact .environment ((Variables.get?_eq_some_iff h.environment).1 henv)
    | none =>
        have unset := (Variables.get?_eq_none_iff h.environment).1 henv
        cases hfile : (Variables.ofAssignments p.inFile).get? name with
        | some _ => exact .file unset ((Variables.get?_eq_some_iff h.file).1 hfile)
        | none => exact .nowhere unset ((Variables.get?_eq_none_iff h.file).1 hfile)
  · rintro (set | ⟨unset, set⟩ | ⟨unset, absent⟩)
    · rw [(Variables.get?_eq_some_iff h.environment).2 set]
      rfl
    · rw [(Variables.get?_eq_none_iff h.environment).2 unset,
        (Variables.get?_eq_some_iff h.file).2 set]
      rfl
    · rw [(Variables.get?_eq_none_iff h.environment).2 unset,
        (Variables.get?_eq_none_iff h.file).2 absent]
      rfl

theorem Tells.congr {told : Option (List Char)}
    (first : ∀ v, IsSet p.inEnvironment name v ↔ IsSet q.inEnvironment name v)
    (second : ∀ v, IsSet p.inFile name v ↔ IsSet q.inFile name v) (h : p.Tells name told) :
    q.Tells name told := by
  cases h with
  | environment set => exact .environment ((first _).1 set)
  | file unset set => exact .file (fun v hv => unset v ((first v).2 hv)) ((second _).1 set)
  | nowhere unset absent =>
      exact .nowhere (fun v hv => unset v ((first v).2 hv)) fun v hv => absent v ((second v).2 hv)

/-- Whether a variable that counts as one of the others is referred to in the file, by the value of
a variable that does not. -/
def Refers (p : Places) (others : List Char → Bool) : Prop :=
  ∃ a ∈ Dotenv.written p.text, others a.1 = false ∧
    ∃ value ∈ a.2, ∃ name ∈ Dotenv.referred value, others name = true

instance (p : Places) (others : List Char → Bool) : Decidable (p.Refers others) :=
  inferInstanceAs (Decidable (∃ a ∈ Dotenv.written p.text, others a.1 = false ∧
    ∃ value ∈ a.2, ∃ name ∈ Dotenv.referred value, others name = true))

/-- Whether two places set the same variables to the same values once some others are left out. -/
structure Agree (p q : Places) (others : List Char → Bool) : Prop where
  environment : p.given.filter (!others ·.1) = q.given.filter (!others ·.1)
  file : (Dotenv.written p.text).filter (!others ·.1) =
    (Dotenv.written q.text).filter (!others ·.1)

variable {others : List Char → Bool}

theorem isClosed_of_not_refers (h : ¬p.Refers others) :
    Dotenv.IsClosed (!others ·) (Dotenv.written p.text) := by
  intro a ha kept value hvalue name refers
  cases hname : others name with
  | false => simp [hname]
  | true => exact absurd ⟨a, ha, by simpa using kept, value, hvalue, name, refers, hname⟩ h

/-- The kept variables of one file are those of another, so they refer to no more. -/
theorem Agree.not_refers (h : p.Agree q others) (closed : ¬p.Refers others) :
    ¬q.Refers others := by
  rintro ⟨a, ha, kept, refers⟩
  have hmem : a ∈ (Dotenv.written q.text).filter (!others ·.1) :=
    List.mem_filter.2 ⟨ha, by rw [kept]; rfl⟩
  rw [← h.file] at hmem
  exact closed ⟨a, (List.mem_filter.1 hmem).1, kept, refers⟩

theorem Agree.inEnvironment (h : p.Agree q others) :
    p.inEnvironment.filter (!others ·.1) = q.inEnvironment.filter (!others ·.1) := by
  rw [Places.inEnvironment, Places.inEnvironment, List.filter_map, List.filter_map]
  exact congrArg _ h.environment

theorem Agree.inFile (h : p.Agree q others) (closed : ¬p.Refers others) :
    p.inFile.filter (!others ·.1) = q.inFile.filter (!others ·.1) := by
  rw [Places.inFile, Places.inFile, Dotenv.read_filter (isClosed_of_not_refers closed),
    Dotenv.read_filter (isClosed_of_not_refers (h.not_refers closed)), h.environment, h.file]

/-- What a variable is set to does not depend on others, unless the file refers to them. -/
theorem Agree.tells_iff (h : p.Agree q others) (closed : ¬p.Refers others)
    (spared : Spares others name) {told : Option (List Char)} :
    q.Tells name told ↔ p.Tells name told := by
  have first (v : List Char) : IsSet q.inEnvironment name v ↔ IsSet p.inEnvironment name v := by
    rw [← spared.isSet_filter, ← h.inEnvironment, spared.isSet_filter]
  have second (v : List Char) : IsSet q.inFile name v ↔ IsSet p.inFile name v := by
    rw [← spared.isSet_filter, ← h.inFile closed, spared.isSet_filter]
  exact ⟨.congr first second, .congr (fun v => (first v).symm) fun v => (second v).symm⟩

theorem Agree.get?_eq (h : p.Agree q others) (closed : ¬p.Refers others)
    (spared : Spares others name) :
    q.sources.environment.get? name = p.sources.environment.get? name ∧
      q.sources.file.get? name = p.sources.file.get? name := by
  rw [sources_eq, sources_eq]
  constructor
  · rw [← spared.get?_filter, ← h.inEnvironment, spared.get?_filter]
  · rw [← spared.get?_filter, ← h.inFile closed, spared.get?_filter]

end Places
end Transcoding.Settings
