import Transcoding.Service

/-!
What a registry answers follows from what was asked of it before. A name is live, with a factory,
from a registration that succeeds until its removal; all answers are those of the live names, and
what fails leaves no trace.
-/

namespace Transcoding.Registry

variable {α : Type}

/-- What can be asked of a registry; nothing stands for what cannot make a provider. -/
inductive Action (α : Type)
  | register (name : String) (factory : Option α)
  | unregister (name : String)
  | get (name : String)
  | list

inductive Reply (α : Type)
  | done
  | factory (f : α)
  | names (names : List String)

abbrev Outcome (α : Type) := Except Failure (Reply α)

def act (r : Registry α) : Action α → Outcome α × Registry α
  | .register name factory =>
      match r.register name factory with
      | .ok r' => (.ok .done, r')
      | .error f => (.error f, r)
  | .unregister name => (.ok .done, r.unregister name)
  | .get name => ((r.get name).map .factory, r)
  | .list => (.ok (.names r.names), r)

/-- The registry after some actions. -/
def after (r : Registry α) (actions : List (Action α)) : Registry α :=
  actions.foldl (fun r a => (r.act a).2) r

def outcomes (r : Registry α) : List (Action α) → List (Outcome α)
  | [] => []
  | a :: rest => (r.act a).1 :: outcomes (r.act a).2 rest

theorem find?_eq_some_iff {r : Registry α} {name : String} {factory : α} :
    r.find? name = some factory ↔ (name, factory) ∈ r.entries := by
  rw [find?, List.lookup_eq_some_iff]
  constructor
  · rintro ⟨front, rest, h, -⟩
    rw [h]
    exact List.mem_append_right _ List.mem_cons_self
  · intro h
    obtain ⟨front, rest, hentries⟩ := List.append_of_mem h
    refine ⟨front, rest, hentries, fun e he => ?_⟩
    -- Names increase, so no entry in front has this one.
    have sorted := r.sorted
    rw [hentries] at sorted
    have before := (List.pairwise_append.1 sorted).2.2 e he (name, factory) List.mem_cons_self
    exact bne_iff_ne.2 fun same => String.lt_irrefl _ (same ▸ before)

theorem mem_names_iff {r : Registry α} {name : String} :
    name ∈ r.names ↔ ∃ factory, r.find? name = some factory := by
  simp only [names, List.mem_map, find?_eq_some_iff, Prod.exists]
  constructor
  · rintro ⟨_, factory, h, rfl⟩
    exact ⟨factory, h⟩
  · rintro ⟨factory, h⟩
    exact ⟨name, factory, h, rfl⟩

theorem not_mem_names_iff {r : Registry α} {name : String} :
    name ∉ r.names ↔ r.find? name = none := by
  rw [mem_names_iff, Option.eq_none_iff_forall_ne_some, not_exists]

theorem find?_eq_none_iff {r : Registry α} {name : String} :
    r.find? name = none ↔ ∀ e ∈ r.entries, e.1 ≠ name := by
  rw [Option.eq_none_iff_forall_ne_some]
  constructor
  · rintro h ⟨name, factory⟩ he rfl
    exact h factory (find?_eq_some_iff.2 he)
  · intro h factory hfactory
    exact h _ (find?_eq_some_iff.1 hfactory) rfl

/-- A registration succeeds for a new name that is not empty, and adds its entry. -/
theorem register_eq_ok_iff {r r' : Registry α} {name : String} {factory : Option α} :
    r.register name factory = .ok r' ↔
      name ≠ "" ∧ r.find? name = none ∧
        ∃ f, factory = some f ∧ r'.entries = place name f r.entries := by
  rw [register, find?_eq_none_iff]
  split
  · next hname => exact ⟨nofun, fun h => absurd hname h.1⟩
  · next hname =>
      cases factory with
      | none =>
          constructor
          · exact nofun
          · rintro ⟨_, _, _, h, _⟩
            cases h
      | some f =>
          dsimp only
          split
          · next taken =>
              obtain ⟨e, he, same⟩ := taken
              exact ⟨nofun, fun h => absurd same (h.2.1 e he)⟩
          · next free =>
              constructor
              · intro h
                cases h
                exact ⟨hname, fun e he same => free ⟨e, he, same⟩, f, rfl, rfl⟩
              · rintro ⟨_, _, g, hg, hentries⟩
                cases hg
                obtain ⟨entries, _, _⟩ := r'
                cases hentries
                rfl

theorem find?_unregister (r : Registry α) (removed name : String) :
    (r.unregister removed).find? name = if name = removed then none else r.find? name := by
  have kept (factory : α) : (r.unregister removed).find? name = some factory ↔
      name ≠ removed ∧ r.find? name = some factory := by
    simp only [find?_eq_some_iff, unregister, List.mem_filter, bne_iff_ne]
    exact and_comm
  split
  · next same => exact Option.eq_none_iff_forall_ne_some.2 fun f hf => ((kept f).1 hf).1 same
  · next other => exact Option.ext fun f => (kept f).trans (and_iff_right other)

theorem unregister_of_find?_eq_none {r : Registry α} {name : String} (h : r.find? name = none) :
    r.unregister name = r := by
  have all : r.entries.filter (·.1 != name) = r.entries :=
    List.filter_eq_self.2 fun e he => bne_iff_ne.2 (find?_eq_none_iff.1 h e he)
  obtain ⟨entries, _, _⟩ := r
  simp only [unregister, mk.injEq]
  exact all

theorem act_register_eq_done_iff {r : Registry α} {name : String} {factory : Option α} :
    (r.act (.register name factory)).1 = .ok .done ↔
      name ≠ "" ∧ (∃ f, factory = some f) ∧ r.find? name = none := by
  have succeeds : (r.act (.register name factory)).1 = .ok .done ↔
      ∃ r', r.register name factory = .ok r' := by
    rw [act]
    cases r.register name factory with
    | ok r' => exact ⟨fun _ => ⟨r', rfl⟩, fun _ => rfl⟩
    | error f => exact ⟨nofun, fun ⟨_, h⟩ => nomatch h⟩
  rw [succeeds]
  constructor
  · rintro ⟨r', h⟩
    obtain ⟨hname, hfree, f, hf, -⟩ := register_eq_ok_iff.1 h
    exact ⟨hname, ⟨f, hf⟩, hfree⟩
  · rintro ⟨hname, ⟨f, rfl⟩, hfree⟩
    have fresh := find?_eq_none_iff.1 hfree
    refine ⟨⟨place name f r.entries, sorted_place r.sorted fresh, ?_⟩,
      register_eq_ok_iff.2 ⟨hname, hfree, f, rfl, rfl⟩⟩
    intro e he
    rcases mem_place.1 he with rfl | he
    · exact hname
    · exact r.named e he

theorem find?_of_register {r r' : Registry α} {new : String} {g : α}
    (h : r.register new (some g) = .ok r') (name : String) :
    r'.find? name = if name = new then some g else r.find? name := by
  obtain ⟨_, hfree, g', hg, hentries⟩ := register_eq_ok_iff.1 h
  cases hg
  have found (factory : α) : r'.find? name = some factory ↔
      (name = new ∧ factory = g) ∨ r.find? name = some factory := by
    rw [find?_eq_some_iff, find?_eq_some_iff, hentries, mem_place, Prod.mk.injEq]
  split
  · next same => exact (found g).2 (.inl ⟨same, rfl⟩)
  · next other =>
      exact Option.ext fun f => (found f).trans (or_iff_right fun h => other h.1)

/-- What was asked and what came of it. -/
abbrev Event (α : Type) := Action α × Outcome α

def registered (name : String) (factory : α) : Event α :=
  (.register name (some factory), .ok .done)

/-- Whether an event ends what a name stood for before: the name is registered anew, or removed. -/
def Ends (name : String) (e : Event α) : Prop :=
  (∃ factory, e = (.register name factory, .ok .done)) ∨ ∃ o, e = (.unregister name, o)

/-- Whether a name stands for a factory after some events: the latest registration of the name that
succeeded is one with this factory, and the name was not removed since. -/
def Live (past : List (Event α)) (name : String) (factory : α) : Prop :=
  ∃ before since, past = before ++ registered name factory :: since ∧ ∀ e ∈ since, ¬Ends name e

def history (r : Registry α) (actions : List (Action α)) : List (Event α) :=
  actions.zip (r.outcomes actions)

theorem live_concat_iff {past : List (Event α)} {e : Event α} {name : String} {factory : α} :
    Live (past ++ [e]) name factory ↔
      e = registered name factory ∨ (Live past name factory ∧ ¬Ends name e) := by
  constructor
  · rintro ⟨before, since, h, hsince⟩
    rcases List.eq_nil_or_concat since with rfl | ⟨since, last, rfl⟩
    · exact .inl (List.singleton_inj.1 (List.append_inj' h rfl).2)
    · rw [List.concat_eq_append, ← List.cons_append, ← List.append_assoc] at h
      obtain ⟨hpast, hlast⟩ := List.append_inj' h rfl
      cases hlast
      rw [List.concat_eq_append, List.forall_mem_append] at hsince
      exact .inr ⟨⟨before, since, hpast, hsince.1⟩, hsince.2 e List.mem_cons_self⟩
  · rintro (rfl | ⟨⟨before, since, rfl, hsince⟩, he⟩)
    · exact ⟨past, [], rfl, nofun⟩
    · refine ⟨before, since ++ [e], by simp, ?_⟩
      rw [List.forall_mem_append]
      exact ⟨hsince, List.forall_mem_singleton.2 he⟩

/-- What an action does to the names that are found. -/
theorem find?_act_iff (r : Registry α) (a : Action α) (name : String) (factory : α) :
    (r.act a).2.find? name = some factory ↔
      (a, (r.act a).1) = registered name factory ∨
        (r.find? name = some factory ∧ ¬Ends name (a, (r.act a).1)) := by
  cases a with
  | register new g =>
      rw [act]
      cases h : r.register new g with
      | error f => simp [registered, Ends]
      | ok r' =>
          obtain ⟨_, _, f, rfl, _⟩ := register_eq_ok_iff.1 h
          dsimp only
          rw [find?_of_register h]
          by_cases same : name = new
          · simp [registered, Ends, same]
          · simp [registered, Ends, same, Ne.symm same]
  | unregister removed =>
      dsimp only [act]
      rw [find?_unregister]
      by_cases same : name = removed
      · simp [registered, Ends, same]
      · simp [registered, Ends, same, Ne.symm same]
  | get _ | list => simp [act, registered, Ends]

/-- If the names found are those that some events left live, they stay those of the events to
come. -/
theorem find?_after_iff {r : Registry α} {past : List (Event α)}
    (h : ∀ name factory, r.find? name = some factory ↔ Live past name factory)
    (actions : List (Action α)) (name : String) (factory : α) :
    (r.after actions).find? name = some factory ↔
      Live (past ++ r.history actions) name factory := by
  induction actions generalizing r past with
  | nil => simpa [after, history] using h name factory
  | cons a rest ih =>
      have next : ∀ name factory, (r.act a).2.find? name = some factory ↔
          Live (past ++ [(a, (r.act a).1)]) name factory := by
        intro name factory
        rw [find?_act_iff, live_concat_iff, h]
      have continued := ih next
      rw [List.append_assoc] at continued
      exact continued

/-- Whether one text comes before another by the numbers of their characters. -/
def Precedes (a b : String) : Prop :=
  a.toList.map Char.toNat < b.toList.map Char.toNat

theorem precedes_of_lt {a b : String} (h : a < b) : Precedes a b :=
  List.map_lt (fun _ _ hxy => hxy) (String.lt_iff.1 h)

theorem act_get_eq_ok_iff {r : Registry α} {name : String} {factory : α} :
    (r.act (.get name)).1 = .ok (.factory factory) ↔ r.find? name = some factory := by
  rw [act, get]
  cases r.find? name with
  | none => exact ⟨nofun, nofun⟩
  | some f =>
      constructor
      · intro h
        cases h
        rfl
      · intro h
        cases h
        rfl

theorem act_get_eq_error_iff {r : Registry α} {name : String} :
    (r.act (.get name)).1 = .error (.providerNotFound name) ↔ r.find? name = none := by
  rw [act, get]
  cases r.find? name with
  | none => exact ⟨fun _ => rfl, fun _ => rfl⟩
  | some f => exact ⟨nofun, nofun⟩

theorem act_of_error {r : Registry α} {a : Action α} {f : Failure} (h : (r.act a).1 = .error f) :
    (r.act a).2 = r := by
  cases a with
  | register name factory =>
      rw [act] at h ⊢
      cases hr : r.register name factory with
      | ok r' =>
          rw [hr] at h
          cases h
      | error f => rfl
  | unregister _ => cases h
  | get _ | list => rfl

/-- A registry that holds what is built in. -/
def initial (builtin : α) : Registry α :=
  .single "elementalconductor" builtin (by decide)

/-- The registry that the service starts with. -/
theorem initialRegistry_eq : Service.initialRegistry = initial Conductor.factory :=
  rfl

/-- Whether a name stands for a factory after some actions on a registry that held what is built in;
that counts as registered first. -/
def LiveAfter (builtin : α) (actions : List (Action α)) : String → α → Prop :=
  Live (registered "elementalconductor" builtin :: (initial builtin).history actions)

theorem find?_after_initial_iff (builtin : α) (actions : List (Action α)) (name : String)
    (factory : α) : ((initial builtin).after actions).find? name = some factory ↔
      LiveAfter builtin actions name factory := by
  have start : ∀ name factory, (initial builtin).find? name = some factory ↔
      Live [registered "elementalconductor" builtin] name factory := by
    intro name factory
    have none : ¬Live [] name factory := by
      rintro ⟨before, since, h, -⟩
      exact List.append_ne_nil_of_right_ne_nil _ (List.cons_ne_nil _ _) h.symm
    rw [← List.nil_append [registered _ _], live_concat_iff, find?_eq_some_iff,
      or_iff_left fun h => none h.1]
    constructor
    · intro h
      cases List.mem_singleton.1 h
      rfl
    · intro h
      cases h
      exact List.mem_singleton_self _
  exact find?_after_iff start actions name factory

/-- After any actions, all answers are those of the live names, and neither what fails nor the
removal of a name that is not live has an effect on later answers. -/
theorem answers_follow_history (builtin : α) (past : List (Action α)) :
    let r := (initial builtin).after past
    let live := LiveAfter builtin past
    (∀ name factory, (r.act (.get name)).1 = .ok (.factory factory) ↔ live name factory) ∧
      (∀ name, (r.act (.get name)).1 = .error (.providerNotFound name) ↔ ∀ f, ¬live name f) ∧
      (∃ names, (r.act .list).1 = .ok (.names names) ∧
        (∀ name, name ∈ names ↔ ∃ f, live name f) ∧ names.Pairwise Precedes ∧ "" ∉ names) ∧
      (∀ name factory, (r.act (.register name factory)).1 = .ok .done ↔
        name ≠ "" ∧ (∃ f, factory = some f) ∧ ∀ f, ¬live name f) ∧
      ∀ a, (∃ failure, (r.act a).1 = .error failure) ∨
          (∃ name, a = .unregister name ∧ ∀ f, ¬live name f) →
        ∀ later, ((initial builtin).after (past ++ [a])).outcomes later = r.outcomes later := by
  intro r live
  have found : ∀ name f, r.find? name = some f ↔ live name f :=
    find?_after_initial_iff builtin past
  have dead (name : String) : (∀ f, ¬live name f) ↔ r.find? name = none := by
    rw [Option.eq_none_iff_forall_ne_some]
    exact forall_congr' fun f => not_congr (found name f).symm
  refine ⟨fun name factory => ?_, fun name => ?_, ⟨r.names, rfl, fun name => ?_, ?_, ?_⟩,
    fun name factory => ?_, fun a ha later => ?_⟩
  · rw [act_get_eq_ok_iff, found]
  · rw [act_get_eq_error_iff, dead]
  · rw [mem_names_iff]
    exact exists_congr fun f => found name f
  · exact (List.pairwise_map.2 r.sorted).imp precedes_of_lt
  · intro h
    obtain ⟨e, he, hname⟩ := List.mem_map.1 h
    exact r.named e he hname
  · rw [act_register_eq_done_iff, dead]
  · have next : (initial builtin).after (past ++ [a]) = (r.act a).2 := List.foldl_append
    rw [next]
    rcases ha with ⟨failure, hfailure⟩ | ⟨name, rfl, hname⟩
    · rw [act_of_error hfailure]
    · exact congrArg (outcomes · later) (unregister_of_find?_eq_none ((dead name).1 hname))

theorem answers_after_registering_anew :
    let past : List (Action Nat) :=
      [.register "fake" (some 1), .unregister "fake", .register "" (some 3),
        .register "fake" (some 2)]
    LiveAfter 0 past "fake" 2 ∧
      (((initial 0).after past).act .list).1 = .ok (.names ["elementalconductor", "fake"]) := by
  intro past
  exact ⟨((answers_follow_history 0 past).1 "fake" 2).1 rfl, rfl⟩

end Transcoding.Registry
