import Mathlib.Data.List.Forall2
import Transcoding.Proofs.Exchange

/-!
Two calls side by side. They are alike if on backends that are alike they have outcomes that are
alike and send requests that are alike, one by one. What is put together of calls that are alike is
alike itself.
-/

namespace Transcoding

variable {ε ε' α α' β β' : Type}

/-- Whether two computations fail alike, or give values that are related. -/
def AlikeOutcomes (R : α → α' → Prop) : Except ε α → Except ε α' → Prop
  | .ok a, .ok a' => R a a'
  | .error e, .error e' => e = e'
  | _, _ => False

namespace AlikeOutcomes

variable {R : α → α' → Prop} {S : β → β' → Prop} {x : Except ε α} {x' : Except ε α'}

theorem refl {R : α → α → Prop} (h : ∀ a, R a a) (x : Except ε α) : AlikeOutcomes R x x := by
  cases x with
  | ok a => exact h a
  | error e => exact rfl

theorem eq {x x' : Except ε α} (h : AlikeOutcomes Eq x x') : x = x' := by
  match x, x', h with
  | .ok _, .ok _, h => exact congrArg Except.ok h
  | .error _, .error _, h => exact congrArg Except.error h

theorem bind (hx : AlikeOutcomes R x x') {f : α → Except ε β} {f' : α' → Except ε β'}
    (hf : ∀ a a', R a a' → AlikeOutcomes S (f a) (f' a')) :
    AlikeOutcomes S (x >>= f) (x' >>= f') := by
  match x, x', hx with
  | .ok a, .ok a', h => exact hf a a' h
  | .error _, .error _, h => exact h

theorem mapError (hx : AlikeOutcomes R x x') (f : ε → ε') :
    AlikeOutcomes R (x.mapError f) (x'.mapError f) := by
  match x, x', hx with
  | .ok _, .ok _, h => exact h
  | .error _, .error _, h => exact congrArg f h

end AlikeOutcomes

/-- Two backends with the same replies to come, which got requests that are alike. -/
structure Exchange.Alike (rel : Request → Request → Prop) (e e' : Exchange) : Prop where
  now : e.now = e'.now
  replies : e.replies = e'.replies
  sent : List.Forall₂ rel e.sent e'.sent

namespace Exchange.Alike

variable {rel : Request → Request → Prop} {e e' : Exchange}

theorem refl (h : ∀ r, rel r r) (e : Exchange) : e.Alike rel e :=
  ⟨rfl, rfl, List.forall₂_same.2 fun r _ => h r⟩

theorem reply_eq (h : e.Alike rel e') : e.reply = e'.reply := by
  rw [reply, reply, h.replies]

theorem after (h : e.Alike rel e') {r r' : Request} (hr : rel r r') :
    (e.after r).Alike rel (e'.after r') :=
  ⟨h.now, congrArg List.tail h.replies, .cons hr h.sent⟩

theorem at_now (h : e.Alike rel e') (now : Int) :
    ({ e with now := now }).Alike rel { e' with now := now } :=
  ⟨rfl, h.replies, h.sent⟩

end Exchange.Alike

/-- Whether two calls have related outcomes and send related requests on every two backends that are
alike. -/
def Call.Alike (rel : Request → Request → Prop) (R : α → α' → Prop) (x : Call α) (x' : Call α') :
    Prop :=
  ∀ e e', e.Alike rel e' → AlikeOutcomes R (x e).1 (x' e').1 ∧ (x e).2.Alike rel (x' e').2

namespace Call.Alike

variable {rel : Request → Request → Prop} {R : α → α' → Prop} {S : β → β' → Prop}

theorem pure {a : α} {a' : α'} (h : R a a') : Call.Alike rel R (pure a) (pure a') :=
  fun _ _ he => ⟨h, he⟩

theorem fail {R : α → α → Prop} (f : Failure) : Call.Alike rel R (Call.fail f) (Call.fail f) :=
  fun _ _ he => ⟨rfl, he⟩

theorem ofExcept {x : Except ε α} {x' : Except ε α'} (problem : ε → Problem)
    (h : AlikeOutcomes R x x') :
    Call.Alike rel R (Call.ofExcept problem x) (Call.ofExcept problem x') := by
  intro e e' he
  rw [ofExcept_apply, ofExcept_apply]
  exact ⟨h.mapError problem, he⟩

theorem bind {x : Call α} {x' : Call α'} (hx : Call.Alike rel R x x') {f : α → Call β}
    {f' : α' → Call β'} (hf : ∀ a a', R a a' → Call.Alike rel S (f a) (f' a')) :
    Call.Alike rel S (x >>= f) (x' >>= f') := by
  intro e e' he
  have h := hx e e' he
  rw [bind_apply, bind_apply]
  generalize x e = ran at h ⊢
  generalize x' e' = ran' at h ⊢
  -- Both calls succeed with related values and go on, or both end here with the same problem.
  match ran, ran', h with
  | (.ok a, _), (.ok a', _), ⟨h, hrest⟩ => exact hf a a' h _ _ hrest
  | (.error _, _), (.error _, _), ⟨h, hrest⟩ => exact ⟨h, hrest⟩

end Call.Alike
end Transcoding
