import Transcoding.Exchange

/-!
Calls applied to a backend, one equation for each way that a call of the client is put together. A
request takes the next reply and is kept; nothing else changes the backend. A call sends only
requests of some kind if each of its parts does, and what it does not reach because a part fails
does not matter.
-/

namespace Transcoding

namespace Exchange

/-- The reply to the next request. -/
def reply (e : Exchange) : Reply :=
  e.replies.head?.getD (.outage .silence)

/-- The backend once it got a request. -/
def after (e : Exchange) (r : Request) : Exchange :=
  { e with replies := e.replies.tail, sent := r :: e.sent }

theorem send_apply (r : Request) (e : Exchange) : send r e = (.ok e.reply, e.after r) := by
  obtain ⟨now, replies, sent⟩ := e
  cases replies with
  | nil | cons _ _ => rfl

end Exchange

namespace Call

variable {α β ε : Type}

theorem get_apply (e : Exchange) : (get : Call Exchange) e = (.ok e, e) :=
  rfl

theorem ofExcept_apply (problem : ε → Problem) (x : Except ε α) (e : Exchange) :
    ofExcept problem x e = (x.mapError problem, e) := by
  cases x with
  | ok _ | error _ => rfl

/-- What comes after a call goes on where the call ended, and not at all if the call failed. -/
theorem bind_apply (x : Call α) (f : α → Call β) (e : Exchange) :
    (x >>= f) e =
      match x e with
      | (.ok a, e') => f a e'
      | (.error p, e') => (.error p, e') := by
  have continued : (x >>= f) e = ExceptT.bindCont f (x e).1 (x e).2 := rfl
  rw [continued]
  rcases x e with ⟨_ | _, _⟩ <;> rfl

end Call

variable {α β ε : Type}

/-- Whether all that a backend got between two states is requests that are allowed. -/
structure Exchange.Got (allowed : Request → Prop) (e e' : Exchange) : Prop where
  now : e'.now = e.now
  sent : ∃ new, e'.sent = new ++ e.sent ∧ ∀ r ∈ new, allowed r

namespace Exchange.Got

variable {allowed : Request → Prop} {e e' e'' : Exchange}

theorem refl (e : Exchange) : e.Got allowed e :=
  ⟨rfl, [], rfl, nofun⟩

theorem trans (h : e.Got allowed e') (h' : e'.Got allowed e'') : e.Got allowed e'' := by
  obtain ⟨first, hfirst, allowedFirst⟩ := h.sent
  obtain ⟨second, hsecond, allowedSecond⟩ := h'.sent
  refine ⟨h'.now.trans h.now, second ++ first, ?_, fun r hr => ?_⟩
  · rw [hsecond, hfirst, List.append_assoc]
  · obtain hr | hr := List.mem_append.1 hr
    · exact allowedSecond r hr
    · exact allowedFirst r hr

theorem after {r : Request} (h : allowed r) (e : Exchange) : e.Got allowed (e.after r) :=
  ⟨rfl, [r], rfl, List.forall_mem_singleton.2 h⟩

end Exchange.Got

/-- Whether a call sends every backend only requests that are allowed at its time. -/
def Call.Sends (x : Call α) (allowed : Int → Request → Prop) : Prop :=
  ∀ e : Exchange, e.Got (allowed e.now) (x e).2

namespace Call.Sends

variable {allowed : Int → Request → Prop}

theorem pure (a : α) : Call.Sends (pure a) allowed :=
  fun e => .refl e

theorem fail (f : Failure) : Call.Sends (Call.fail f : Call α) allowed :=
  fun e => .refl e

theorem bind {x : Call α} (hx : x.Sends allowed) {f : α → Call β}
    (hf : ∀ a, (f a).Sends allowed) : (x >>= f).Sends allowed := by
  intro e
  have first := hx e
  rw [bind_apply]
  generalize x e = ran at first ⊢
  match ran, first with
  | (.ok a, e'), first =>
      have second := hf a e'
      rw [first.now] at second
      exact first.trans second
  | (.error _, _), first => exact first

/-- What comes after a computation is only reached with its value. -/
theorem ofExcept_bind {problem : ε → Problem} {x : Except ε α} {f : α → Call β}
    (hf : ∀ a, x = .ok a → (f a).Sends allowed) :
    (Call.ofExcept problem x >>= f).Sends allowed := by
  intro e
  rw [bind_apply, ofExcept_apply]
  cases x with
  | ok a => exact hf a rfl e
  | error _ => exact .refl e

end Call.Sends
end Transcoding
