/-!
Computations that may fail, taken apart: how one that succeeds is made of others that do.
-/

namespace Transcoding

variable {ε ε' α β : Type}

theorem bind_eq_ok_iff {x : Except ε α} {f : α → Except ε β} {b : β} :
    (x >>= f) = .ok b ↔ ∃ a, x = .ok a ∧ f a = .ok b := by
  cases x with
  | ok a => exact ⟨fun h => ⟨a, rfl, h⟩, fun ⟨_, h, hb⟩ => by cases h; exact hb⟩
  | error e => exact ⟨nofun, fun ⟨_, h, _⟩ => nomatch h⟩

theorem pure_eq_ok_iff {a b : α} : (pure a : Except ε α) = .ok b ↔ b = a :=
  ⟨fun h => by cases h; rfl, fun h => by rw [h]; rfl⟩

/-- What comes after a computation that can only succeed in one way. -/
theorem bind_eq_ok_iff_of {x : Except ε α} {p : Prop} {a : α} (h : ∀ a', x = .ok a' ↔ p ∧ a' = a)
    {f : α → Except ε β} {b : β} : (x >>= f) = .ok b ↔ p ∧ f a = .ok b := by
  rw [bind_eq_ok_iff]
  constructor
  · rintro ⟨a', hx, hf⟩
    obtain ⟨hp, rfl⟩ := (h a').1 hx
    exact ⟨hp, hf⟩
  · rintro ⟨hp, hf⟩
    exact ⟨a, (h a).2 ⟨hp, rfl⟩, hf⟩

theorem bind_ne_error {x : Except ε α} {f : α → Except ε β} {e : ε} (hx : x ≠ .error e)
    (hf : ∀ a, f a ≠ .error e) : (x >>= f) ≠ .error e := by
  cases x with
  | ok a => exact hf a
  | error e' => exact fun h => hx (by cases h; rfl)

theorem mapError_eq_ok_iff {x : Except ε α} {f : ε → ε'} {a : α} :
    x.mapError f = .ok a ↔ x = .ok a := by
  cases x with
  | ok b => exact ⟨fun h => by cases h; rfl, fun h => by cases h; rfl⟩
  | error e => exact ⟨nofun, nofun⟩

theorem mapError_ne_error {f : ε → ε'} {e : ε'} (h : ∀ e', f e' ≠ e) (x : Except ε α) :
    x.mapError f ≠ .error e := by
  cases x with
  | ok a => exact nofun
  | error e' => exact fun he => h e' (by cases he; rfl)

/-- A success that is seen to pass a test. -/
theorem exists_of_any {x : Except ε α} {p : α → Bool} (h : x.toOption.any p = true) :
    ∃ a, x = .ok a ∧ p a = true := by
  cases x with
  | ok a => exact ⟨a, rfl, h⟩
  | error e => cases h

/-- If a function succeeds exactly where a condition holds, so does its use on a whole list. -/
theorem mapM_eq_ok_iff {f : α → Except ε β} {p : α → Prop} {g : α → β}
    (h : ∀ a b, f a = .ok b ↔ p a ∧ b = g a) (as : List α) (bs : List β) :
    as.mapM f = .ok bs ↔ (∀ a ∈ as, p a) ∧ bs = as.map g := by
  induction as generalizing bs with
  | nil =>
      rw [List.mapM_nil, pure_eq_ok_iff]
      exact ⟨fun hbs => ⟨nofun, hbs⟩, fun hbs => hbs.2⟩
  | cons a as ih =>
      rw [List.mapM_cons, bind_eq_ok_iff_of (h a), bind_eq_ok_iff_of ih, pure_eq_ok_iff,
        List.forall_mem_cons, and_assoc]
      rfl

end Transcoding
