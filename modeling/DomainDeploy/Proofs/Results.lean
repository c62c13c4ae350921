/-!
# Results

A result is a value or an error. What a result that is put together comes to is told by its parts: a
chain comes to a value when each of its links does (`bind_eq_ok`), and to the error of the first
link that does not (`bind_eq_error`).
-/

namespace DomainDeploy

variable {ε ε' α β : Type} {x : Except ε α} {a : α} {b : β} {e : ε}

theorem eq_ok_of_toOption (h : x.toOption = some a) : x = .ok a := by
  cases x with
  | error e => cases h
  | ok b =>
      cases h
      rfl

/-! ### Chains -/

theorem ok_bind (a : α) (f : α → Except ε β) : (Except.ok a >>= f) = f a := rfl

theorem bind_eq_ok {f : α → Except ε β} :
    (x >>= f) = .ok b ↔ ∃ a, x = .ok a ∧ f a = .ok b := by
  cases x with
  | error e => simp [bind, Except.bind]
  | ok a => simp [bind, Except.bind]

theorem bind_eq_error {f : α → Except ε β} :
    (x >>= f) = .error e ↔ x = .error e ∨ ∃ a, x = .ok a ∧ f a = .error e := by
  cases x with
  | error cause => simp [bind, Except.bind]
  | ok a => simp [bind, Except.bind]

/-- What is refused under a condition is accepted without it only. -/
theorem guard_eq_ok {c : Prop} [Decidable c] {f : α → Except ε β} {y : Except ε β} :
    (if c then (throw e : Except ε α) >>= f else y) = .ok b ↔ ¬c ∧ y = .ok b := by
  split
  next hc => simp [hc, bind_eq_ok, throw, throwThe, MonadExceptOf.throw]
  next hc => simp [hc]

/-! ### Values and errors that are mapped -/

@[simp] theorem mapError_eq_ok {f : ε → ε'} : x.mapError f = .ok a ↔ x = .ok a := by
  cases x with
  | ok b => constructor <;> intro h <;> cases h <;> rfl
  | error e => exact ⟨nofun, nofun⟩

@[simp] theorem mapError_eq_error {f : ε → ε'} {e : ε'} :
    x.mapError f = .error e ↔ ∃ cause, x = .error cause ∧ f cause = e := by
  cases x with
  | ok a => exact ⟨nofun, nofun⟩
  | error cause =>
      constructor
      · intro h
        exact ⟨cause, rfl, Except.error.inj h⟩
      · rintro ⟨_, hcause, rfl⟩
        cases hcause
        rfl

@[simp] theorem map_eq_ok {f : α → β} : x.map f = .ok b ↔ ∃ a, x = .ok a ∧ f a = b := by
  cases x <;> simp [Except.map]

@[simp] theorem map_eq_error {f : α → β} : x.map f = .error e ↔ x = .error e := by
  cases x <;> simp [Except.map]

end DomainDeploy
