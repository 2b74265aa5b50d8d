/-!
# Steps that may fail

What comes of one step after another.  The second is taken only when the first
has something for it to go on with, and the first failure is the failure.

    r >>= f = .ok b      iff   r = .ok a and f a = .ok b, for some a
    r >>= f = .error e   iff   r = .error e, or r = .ok a and f a = .error e, for some a
-/

namespace SqlGateway

section

variable {ε α β γ : Type}

theorem bind_eq_ok_iff {r : Except ε α} {f : α → Except ε β} {b : β} :
    r >>= f = .ok b ↔ ∃ a, r = .ok a ∧ f a = .ok b := by
  cases r with
  | error e => simp [bind, Except.bind]
  | ok a => simp [bind, Except.bind]

theorem bind_eq_error_iff {r : Except ε α} {f : α → Except ε β} {e : ε} :
    r >>= f = .error e ↔ r = .error e ∨ ∃ a, r = .ok a ∧ f a = .error e := by
  cases r with
  | error e' => simp [bind, Except.bind]
  | ok a => simp [bind, Except.bind]

theorem map_eq_ok_iff {r : Except ε α} {f : α → β} {b : β} :
    (do return f (← r)) = Except.ok b ↔ ∃ a, r = .ok a ∧ f a = b := by
  rw [bind_eq_ok_iff]
  simp only [pure, Except.pure, Except.ok.injEq]

theorem map_eq_error_iff {r : Except ε α} {f : α → β} {e : ε} :
    (do return f (← r)) = Except.error e ↔ r = .error e := by
  rw [bind_eq_error_iff]
  simp [pure, Except.pure]

/-- Two ways to go on that agree on what there is to go on with. -/
theorem bind_congr_ok {r : Except ε α} {f g : α → Except ε β}
    (h : ∀ a, r = .ok a → f a = g a) : r >>= f = r >>= g := by
  cases r with
  | error e => rfl
  | ok a => exact h a rfl

/-- Of two ways to go on that fail alike, one fails as the other does. -/
theorem bind_eq_error_congr {e : ε} {r : Except ε α} {f : α → Except ε β} {g : α → Except ε γ}
    (h : ∀ a, f a = .error e ↔ g a = .error e) : r.bind f = .error e ↔ r.bind g = .error e := by
  cases r with
  | error e' => simp [Except.bind]
  | ok a => exact h a

/-- Two ways to go on, one of which makes something of what the other finds. -/
theorem bind_eq_map_bind {r : Except ε α} {f : α → Except ε β} {g : α → Except ε γ} {make : γ → β}
    (h : ∀ a, f a = (g a).map make) : r.bind f = (r.bind g).map make := by
  cases r with
  | error e => rfl
  | ok a => exact h a

end

end SqlGateway
