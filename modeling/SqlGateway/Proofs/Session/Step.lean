import SqlGateway.Session

/-!
# Steps of a session

What one operation does to a session and to the world beyond it.  An action
reaches a connection, the open one or one opened for it, or is refused one; the
session keeps a connection that was reached.

    native sql act = refused               and a failure of connecting, or
    native sql act = act on the connection and a failure of sql
-/

namespace SqlGateway

section

variable {ε ρ α β : Type}

theorem run_bind (act : ExceptT ε (StateM ρ) α) (f : α → ExceptT ε (StateM ρ) β) (c : ρ) :
    (act >>= f).run c = match act.run c with
      | (.ok a, c') => (f a).run c'
      | (.error e, c') => (.error e, c') := by
  show StateT.bind act (ExceptT.bindCont f) c = _
  rcases h : act.run c with ⟨res, c'⟩
  have h' : act c = (res, c') := h
  unfold StateT.bind
  rw [h']
  cases res <;> rfl

theorem run_bind_ok {act : ExceptT ε (StateM ρ) α} {c c' : ρ} {a : α}
    (h : act.run c = (.ok a, c')) (f : α → ExceptT ε (StateM ρ) β) :
    (act >>= f).run c = (f a).run c' := by
  rw [run_bind, h]

theorem run_bind_error {act : ExceptT ε (StateM ρ) α} {c c' : ρ} {e : ε}
    (h : act.run c = (.error e, c')) (f : α → ExceptT ε (StateM ρ) β) :
    (act >>= f).run c = (.error e, c') := by
  rw [run_bind, h]

theorem run_tryCatch (act : ExceptT ε (StateM ρ) α) (f : ε → ExceptT ε (StateM ρ) α) (c : ρ) :
    (tryCatch act f).run c = match act.run c with
      | (.ok a, c') => (.ok a, c')
      | (.error e, c') => (f e).run c' := by
  show (ExceptT.tryCatch act f).run c = _
  unfold ExceptT.tryCatch
  rcases h : act.run c with ⟨res, c'⟩
  show bind (m := StateM ρ) act _ c = _
  have h' : act c = (res, c') := h
  show StateT.bind (m := Id) act _ c = _
  unfold StateT.bind
  rw [h']
  cases res <;> rfl

theorem run_ofExcept (r : Except ε α) (c : ρ) :
    (MonadExcept.ofExcept r : ExceptT ε (StateM ρ) α).run c = (r, c) := by
  cases r <;> rfl

theorem run_get (c : ρ) : (get : ExceptT ε (StateM ρ) ρ).run c = (.ok c, c) := rfl

theorem run_modify (f : ρ → ρ) (c : ρ) :
    (modify f : ExceptT ε (StateM ρ) PUnit).run c = (.ok (), f c) := rfl

end

namespace Session

variable {σ α : Type}

/-- The session once `connection` is its connection. -/
def on (s : Session σ) (connection : Connection σ) : Session σ :=
  { s with connection := some connection }

/-- An action of `s` gets this connection, and the world is `w'` then. -/
inductive Reaches (s : Session σ) (w : σ) : Connection σ → σ → Prop where
  | already (c : Connection σ) (h : s.connection = some c) : Reaches s w c w
  | opened (c : Connection σ) (w' : σ) (h : s.connection = none)
      (hc : (s.connector s.config).run w = (.ok c, w')) : Reaches s w c w'

/-- An action of `s` gets no connection. -/
structure Refuses (s : Session σ) (w : σ) (f : DriverFailure) (w' : σ) : Prop where
  unconnected : s.connection = none
  failure : (s.connector s.config).run w = (.error f, w')

/-- A session comes by its connection in one way. -/
theorem Reaches.unique {s : Session σ} {w w₁ w₂ : σ} {c₁ c₂ : Connection σ}
    (h₁ : s.Reaches w c₁ w₁) (h₂ : s.Reaches w c₂ w₂) : c₁ = c₂ ∧ w₁ = w₂ := by
  cases h₁ with
  | already h₁ =>
    cases h₂ with
    | already h₂ => exact ⟨Option.some.inj (h₁.symm.trans h₂), rfl⟩
    | opened _ hnone _ =>
      rw [h₁] at hnone
      cases hnone
  | opened _ hnone h₁ =>
    cases h₂ with
    | already h₂ =>
      rw [h₂] at hnone
      cases hnone
    | opened _ _ h₂ =>
      rw [h₁] at h₂
      cases h₂
      exact ⟨rfl, rfl⟩

theorem Reaches.not_refuses {s : Session σ} {w w₁ w₂ : σ} {c : Connection σ} {f : DriverFailure}
    (h : s.Reaches w c w₁) : ¬ s.Refuses w f w₂ := by
  intro hf
  cases h with
  | already hc =>
    rw [hf.unconnected] at hc
    cases hc
  | opened _ _ hc =>
    rw [hf.failure] at hc
    cases hc

theorem run_current (c : Channel σ) : current.run c = (.ok c.session, c) := rfl

theorem run_lift (action : String) (act : Native σ α) (c : Channel σ) :
    (lift action act).run c = match act.run c.world with
      | (.ok a, w) => (.ok a, { c with world := w })
      | (.error f, w) => (.error (.ofFailure f action), { c with world := w }) := by
  unfold lift
  rw [run_bind_ok (run_get c)]
  rcases act.run c.world with ⟨res, w⟩
  cases res <;> rfl

theorem connected_cases (s : Session σ) (w : σ) :
    (∃ f w', s.Refuses w f w' ∧
      connected.run ⟨s, w⟩ = (.error (.ofFailure f (connectAction s.name)), ⟨s, w'⟩)) ∨
    ∃ c w', s.Reaches w c w' ∧ connected.run ⟨s, w⟩ = (.ok (), ⟨s.on c, w'⟩) := by
  unfold connected
  rw [run_bind_ok (run_current ⟨s, w⟩)]
  unfold isConnected
  cases hs : s.connection with
  | some c =>
    right
    refine ⟨c, w, .already c hs, ?_⟩
    have hon : s.on c = s := by
      cases s
      cases hs
      rfl
    rw [hon]
    rfl
  | none =>
    have hlift := run_lift (connectAction s.name) (s.connector s.config) ⟨s, w⟩
    rcases hc : (s.connector s.config).run w with ⟨res, w'⟩
    simp only [hc] at hlift
    cases res with
    | error f =>
      left
      exact ⟨f, w', ⟨hs, hc⟩, run_bind_error hlift _⟩
    | ok c =>
      right
      refine ⟨c, w', .opened c w' hs hc, ?_⟩
      show (lift (connectAction s.name) (s.connector s.config) >>= _).run ⟨s, w⟩ = _
      rw [run_bind_ok hlift]
      rfl

/-- Everything that an action on a session can come to.  A session that opened its connection
has one, so an action never finds it missing. -/
theorem native_cases (s : Session σ) (w : σ) (sql : String) (act : Connection σ → Native σ α) :
    (∃ f w', s.Refuses w f w' ∧
      (native sql act).run ⟨s, w⟩ = (.error (.ofFailure f (connectAction s.name)), ⟨s, w'⟩)) ∨
    ∃ c w', s.Reaches w c w' ∧ (native sql act).run ⟨s, w⟩ = match (act c).run w' with
      | (.ok a, w'') => (.ok a, ⟨s.on c, w''⟩)
      | (.error f, w'') => (.error (.ofFailure f sql), ⟨s.on c, w''⟩) := by
  unfold native
  rcases connected_cases s w with ⟨f, w', hf, hrun⟩ | ⟨c, w', hc, hrun⟩
  · left
    exact ⟨f, w', hf, run_bind_error hrun _⟩
  · right
    refine ⟨c, w', hc, ?_⟩
    rw [run_bind_ok hrun, run_bind_ok (run_current ⟨s.on c, w'⟩)]
    show (lift sql (act c)).run ⟨s.on c, w'⟩ = _
    rw [run_lift]

end Session

end SqlGateway
