import SqlGateway.Proofs.Session.Step

/-!
# Sessions on record

Any drivers at all, with a record of what they were asked: how often to
connect, and which statements.  A statement is on record before the driver sees
it, so one that fails is there as well.

    native sql act = refused: one more attempt to connect, nothing sent, or
    native sql act = act on the connection: sql is the one statement more
-/

namespace SqlGateway

/-- A world together with what was asked of its drivers. -/
structure Recorded (σ : Type) where
  world : σ
  /-- Attempts to connect. -/
  connects : Nat := 0
  /-- Statements sent, the oldest first. -/
  statements : List String := []

/-! ## Algorithm -/

namespace Recorded

variable {σ α : Type}

def sending (sql : String) (r : Recorded σ) : Recorded σ :=
  { r with statements := r.statements ++ [sql] }

def connecting (r : Recorded σ) : Recorded σ :=
  { r with connects := r.connects + 1 }

/-- An action on the world, put on record by `note` before it. -/
def noted (note : Recorded σ → Recorded σ) (act : Native σ α) : Native (Recorded σ) α := do
  modify note
  let r ← get
  let (result, world) := act.run r.world
  set { r with world }
  MonadExcept.ofExcept result

end Recorded

variable {σ α : Type}

def Connection.recorded (c : Connection σ) : Connection (Recorded σ) where
  execute sql := Recorded.noted (Recorded.sending sql) (c.execute sql)
  query sql := Recorded.noted (Recorded.sending sql) (c.query sql)
  batch sql := Recorded.noted (Recorded.sending sql) (c.batch sql)

def Connector.recorded (k : Connector σ) : Connector (Recorded σ) := fun config => do
  return (← Recorded.noted Recorded.connecting (k config)).recorded

def Session.recorded (s : Session σ) : Session (Recorded σ) where
  name := s.name
  config := s.config
  connector := Connector.recorded s.connector
  connection := s.connection.map Connection.recorded
  idField := s.idField
  inTransaction := s.inTransaction

/-! ## Lemmas -/

theorem Recorded.run_noted (note : Recorded σ → Recorded σ) (act : Native σ α) (r : Recorded σ) :
    (noted note act).run r = match act.run (note r).world with
      | (result, w) => (result, { note r with world := w }) := by
  unfold noted
  rw [run_bind_ok (run_modify note r), run_bind_ok (run_get (note r))]
  rcases act.run (note r).world with ⟨res, w⟩
  cases res <;> rfl

theorem Connector.run_recorded (k : Connector σ) (config : InstanceConfig) (r : Recorded σ) :
    (Connector.recorded k config).run r = match (k config).run r.world with
      | (.ok c, w) => (.ok c.recorded, { r.connecting with world := w })
      | (.error f, w) => (.error f, { r.connecting with world := w }) := by
  have hnoted := Recorded.run_noted Recorded.connecting (k config) r
  have hworld : r.connecting.world = r.world := rfl
  rw [hworld] at hnoted
  unfold Connector.recorded
  rcases hk : (k config).run r.world with ⟨res, w⟩
  simp only [hk] at hnoted
  cases res with
  | ok c => exact run_bind_ok hnoted _
  | error f => exact run_bind_error hnoted _

namespace Session

/-- An action of `s` gets this connection, and this is the record then. -/
inductive Attains (s : Session σ) (r : Recorded σ) : Connection σ → Recorded σ → Prop where
  | already (c : Connection σ) (h : s.connection = some c) : Attains s r c r
  | opened (c : Connection σ) (w : σ) (h : s.connection = none)
      (hc : (s.connector s.config).run r.world = (.ok c, w)) :
      Attains s r c { r.connecting with world := w }

theorem Attains.statements {s : Session σ} {r r₁ : Recorded σ} {c : Connection σ}
    (h : s.Attains r c r₁) : r₁.statements = r.statements := by
  cases h <;> rfl

theorem Attains.reaches {s : Session σ} {r r₁ : Recorded σ} {c : Connection σ}
    (h : s.Attains r c r₁) : s.Reaches r.world c r₁.world := by
  cases h with
  | already hc => exact .already c hc
  | opened w hnone hc => exact .opened c w hnone hc

theorem refuses_recorded {s : Session σ} {r r' : Recorded σ} {f : DriverFailure}
    (h : s.recorded.Refuses r f r') :
    ∃ w, s.Refuses r.world f w ∧ r' = { r.connecting with world := w } := by
  obtain ⟨hnone, hfail⟩ := h
  have hs : s.connection = none := by
    cases hc : s.connection with
    | none => rfl
    | some c =>
      unfold recorded at hnone
      rw [hc] at hnone
      cases hnone
  have hrun : (Connector.recorded s.connector s.config).run r = (.error f, r') := hfail
  rw [Connector.run_recorded] at hrun
  rcases hk : (s.connector s.config).run r.world with ⟨res, w⟩
  rw [hk] at hrun
  cases res with
  | ok c => cases hrun
  | error f' =>
    cases hrun
    exact ⟨w, ⟨hs, hk⟩, rfl⟩

theorem reaches_recorded {s : Session σ} {r r' : Recorded σ} {c' : Connection (Recorded σ)}
    (h : s.recorded.Reaches r c' r') : ∃ c, c' = c.recorded ∧ s.Attains r c r' := by
  cases hs : s.connection with
  | some c =>
    cases h with
    | already h =>
      unfold recorded at h
      rw [hs] at h
      cases h
      exact ⟨c, rfl, .already c hs⟩
    | opened _ h hc =>
      unfold recorded at h
      rw [hs] at h
      cases h
  | none =>
    cases h with
    | already h =>
      unfold recorded at h
      rw [hs] at h
      cases h
    | opened _ h hc =>
      have hrun : (Connector.recorded s.connector s.config).run r = (.ok c', r') := hc
      rw [Connector.run_recorded] at hrun
      rcases hk : (s.connector s.config).run r.world with ⟨res, w⟩
      rw [hk] at hrun
      cases res with
      | error f => cases hrun
      | ok c =>
        cases hrun
        exact ⟨c, rfl, .opened c w hs hk⟩

/-- An action that sends `sql` is refused a connection, or `sql` is the one statement more. -/
theorem sending_cases (s : Session σ) (r : Recorded σ) (sql : String)
    {act' : Connection (Recorded σ) → Native (Recorded σ) α} {act : Connection σ → Native σ α}
    (h : ∀ c, act' c.recorded = Recorded.noted (Recorded.sending sql) (act c)) :
    (∃ f w, s.Refuses r.world f w ∧ (native sql act').run ⟨s.recorded, r⟩
      = (.error (.ofFailure f (connectAction s.name)),
        ⟨s.recorded, { r.connecting with world := w }⟩)) ∨
    ∃ c r₁, s.Attains r c r₁ ∧
      (native sql act').run ⟨s.recorded, r⟩ = match (act c).run r₁.world with
        | (.ok a, w) => (.ok a, ⟨(s.on c).recorded, { r₁.sending sql with world := w }⟩)
        | (.error f, w) =>
          (.error (.ofFailure f sql), ⟨(s.on c).recorded, { r₁.sending sql with world := w }⟩) := by
  rcases native_cases s.recorded r sql act' with ⟨f, r', hf, hrun⟩ | ⟨c', r', hc, hrun⟩
  · left
    obtain ⟨w, hw, rfl⟩ := refuses_recorded hf
    exact ⟨f, w, hw, hrun⟩
  · right
    obtain ⟨c, rfl, hatt⟩ := reaches_recorded hc
    refine ⟨c, r', hatt, ?_⟩
    have hworld : (r'.sending sql).world = r'.world := rfl
    rw [hrun, h c, Recorded.run_noted, hworld]
    rcases (act c).run r'.world with ⟨res, w⟩
    cases res <;> rfl

end Session

end SqlGateway
