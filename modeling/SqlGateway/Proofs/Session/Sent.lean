import SqlGateway.Proofs.Session.Recorded

/-!
# Sending a statement

What comes of an action that sends one statement: an answer, a failure to
connect, or a failure that the driver reports for this very statement.

    execute sql, statement sql, rows sql, firstRow sql   come to   Sent s r sql
-/

namespace SqlGateway

variable {σ α β : Type}

/-! ## Failures of a driver -/

namespace Statement

/-- The source of the rows has this failure among its items. -/
def MayFail (s : Statement) (f : DriverFailure) : Prop :=
  ∃ items, s.supply = .streaming items ∧ .failure f ∈ items

theorem mem_of_drainItems {items : List StreamItem} {rows : List Row} {f : DriverFailure}
    (h : drainItems items = (rows, some f)) : .failure f ∈ items := by
  induction items generalizing rows with
  | nil =>
    unfold drainItems at h
    cases h
  | cons item rest ih =>
    cases item with
    | row r =>
      unfold drainItems at h
      rcases hrest : drainItems rest with ⟨rows', failure⟩
      rw [hrest] at h
      cases h
      exact List.mem_cons_of_mem _ (ih hrest)
    | failure g =>
      unfold drainItems at h
      cases h
      exact List.mem_cons_self
    | finish =>
      unfold drainItems at h
      cases h

theorem mayFail_of_fetchAll {s : Statement} {f : DriverFailure} (h : s.fetchAll = .error f) :
    s.MayFail f := by
  unfold fetchAll drain at h
  cases hs : s.supply with
  | buffered rows =>
    rw [hs] at h
    cases h
  | streaming items =>
    rw [hs] at h
    refine ⟨items, hs, ?_⟩
    rcases hd : drainItems items with ⟨rows, failure⟩
    simp only [hd] at h
    cases failure with
    | none => cases h
    | some g =>
      cases h
      exact mem_of_drainItems hd

theorem mayFail_of_fetch {s : Statement} {f : DriverFailure} (h : s.fetch.1 = .error f) :
    s.MayFail f := by
  unfold fetch at h
  split at h
  · cases h
  · cases h
  · cases h
  · next g rest hs =>
    cases h
    exact ⟨_, hs, List.mem_cons_self⟩
  · cases h
  · cases h

end Statement

/-- The driver itself fails at `sql`: when it is asked, or on the way through the rows. -/
inductive Connection.Reports (c : Connection σ) (w : σ) (sql : String) (f : DriverFailure) : Prop
  where
  | execute (w' : σ) (h : (c.execute sql).run w = (.error f, w'))
  | query (w' : σ) (h : (c.query sql).run w = (.error f, w'))
  | stream (s : Statement) (w' : σ) (h : (c.query sql).run w = (.ok s, w')) (hf : s.MayFail f)

/-- Reading an answer of a query: a failure is one that the driver reports. -/
theorem Connection.reports_of_query {c : Connection σ} {w w' : σ} {sql : String}
    {f : DriverFailure} {read : Statement → Except DriverFailure α}
    (hread : ∀ s f, read s = .error f → s.MayFail f)
    (h : (do let s ← c.query sql; MonadExcept.ofExcept (read s) : Native σ α).run w
      = (.error f, w')) : c.Reports w sql f := by
  rw [run_bind] at h
  rcases hq : (c.query sql).run w with ⟨res, w₁⟩
  rw [hq] at h
  cases res with
  | error g =>
    cases h
    exact .query w' hq
  | ok s =>
    have hs : (MonadExcept.ofExcept (read s) : Native σ α).run w₁ = (.error f, w') := h
    rw [run_ofExcept] at hs
    exact .stream s w₁ hq (hread s f (congrArg Prod.fst hs))

namespace Recorded

/-- What is read off an answer is no further action. -/
theorem noted_bind_ofExcept (note : Recorded σ → Recorded σ) (act : Native σ α)
    (read : α → Except DriverFailure β) :
    (do let a ← noted note act; MonadExcept.ofExcept (read a) : Native (Recorded σ) β)
      = noted note (do let a ← act; MonadExcept.ofExcept (read a)) := by
  apply ExceptT.ext
  funext r
  have hl := run_bind (noted note act) (fun a => MonadExcept.ofExcept (read a)) r
  have hr := run_noted note (do let a ← act; MonadExcept.ofExcept (read a)) r
  rw [run_bind] at hr
  rw [run_noted] at hl
  refine hl.trans (Eq.trans ?_ hr.symm)
  rcases act.run (note r).world with ⟨res, w⟩
  cases res with
  | error f => rfl
  | ok a =>
    simp only [run_ofExcept]

end Recorded

/-! ## What comes of it -/

namespace Session

/-- One statement more: answered, not sent for want of a connection, or failed. -/
inductive Sent (s : Session σ) (r : Recorded σ) (sql : String) (IsAnswer : α → Prop) :
    Except SqlError α × Channel (Recorded σ) → Prop where
  | answered (c : Connection σ) (r₁ : Recorded σ) (w : σ) (a : α) (hc : s.Attains r c r₁)
      (ha : IsAnswer a) :
      Sent s r sql IsAnswer (.ok a, ⟨(s.on c).recorded, { r₁.sending sql with world := w }⟩)
  | refused (f : DriverFailure) (w : σ) (hf : s.Refuses r.world f w) :
      Sent s r sql IsAnswer (.error (.ofFailure f (connectAction s.name)),
        ⟨s.recorded, { r.connecting with world := w }⟩)
  | failed (c : Connection σ) (r₁ : Recorded σ) (w : σ) (f : DriverFailure)
      (hc : s.Attains r c r₁) (hf : c.Reports r₁.world sql f) :
      Sent s r sql IsAnswer (.error (.ofFailure f sql),
        ⟨(s.on c).recorded, { r₁.sending sql with world := w }⟩)

variable {s : Session σ} {r : Recorded σ} {sql : String}

theorem sent_native {act' : Connection (Recorded σ) → Native (Recorded σ) α}
    (act : Connection σ → Native σ α)
    (h : ∀ c, act' c.recorded = Recorded.noted (Recorded.sending sql) (act c))
    (hf : ∀ c w f w', (act c).run w = (.error f, w') → c.Reports w sql f) :
    Sent s r sql (fun _ => True) ((native sql act').run ⟨s.recorded, r⟩) := by
  rcases sending_cases s r sql h with ⟨f, w, hrefuse, hrun⟩ | ⟨c, r₁, hc, hrun⟩
  · rw [hrun]
    exact .refused f w hrefuse
  · rw [hrun]
    rcases hact : (act c).run r₁.world with ⟨res, w⟩
    cases res with
    | ok a => exact .answered c r₁ w a hc trivial
    | error f => exact .failed c r₁ w f hc (hf c _ f w hact)

theorem sent_execute (s : Session σ) (r : Recorded σ) (sql : String) :
    Sent s r sql (fun _ => True) ((execute sql).run ⟨s.recorded, r⟩) := by
  apply sent_native (fun c => c.execute sql)
  · intro c
    rfl
  · intro c w f w' h
    exact .execute w' h

theorem sent_statement (s : Session σ) (r : Recorded σ) (sql : String) :
    Sent s r sql (fun _ => True) ((statement sql).run ⟨s.recorded, r⟩) := by
  apply sent_native (fun c => c.query sql)
  · intro c
    rfl
  · intro c w f w' h
    exact .query w' h

theorem sent_rows (s : Session σ) (r : Recorded σ) (sql : String) :
    Sent s r sql (fun _ => True) ((rows sql).run ⟨s.recorded, r⟩) := by
  apply sent_native
    (fun c => do let s ← c.query sql; MonadExcept.ofExcept s.fetchAll)
  · intro c
    exact Recorded.noted_bind_ofExcept _ (c.query sql) Statement.fetchAll
  · intro c w f w' h
    exact Connection.reports_of_query (fun _ _ => Statement.mayFail_of_fetchAll) h

theorem sent_firstRow (s : Session σ) (r : Recorded σ) (sql : String) :
    Sent s r sql (fun _ => True) ((firstRow sql).run ⟨s.recorded, r⟩) := by
  apply sent_native
    (fun c => do let s ← c.query sql; MonadExcept.ofExcept s.fetch.1)
  · intro c
    exact Recorded.noted_bind_ofExcept _ (c.query sql) fun s => s.fetch.1
  · intro c w f w' h
    exact Connection.reports_of_query (fun _ _ => Statement.mayFail_of_fetch) h

/-- What an answer is made into changes nothing else. -/
theorem Sent.map {IsAnswer : α → Prop} {IsAnswer' : β → Prop}
    {act : SessionM (Recorded σ) α} {c : Channel (Recorded σ)}
    (h : Sent s r sql IsAnswer (act.run c)) (g : α → β)
    (hg : ∀ a, IsAnswer a → IsAnswer' (g a)) :
    Sent s r sql IsAnswer' ((do return g (← act) : SessionM (Recorded σ) β).run c) := by
  rw [run_bind]
  generalize act.run c = res at h
  cases h with
  | answered c r₁ w a hc ha => exact .answered c r₁ w (g a) hc (hg a ha)
  | refused f w hf => exact .refused f w hf
  | failed c r₁ w f hc hf => exact .failed c r₁ w f hc hf

end Session

end SqlGateway
