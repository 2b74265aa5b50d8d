import SqlGateway.Proofs.Session.Sent

/-!
# The life of a session

Any sequence of calls on a new session, with drivers that may fail at every
one.  A call is a misuse, is refused a connection, or is served over the one
connection that the session ever opens.  A misuse changes nothing; a call that
is served sends its statement, whatever becomes of it there.

    in transaction after a history   iff   a begin succeeded in it, and nothing after that
                                           committed or rolled back
-/

namespace SqlGateway

variable {σ α β : Type}

/-! ## Algorithm -/

/-- What a caller may do with a session. -/
inductive SessionCall where
  | connect
  | execute (sql : String) (fetch : Fetch)
  | begin (sql : String)
  | commit (sql : String)
  | rollback (sql : String)

namespace SessionCall

def perform : SessionCall → SessionM σ Unit
  | .connect => Session.connected
  | .execute sql fetch => do let _ ← Session.run sql fetch
  | .begin sql => Session.begin sql
  | .commit sql => Session.commit sql
  | .rollback sql => Session.rollback sql

/-- The statement that the call is there to send. -/
def sql? : SessionCall → Option String
  | .connect => none
  | .execute sql _ | .begin sql | .commit sql | .rollback sql => some sql

/-- What is wrong with a second transaction, or with the end of none. -/
def misuse? (s : Session σ) : SessionCall → Option BuildError
  | .begin _ => if s.inTransaction then some (.transactionOpen s.name) else none
  | .commit _ | .rollback _ => if s.inTransaction then none else some (.noTransaction s.name)
  | .connect | .execute .. => none

/-- The flag after a call that is no misuse. -/
def flagAfter (inTransaction succeeded : Bool) : SessionCall → Bool
  | .begin _ => inTransaction || succeeded
  | .commit _ => inTransaction && !succeeded
  | .rollback _ => false
  | .connect | .execute .. => inTransaction

end SessionCall

/-- One call of a history, with the session and the record before and after it. -/
structure Visit (σ : Type) where
  call : SessionCall
  before : Channel (Recorded σ)
  result : Except SqlError Unit
  after : Channel (Recorded σ)

namespace Visit

def of (call : SessionCall) (c : Channel (Recorded σ)) : Visit σ :=
  ⟨call, c, (call.perform.run c).1, (call.perform.run c).2⟩

/-- The session has its connection from this call on. -/
def opens (v : Visit σ) : Bool :=
  !v.before.session.isConnected && v.after.session.isConnected

/-- A transaction begins. -/
def begins (v : Visit σ) : Bool :=
  match v.call with
  | .begin _ => v.result.isOk
  | _ => false

/-- A commit succeeds, or a rollback is attempted while a transaction is open. -/
def ends (v : Visit σ) : Bool :=
  match v.call with
  | .commit _ => v.result.isOk
  | .rollback _ => v.before.session.inTransaction
  | _ => false

end Visit

/-- The calls one after the other. -/
def history : List SessionCall → Channel (Recorded σ) → List (Visit σ)
  | [], _ => []
  | call :: calls, c => .of call c :: history calls (Visit.of call c).after

/-- Where the calls lead to. -/
def lastOf : List SessionCall → Channel (Recorded σ) → Channel (Recorded σ)
  | [], c => c
  | call :: calls, c => lastOf calls (Visit.of call c).after

/-! ## One statement -/

namespace Session

/-- One statement more, unless there is no connection for it. -/
inductive Asked (s : Session σ) (r : Recorded σ) (sql : String) :
    Except SqlError α × Channel (Recorded σ) → Prop where
  | refused (f : DriverFailure) (w : σ) (hf : s.Refuses r.world f w) :
      Asked s r sql (.error (.ofFailure f (connectAction s.name)),
        ⟨s.recorded, { r.connecting with world := w }⟩)
  | sent (c : Connection σ) (r₁ : Recorded σ) (w : σ) (result : Except SqlError α)
      (hc : s.Attains r c r₁) :
      Asked s r sql (result, ⟨(s.on c).recorded, { r₁.sending sql with world := w }⟩)

variable {s : Session σ} {r : Recorded σ} {sql : String}

theorem asked_native {act' : Connection (Recorded σ) → Native (Recorded σ) α}
    (act : Connection σ → Native σ α)
    (h : ∀ c, act' c.recorded = Recorded.noted (Recorded.sending sql) (act c)) :
    Asked s r sql ((native sql act').run ⟨s.recorded, r⟩) := by
  rcases sending_cases s r sql h with ⟨f, w, hf, hrun⟩ | ⟨c, r₁, hc, hrun⟩
  · rw [hrun]
    exact .refused f w hf
  · rw [hrun]
    rcases (act c).run r₁.world with ⟨res, w⟩
    cases res with
    | ok a => exact .sent c r₁ w _ hc
    | error f => exact .sent c r₁ w _ hc

/-- A query whose answer is read at once sends no more than the query. -/
theorem asked_reading (read : Statement → Except DriverFailure α) :
    Asked s r sql ((native sql fun c => do
      let st ← c.query sql
      MonadExcept.ofExcept (read st)).run ⟨s.recorded, r⟩) := by
  apply asked_native fun c => do
    let st ← c.query sql
    MonadExcept.ofExcept (read st)
  intro c
  exact Recorded.noted_bind_ofExcept _ (c.query sql) read

theorem Asked.map {act : SessionM (Recorded σ) α} {c : Channel (Recorded σ)}
    (h : Asked s r sql (act.run c)) (g : α → β) :
    Asked s r sql ((do return g (← act) : SessionM (Recorded σ) β).run c) := by
  rw [run_bind]
  generalize act.run c = res at h
  cases h with
  | refused f w hf => exact .refused f w hf
  | sent c r₁ w result hc =>
    cases result with
    | ok a => exact .sent c r₁ w (.ok (g a)) hc
    | error e => exact .sent c r₁ w (.error e) hc

theorem Asked.inTransaction_eq {res : Except SqlError α × Channel (Recorded σ)}
    (h : Asked s r sql res) : res.2.session.inTransaction = s.inTransaction := by
  cases h <;> rfl

theorem asked_batch (s : Session σ) (r : Recorded σ) (sql : String) :
    Asked s r sql ((batch sql).run ⟨s.recorded, r⟩) := by
  apply asked_native fun c => c.batch sql
  intro c
  rfl

theorem asked_run (s : Session σ) (r : Recorded σ) (sql : String) (fetch : Fetch) :
    Asked s r sql ((run sql fetch).run ⟨s.recorded, r⟩) := by
  cases fetch with
  | affected =>
    have hasked : Asked s r sql ((execute sql).run ⟨s.recorded, r⟩) :=
      asked_native (fun c => c.execute sql) fun c => rfl
    exact hasked.map Fetched.affected
  | batch => exact (asked_batch s r sql).map fun _ => Fetched.done
  | statement =>
    have hasked : Asked s r sql ((statement sql).run ⟨s.recorded, r⟩) :=
      asked_native (fun c => c.query sql) fun c => rfl
    exact hasked.map Fetched.statement
  | rows => exact (asked_reading Statement.fetchAll).map Fetched.rows
  | firstRow => exact (asked_reading fun st => st.fetch.1).map Fetched.row
  | firstValue => exact (asked_reading fun st => st.fetchColumn.1).map Fetched.value

/-! ## Transactions -/

theorem run_begin (s : Session σ) (w : σ) (sql : String) :
    (begin sql).run ⟨s, w⟩ =
      if s.inTransaction then (.error (.queryBuild (.transactionOpen s.name)), ⟨s, w⟩)
      else match (batch sql).run ⟨s, w⟩ with
        | (.ok (), c) => (.ok (), { c with session := { c.session with inTransaction := true } })
        | (.error e, c) => (.error e, c) := by
  unfold begin
  rw [run_bind_ok (run_current ⟨s, w⟩)]
  by_cases h : s.inTransaction
  · simp only [h, if_true]
    rfl
  · simp only [h]
    show (batch sql >>= _).run _ = _
    rw [run_bind]
    rcases (batch sql).run ⟨s, w⟩ with ⟨res, c⟩
    cases res <;> rfl

theorem run_requireTransaction (s : Session σ) (w : σ) :
    requireTransaction.run ⟨s, w⟩ =
      (if s.inTransaction then .ok () else .error (.queryBuild (.noTransaction s.name)), ⟨s, w⟩) := by
  unfold requireTransaction
  rw [run_bind_ok (run_current ⟨s, w⟩)]
  by_cases h : s.inTransaction <;> simp only [h] <;> rfl

theorem run_commit (s : Session σ) (w : σ) (sql : String) :
    (commit sql).run ⟨s, w⟩ =
      if s.inTransaction then match (batch sql).run ⟨s, w⟩ with
        | (.ok (), c) => (.ok (), { c with session := { c.session with inTransaction := false } })
        | (.error e, c) => (.error e, c)
      else (.error (.queryBuild (.noTransaction s.name)), ⟨s, w⟩) := by
  unfold commit
  rw [run_bind, run_requireTransaction]
  by_cases h : s.inTransaction
  · simp only [h, if_true]
    rw [run_bind]
    rcases (batch sql).run ⟨s, w⟩ with ⟨res, c⟩
    cases res <;> rfl
  · simp only [h]
    rfl

theorem run_rollback (s : Session σ) (w : σ) (sql : String) :
    (rollback sql).run ⟨s, w⟩ =
      if s.inTransaction then (batch sql).run ⟨{ s with inTransaction := false }, w⟩
      else (.error (.queryBuild (.noTransaction s.name)), ⟨s, w⟩) := by
  unfold rollback
  rw [run_bind, run_requireTransaction]
  by_cases h : s.inTransaction
  · simp only [h, if_true]
    rfl
  · simp only [h]
    rfl

end Session

/-! ## One call -/

namespace SessionCall

/-- Everything that a call can come to. -/
inductive Outcome (s : Session σ) (r : Recorded σ) (call : SessionCall) :
    Except SqlError Unit × Channel (Recorded σ) → Prop where
  | misused (cause : BuildError) (h : call.misuse? s = some cause) :
      Outcome s r call (.error (.queryBuild cause), ⟨s.recorded, r⟩)
  | refused (f : DriverFailure) (w : σ) (h : call.misuse? s = none)
      (hf : s.Refuses r.world f w) :
      Outcome s r call (.error (.ofFailure f (Session.connectAction s.name)),
        ⟨{ s with inTransaction := call.flagAfter s.inTransaction false }.recorded,
          { r.connecting with world := w }⟩)
  | served (c : Connection σ) (r₁ : Recorded σ) (w : σ) (result : Except SqlError Unit)
      (h : call.misuse? s = none) (hc : s.Attains r c r₁) :
      Outcome s r call (result,
        ⟨{ s.on c with inTransaction := call.flagAfter s.inTransaction result.isOk }.recorded,
          { r₁ with statements := r₁.statements ++ call.sql?.toList, world := w }⟩)

theorem misuse?_recorded (call : SessionCall) (s : Session σ) :
    call.misuse? s.recorded = call.misuse? s := by
  cases call <;> rfl

/-- A misuse keeps the flag, which is what a call that fails does where it is a misuse. -/
theorem flagAfter_of_misuse {call : SessionCall} {s : Session σ} {cause : BuildError}
    (h : call.misuse? s = some cause) : call.flagAfter s.inTransaction false = s.inTransaction := by
  cases call with
  | connect | execute => rfl
  | begin sql => simp [flagAfter]
  | commit sql => simp [flagAfter]
  | rollback sql =>
    by_cases hs : s.inTransaction
    · simp [misuse?, hs] at h
    · simp [flagAfter, hs]

theorem flagAfter_idle (call : SessionCall) : call.flagAfter false false = false := by
  cases call <;> rfl

theorem Outcome.flag {s : Session σ} {r : Recorded σ} {call : SessionCall}
    {res : Except SqlError Unit × Channel (Recorded σ)} (h : Outcome s r call res) :
    res.2.session.inTransaction = call.flagAfter s.inTransaction res.1.isOk := by
  cases h with
  | misused cause h => exact (flagAfter_of_misuse h).symm
  | refused f w h hf => rfl
  | served c r₁ w result h hc => rfl

theorem outcome_connect (s : Session σ) (r : Recorded σ) :
    Outcome s r .connect (Session.connected.run ⟨s.recorded, r⟩) := by
  rcases Session.connected_cases s.recorded r with ⟨f, r', hf, hrun⟩ | ⟨c', r', hc, hrun⟩
  · obtain ⟨w, hw, rfl⟩ := Session.refuses_recorded hf
    rw [hrun]
    exact .refused f w rfl hw
  · obtain ⟨c, rfl, hatt⟩ := Session.reaches_recorded hc
    have hsame : r' = { r' with statements := r'.statements ++ [], world := r'.world } := by
      rw [List.append_nil]
    rw [hrun, hsame]
    exact .served c r' r'.world (.ok ()) rfl hatt

/-- The call is served as its statement is, with the flag that belongs to the result. -/
theorem Outcome.of_asked {s : Session σ} {r : Recorded σ} {call : SessionCall} {sql : String}
    (hsql : call.sql? = some sql) (h : call.misuse? s = none)
    {res : Except SqlError Unit × Channel (Recorded σ)} (hres : s.Asked r sql res) :
    Outcome s r call (res.1, ⟨{ res.2.session with
      inTransaction := call.flagAfter s.inTransaction res.1.isOk }, res.2.world⟩) := by
  cases hres with
  | refused f w hf => exact .refused f w h hf
  | sent c r₁ w result hc =>
    have hserved := Outcome.served c r₁ w result h hc
    rw [hsql] at hserved
    exact hserved

theorem Outcome.of_asked_keeping {s : Session σ} {r : Recorded σ} {call : SessionCall}
    {sql : String} (hsql : call.sql? = some sql) (h : call.misuse? s = none)
    {res : Except SqlError Unit × Channel (Recorded σ)} (hres : s.Asked r sql res)
    (hkeep : call.flagAfter s.inTransaction res.1.isOk = s.inTransaction) :
    Outcome s r call res := by
  have hout := Outcome.of_asked hsql h hres
  rw [hkeep, ← hres.inTransaction_eq] at hout
  exact hout

theorem outcome_begin (s : Session σ) (r : Recorded σ) (sql : String) :
    Outcome s r (.begin sql) ((Session.begin sql).run ⟨s.recorded, r⟩) := by
  rw [Session.run_begin]
  have hflag : s.recorded.inTransaction = s.inTransaction := rfl
  by_cases h : s.inTransaction
  · rw [hflag, if_pos h]
    exact .misused _ (if_pos h)
  · rw [hflag, if_neg h]
    have hasked := Session.asked_batch s r sql
    have hnone : (SessionCall.begin sql).misuse? s = none := if_neg h
    rcases hb : (Session.batch sql).run ⟨s.recorded, r⟩ with ⟨res, c⟩
    rw [hb] at hasked
    cases res with
    | ok u =>
      have hout := Outcome.of_asked rfl hnone hasked
      have htrue : (SessionCall.begin sql).flagAfter s.inTransaction true = true :=
        Bool.or_true _
      rw [show (Except.ok u : Except SqlError Unit).isOk = true from rfl, htrue] at hout
      exact hout
    | error e => exact .of_asked_keeping rfl hnone hasked (Bool.or_false _)

theorem outcome_commit (s : Session σ) (r : Recorded σ) (sql : String) :
    Outcome s r (.commit sql) ((Session.commit sql).run ⟨s.recorded, r⟩) := by
  rw [Session.run_commit]
  have hflag : s.recorded.inTransaction = s.inTransaction := rfl
  by_cases h : s.inTransaction
  · rw [hflag, if_pos h]
    have hasked := Session.asked_batch s r sql
    have hnone : (SessionCall.commit sql).misuse? s = none := if_pos h
    rcases hb : (Session.batch sql).run ⟨s.recorded, r⟩ with ⟨res, c⟩
    rw [hb] at hasked
    cases res with
    | ok u =>
      have hout := Outcome.of_asked rfl hnone hasked
      have hfalse : (SessionCall.commit sql).flagAfter s.inTransaction true = false :=
        Bool.and_false _
      rw [show (Except.ok u : Except SqlError Unit).isOk = true from rfl, hfalse] at hout
      exact hout
    | error e => exact .of_asked_keeping rfl hnone hasked (Bool.and_true _)
  · rw [hflag, if_neg h]
    exact .misused _ (if_neg h)

/-- A rollback clears the flag first, and its statement runs on the session without it. -/
theorem outcome_rollback (s : Session σ) (r : Recorded σ) (sql : String) :
    Outcome s r (.rollback sql) ((Session.rollback sql).run ⟨s.recorded, r⟩) := by
  rw [Session.run_rollback]
  have hflag : s.recorded.inTransaction = s.inTransaction := rfl
  by_cases h : s.inTransaction
  · rw [hflag, if_pos h]
    have hnone : (SessionCall.rollback sql).misuse? s = none := if_pos h
    have hasked := Session.asked_batch { s with inTransaction := false } r sql
    show Outcome s r _ ((Session.batch sql).run
      ⟨Session.recorded { s with inTransaction := false }, r⟩)
    generalize (Session.batch sql).run
      ⟨Session.recorded { s with inTransaction := false }, r⟩ = res at hasked
    cases hasked with
    | refused f w hf => exact .refused f w hnone ⟨hf.unconnected, hf.failure⟩
    | sent c r₁ w result hc =>
      have hatt : s.Attains r c r₁ := by
        cases hc with
        | already hs => exact .already c hs
        | opened w' hs hrun => exact .opened c w' hs hrun
      exact .served c r₁ w result hnone hatt
  · rw [hflag, if_neg h]
    exact .misused _ (if_neg h)

theorem outcome_perform (call : SessionCall) (s : Session σ) (r : Recorded σ) :
    Outcome s r call (call.perform.run ⟨s.recorded, r⟩) := by
  cases call with
  | connect => exact outcome_connect s r
  | execute sql fetch =>
    have hasked : s.Asked r sql ((perform (.execute sql fetch)).run ⟨s.recorded, r⟩) :=
      (Session.asked_run s r sql fetch).map fun _ => ()
    exact .of_asked_keeping rfl rfl hasked rfl
  | begin sql => exact outcome_begin s r sql
  | commit sql => exact outcome_commit s r sql
  | rollback sql => exact outcome_rollback s r sql

end SessionCall

namespace Visit

/-- What one call may do and must do. -/
structure Lawful (v : Visit σ) : Prop where
  /-- A connection stays, and the connector is not called for another. -/
  keeps : v.before.session.isConnected = true →
    v.after.session.connection = v.before.session.connection ∧
      v.after.world.connects = v.before.world.connects
  /-- Without a connection the connector is called once: what it gives is the connection, and its
  failure is the failure of the call and leaves the session as it was. -/
  tries : v.before.session.isConnected = false → v.call.misuse? v.before.session = none →
    v.after.world.connects = v.before.world.connects + 1 ∧
      match (v.before.session.connector v.before.session.config).run v.before.world with
      | (.ok c, _) => v.after.session.connection = some c
      | (.error f, w) =>
        v.result = .error (.ofFailure f (Session.connectAction v.before.session.name)) ∧
          v.after = ⟨v.before.session, w⟩
  /-- A transaction is open only on a connection. -/
  connected : v.after.session.inTransaction = true → v.after.session.isConnected = true
  misused : ∀ cause, v.call.misuse? v.before.session = some cause →
    v.result = .error (.queryBuild cause) ∧ v.after = v.before
  sends : v.call.misuse? v.before.session = none → v.after.session.isConnected = true →
    v.after.world.statements = v.before.world.statements ++ v.call.sql?.toList
  silent : v.after.session.isConnected = false →
    v.after.world.statements = v.before.world.statements
  /-- The flag rises with a successful begin and falls with a successful commit or with any
  rollback of an open transaction, and stays otherwise. -/
  flag : v.after.session.inTransaction =
    if v.begins then true else if v.ends then false else v.before.session.inTransaction

/-- The flag of the session and that of the history agree on what a call does. -/
theorem flag_eq (v : Visit σ)
    (h : v.after.session.inTransaction
      = v.call.flagAfter v.before.session.inTransaction v.result.isOk) :
    v.after.session.inTransaction =
      if v.begins then true else if v.ends then false else v.before.session.inTransaction := by
  rw [h]
  unfold begins ends
  cases v.call with
  | connect | execute => rfl
  | begin sql => cases v.result.isOk <;> simp [SessionCall.flagAfter]
  | commit sql => cases v.result.isOk <;> simp [SessionCall.flagAfter]
  | rollback sql => cases v.before.session.inTransaction <;> simp [SessionCall.flagAfter]

theorem lawful_of (call : SessionCall) (s : Session σ) (r : Recorded σ)
    (hs : s.inTransaction = true → s.isConnected = true) :
    (of call ⟨s.recorded, r⟩).Lawful := by
  have hout := SessionCall.outcome_perform call s r
  have hmisuse := SessionCall.misuse?_recorded call s
  unfold of
  generalize call.perform.run ⟨s.recorded, r⟩ = res at hout
  have hflag := flag_eq ⟨call, ⟨s.recorded, r⟩, res.1, res.2⟩ hout.flag
  have hconnected : s.recorded.isConnected = s.isConnected := by
    simp [Session.isConnected, Session.recorded]
  cases hout with
  | misused cause h =>
    rw [h] at hmisuse
    refine ⟨fun _ => ⟨rfl, rfl⟩, ?_, fun ht => hconnected.trans (hs ht), ?_, ?_, fun _ => rfl, hflag⟩
    · intro _ hnone
      cases hmisuse.symm.trans hnone
    · intro cause' h'
      cases hmisuse.symm.trans h'
      exact ⟨rfl, rfl⟩
    · intro hnone
      cases hmisuse.symm.trans hnone
  | refused f w h hf =>
    rw [h] at hmisuse
    have hclosed : s.isConnected = false := by
      simp [Session.isConnected, hf.unconnected]
    have hidle : s.inTransaction = false := by
      cases ht : s.inTransaction with
      | false => rfl
      | true => exact absurd (hs ht) (by simp [hclosed])
    have hsame : { s with inTransaction := call.flagAfter s.inTransaction false } = s := by
      rw [hidle, SessionCall.flagAfter_idle, ← hidle]
    rw [hsame] at hflag ⊢
    have hrun : (s.recorded.connector s.recorded.config).run r
        = (.error f, { r.connecting with world := w }) := by
      have hrun := Connector.run_recorded s.connector s.config r
      rw [hf.failure] at hrun
      exact hrun
    constructor
    · intro ho
      simp [hconnected, hclosed] at ho
    · intro _ _
      refine ⟨rfl, ?_⟩
      dsimp only
      rw [hrun]
      exact ⟨rfl, rfl⟩
    · intro ht
      exact hconnected.trans (hs ht)
    · intro cause hcause
      cases hmisuse.symm.trans hcause
    · intro _ ho
      simp [hconnected, hclosed] at ho
    · intro _
      rfl
    · exact hflag
  | served c r₁ w result h hc =>
    rw [h] at hmisuse
    constructor
    · intro ho
      cases hc with
      | already hsome =>
        refine ⟨?_, rfl⟩
        simp [Session.recorded, Session.on, hsome]
      | opened w' hnone hk =>
        rw [hconnected, Session.isConnected, hnone] at ho
        cases ho
    · intro ho _
      cases hc with
      | already hsome =>
        rw [hconnected, Session.isConnected, hsome] at ho
        cases ho
      | opened w' hnone hk =>
        have hrun := Connector.run_recorded s.connector s.config r
        rw [hk] at hrun
        have hrun' : (s.recorded.connector s.recorded.config).run r
            = (.ok c.recorded, { r.connecting with world := w' }) := hrun
        refine ⟨rfl, ?_⟩
        dsimp only
        rw [hrun']
        rfl
    · intro _
      rfl
    · intro cause hcause
      cases hmisuse.symm.trans hcause
    · intro _ _
      show r₁.statements ++ call.sql?.toList = r.statements ++ call.sql?.toList
      rw [hc.statements]
    · intro ho
      cases ho
    · exact hflag

end Visit

/-! ## Histories -/

/-- A recorded session that has no transaction without a connection. -/
def Ready (c : Channel (Recorded σ)) : Prop :=
  (∃ s : Session σ, c.session = s.recorded) ∧
    (c.session.inTransaction = true → c.session.isConnected = true)

/-- A begin succeeded, and nothing after it ended its transaction. -/
def OpenIn (vs : List (Visit σ)) : Prop :=
  ∃ pre v post, vs = pre ++ v :: post ∧ v.begins = true ∧ ∀ u ∈ post, u.ends = false

theorem Ready.step {c : Channel (Recorded σ)} (h : Ready c) (call : SessionCall) :
    (Visit.of call c).Lawful ∧ Ready (Visit.of call c).after := by
  obtain ⟨session, r⟩ := c
  obtain ⟨⟨s, hs⟩, hconnected⟩ := h
  subst hs
  have hopen : s.inTransaction = true → s.isConnected = true := by
    intro ht
    simpa [Session.isConnected, Session.recorded] using hconnected ht
  have hlawful := Visit.lawful_of call s r hopen
  refine ⟨hlawful, ?_, hlawful.connected⟩
  have hout := SessionCall.outcome_perform call s r
  unfold Visit.of
  generalize call.perform.run ⟨s.recorded, r⟩ = res at hout
  cases hout with
  | misused cause h => exact ⟨_, rfl⟩
  | refused f w h hf => exact ⟨_, rfl⟩
  | served c r₁ w result h hc => exact ⟨_, rfl⟩

theorem lawful_of_mem (calls : List SessionCall) {c : Channel (Recorded σ)} (h : Ready c) :
    ∀ v ∈ history calls c, v.Lawful := by
  induction calls generalizing c with
  | nil =>
    intro v hv
    cases hv
  | cons call calls ih =>
    intro v hv
    obtain ⟨hlawful, hnext⟩ := h.step call
    rcases List.mem_cons.1 hv with rfl | hv
    · exact hlawful
    · exact ih hnext v hv

theorem countP_opens_of_connected (calls : List SessionCall) {c : Channel (Recorded σ)}
    (h : Ready c) (ho : c.session.isConnected = true) :
    (history calls c).countP Visit.opens = 0 := by
  induction calls generalizing c with
  | nil => rfl
  | cons call calls ih =>
    obtain ⟨hlawful, hnext⟩ := h.step call
    have hkept := (hlawful.keeps ho).1
    have hafter : (Visit.of call c).after.session.isConnected = true := by
      rw [Session.isConnected, hkept]
      exact ho
    have hfirst : (Visit.of call c).opens = false := by
      unfold Visit.opens
      rw [show (Visit.of call c).before = c from rfl, ho]
      rfl
    rw [history, List.countP_cons, ih hnext hafter, hfirst]
    rfl

theorem countP_opens_le (calls : List SessionCall) {c : Channel (Recorded σ)} (h : Ready c) :
    (history calls c).countP Visit.opens ≤ 1 := by
  induction calls generalizing c with
  | nil => simp [history]
  | cons call calls ih =>
    obtain ⟨hlawful, hnext⟩ := h.step call
    rw [history, List.countP_cons]
    by_cases ho : (Visit.of call c).opens
    · have hafter : (Visit.of call c).after.session.isConnected = true := by
        unfold Visit.opens at ho
        rw [Bool.and_eq_true] at ho
        exact ho.2
      have hrest := countP_opens_of_connected calls hnext hafter
      have hone : (if (Visit.of call c).opens = true then 1 else 0) = 1 := if_pos ho
      omega
    · rw [if_neg ho]
      exact ih hnext

/-- Something is in a list, and nothing that `q` holds of comes after it. -/
theorem exists_split_cons {γ : Type} {p q : γ → Bool} (v : γ) (vs : List γ) :
    (∃ pre u post, v :: vs = pre ++ u :: post ∧ p u = true ∧ ∀ x ∈ post, q x = false) ↔
      (p v = true ∧ ∀ x ∈ vs, q x = false) ∨
        ∃ pre u post, vs = pre ++ u :: post ∧ p u = true ∧ ∀ x ∈ post, q x = false := by
  constructor
  · rintro ⟨pre, u, post, heq, hu, hpost⟩
    cases pre with
    | nil =>
      obtain ⟨rfl, rfl⟩ := List.cons.inj heq
      exact .inl ⟨hu, hpost⟩
    | cons v' pre =>
      obtain ⟨rfl, rfl⟩ := List.cons.inj heq
      exact .inr ⟨pre, u, post, rfl, hu, hpost⟩
  · rintro (⟨hv, hpost⟩ | ⟨pre, u, post, rfl, hu, hpost⟩)
    · exact ⟨[], v, vs, rfl, hv, hpost⟩
    · exact ⟨v :: pre, u, post, rfl, hu, hpost⟩

theorem openIn_cons (v : Visit σ) (vs : List (Visit σ)) :
    OpenIn (v :: vs) ↔ (v.begins = true ∧ ∀ u ∈ vs, u.ends = false) ∨ OpenIn vs :=
  exists_split_cons v vs

/-- No call both begins and ends a transaction. -/
theorem Visit.ends_of_begins {v : Visit σ} (h : v.begins = true) : v.ends = false := by
  unfold begins at h
  unfold ends
  cases hc : v.call <;> simp_all

/-- The flag after a history, whatever it was before. -/
theorem inTransaction_lastOf (calls : List SessionCall) {c : Channel (Recorded σ)}
    (h : Ready c) :
    (lastOf calls c).session.inTransaction = true ↔
      (c.session.inTransaction = true ∧ ∀ v ∈ history calls c, v.ends = false) ∨
        OpenIn (history calls c) := by
  induction calls generalizing c with
  | nil => simp [lastOf, history, OpenIn]
  | cons call calls ih =>
    obtain ⟨hlawful, hnext⟩ := h.step call
    have hflag := hlawful.flag
    rw [show (Visit.of call c).before = c from rfl] at hflag
    rw [lastOf, history, ih hnext, openIn_cons, hflag, List.forall_mem_cons]
    by_cases hbegins : (Visit.of call c).begins
    · have hends := Visit.ends_of_begins hbegins
      simp only [hbegins, hends, if_true, true_and]
      constructor
      · rintro (h | h)
        · exact .inr (.inl h)
        · exact .inr (.inr h)
      · rintro (⟨-, h⟩ | h | h)
        · exact .inl h
        · exact .inl h
        · exact .inr h
    · by_cases hends : (Visit.of call c).ends
      · simp [hbegins, hends]
      · simp [hbegins, hends]

/-- **The life of a session.**  Whatever its drivers do, every call on it is lawful, at most one
opens a connection, and it is in a transaction just when its history has one open. -/
theorem history_lawful (name : String) (config : InstanceConfig) (connector : Connector σ)
    (idField : String) (w : σ) (calls : List SessionCall) :
    let s : Session σ := { name, config, connector, idField }
    let start : Channel (Recorded σ) := ⟨s.recorded, { world := w }⟩
    (∀ v ∈ history calls start, v.Lawful) ∧
      (history calls start).countP Visit.opens ≤ 1 ∧
      ((lastOf calls start).session.inTransaction = true ↔ OpenIn (history calls start)) := by
  intro s start
  have hidle : start.session.inTransaction = false := rfl
  have hready : Ready start := ⟨⟨s, rfl⟩, by simp [hidle]⟩
  refine ⟨lawful_of_mem calls hready, countP_opens_le calls hready, ?_⟩
  rw [inTransaction_lastOf calls hready, hidle]
  simp

end SqlGateway
