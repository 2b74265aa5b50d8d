import SqlGateway.Proofs.Session.Lifecycle

/-!
# Transactions of a session and of its server

A server beside the drivers of a session.  A statement that succeeds there may
open its transaction or close it; one that fails changes nothing.  The flag of
the session follows the server until a rollback fails: what is open then is
stranded, out of reach of the session, and a next begin is sent into it.

    open on the server   iff   open for the session, or stranded
-/

namespace SqlGateway

variable {σ α : Type}

/-! ## Algorithm -/

/-- The transaction of a server, beside the world that its drivers act on. -/
structure Served (σ : Type) where
  world : σ
  inTransaction : Bool := false
  /-- What reached the server, the oldest first, and whether a transaction was open then. -/
  log : List (String × Bool) := []

/-- Whether a transaction is open after a statement, if the statement is about that. -/
abbrev Boundary : Type := String → Option Bool

namespace Served

variable (effect : Boundary)

/-- The server after a statement; `world` is what its driver makes of the world. -/
def taking (sql : String) (succeeded : Bool) (world : σ) (s : Served σ) : Served σ where
  world := world
  inTransaction := if succeeded then (effect sql).getD s.inTransaction else s.inTransaction
  log := s.log ++ [(sql, s.inTransaction)]

/-- An action on the world that has the server take a statement. -/
def sent (sql : String) (act : Native σ α) : Native (Served σ) α := do
  let s ← get
  let (result, world) := act.run s.world
  set (s.taking effect sql result.isOk world)
  MonadExcept.ofExcept result

end Served

def Connection.served (effect : Boundary) (c : Connection σ) : Connection (Served σ) where
  execute sql := Served.sent effect sql (c.execute sql)
  query sql := Served.sent effect sql (c.query sql)
  batch sql := Served.sent effect sql (c.batch sql)

def Connector.served (effect : Boundary) (k : Connector σ) : Connector (Served σ) := fun config => do
  let s ← get
  let (result, world) := (k config).run s.world
  set { s with world }
  return (← MonadExcept.ofExcept result).served effect

/-- A call with a statement that does on the server what the call is for. -/
inductive TransactionCall (effect : Boundary) where
  | begin (sql : String) (h : effect sql = some true)
  | commit (sql : String) (h : effect sql = some false)
  | rollback (sql : String) (h : effect sql = some false)

namespace TransactionCall

variable {effect : Boundary}

def toCall : TransactionCall effect → SessionCall
  | .begin sql _ => .begin sql
  | .commit sql _ => .commit sql
  | .rollback sql _ => .rollback sql

def sql : TransactionCall effect → String
  | .begin sql _ | .commit sql _ | .rollback sql _ => sql

def isBegin : TransactionCall effect → Bool
  | .begin .. => true
  | _ => false

def isRollback : TransactionCall effect → Bool
  | .rollback .. => true
  | _ => false

end TransactionCall

/-- One call, with the session and the server before and after it. -/
structure TransactionVisit (σ : Type) (effect : Boundary) where
  call : TransactionCall effect
  before : Channel (Served σ)
  result : Except SqlError Unit
  after : Channel (Served σ)

namespace TransactionVisit

variable {effect : Boundary}

def of (call : TransactionCall effect) (c : Channel (Served σ)) : TransactionVisit σ effect :=
  ⟨call, c, (call.toCall.perform.run c).1, (call.toCall.perform.run c).2⟩

def begins (v : TransactionVisit σ effect) : Bool :=
  v.call.isBegin && v.result.isOk

/-- A rollback fails that is no misuse. -/
def strands (v : TransactionVisit σ effect) : Bool :=
  v.call.isRollback && v.before.session.inTransaction && !v.result.isOk

end TransactionVisit

section

variable {effect : Boundary}

/-- The calls one after the other. -/
def transactions : List (TransactionCall effect) → Channel (Served σ) →
    List (TransactionVisit σ effect)
  | [], _ => []
  | call :: calls, c => .of call c :: transactions calls (TransactionVisit.of call c).after

/-- Where the calls lead to. -/
def transacted : List (TransactionCall effect) → Channel (Served σ) → Channel (Served σ)
  | [], c => c
  | call :: calls, c => transacted calls (TransactionVisit.of call c).after

/-- A rollback failed, and no begin has succeeded since. -/
def Stranded (vs : List (TransactionVisit σ effect)) : Prop :=
  ∃ pre v post, vs = pre ++ v :: post ∧ v.strands = true ∧ ∀ u ∈ post, u.begins = false

end

/-! ## One statement -/

namespace Served

theorem run_sent (effect : Boundary) (sql : String) (act : Native σ α) (s : Served σ) :
    (sent effect sql act).run s = match act.run s.world with
      | (result, w) => (result, s.taking effect sql result.isOk w) := by
  unfold sent
  rw [run_bind_ok (run_get s)]
  rcases act.run s.world with ⟨res, w⟩
  cases res <;> rfl

end Served

theorem Connector.run_served {effect : Boundary} (k : Connector σ) (config : InstanceConfig)
    (s : Served σ) :
    (Connector.served effect k config).run s = match (k config).run s.world with
      | (.ok c, w) => (.ok (c.served effect), { s with world := w })
      | (.error f, w) => (.error f, { s with world := w }) := by
  unfold Connector.served
  rw [run_bind_ok (run_get s)]
  rcases (k config).run s.world with ⟨res, w⟩
  cases res <;> rfl

namespace Session

variable {effect : Boundary} {s : Session (Served σ)} {w : Served σ} {sql : String}

/-- The server takes all that the session sends. -/
structure Follows (effect : Boundary) (s : Session (Served σ)) : Prop where
  connector : ∃ k, s.connector = Connector.served effect k
  connection : ∀ c, s.connection = some c → ∃ c', c = Connection.served effect c'

/-- What becomes of one statement. -/
inductive Tried (effect : Boundary) (s : Session (Served σ)) (w : Served σ) (sql : String) :
    Except SqlError Unit × Channel (Served σ) → Prop where
  | refused (e : SqlError) (world : σ) (h : s.connection = none) :
      Tried effect s w sql (.error e, ⟨s, { w with world }⟩)
  | taken (c : Connection σ) (result : Except SqlError Unit) (world : σ) :
      Tried effect s w sql
        (result, ⟨s.on (c.served effect), w.taking effect sql result.isOk world⟩)

theorem Follows.reaches (h : s.Follows effect) {c : Connection (Served σ)} {w' : Served σ}
    (hc : s.Reaches w c w') :
    ∃ c' world, c = Connection.served effect c' ∧ w' = { w with world } := by
  cases hc with
  | already hs =>
    obtain ⟨c', rfl⟩ := h.connection c hs
    exact ⟨c', w.world, rfl, rfl⟩
  | opened _ hs hrun =>
    obtain ⟨k, hk⟩ := h.connector
    rw [hk, Connector.run_served] at hrun
    generalize (k s.config).run w.world = res at hrun
    obtain ⟨result, world⟩ := res
    cases result with
    | error f => cases hrun
    | ok c' =>
      cases hrun
      exact ⟨c', world, rfl, rfl⟩

theorem Follows.refuses (h : s.Follows effect) {f : DriverFailure} {w' : Served σ}
    (hf : s.Refuses w f w') : ∃ world, w' = { w with world } := by
  obtain ⟨k, hk⟩ := h.connector
  have hrun := hf.failure
  rw [hk, Connector.run_served] at hrun
  generalize (k s.config).run w.world = res at hrun
  obtain ⟨result, world⟩ := res
  cases result with
  | ok c => cases hrun
  | error g =>
    cases hrun
    exact ⟨world, rfl⟩

theorem Tried.inTransaction_eq {res : Except SqlError Unit × Channel (Served σ)}
    (h : Tried effect s w sql res) : res.2.session.inTransaction = s.inTransaction := by
  cases h <;> rfl

theorem tried_batch (h : s.Follows effect) (w : Served σ) (sql : String) :
    Tried effect s w sql ((batch sql).run ⟨s, w⟩) := by
  unfold batch
  rcases native_cases s w sql (·.batch sql) with ⟨f, w', hf, hrun⟩ | ⟨c, w', hc, hrun⟩
  · obtain ⟨world, rfl⟩ := h.refuses hf
    rw [hrun]
    exact .refused _ world hf.unconnected
  · obtain ⟨c', world, rfl, rfl⟩ := h.reaches hc
    have hsent := Served.run_sent effect sql (c'.batch sql) { w with world }
    rw [hrun, show (c'.served effect).batch sql = Served.sent effect sql (c'.batch sql) from rfl,
      hsent]
    rcases (c'.batch sql).run world with ⟨result, world'⟩
    cases result with
    | ok u => exact .taken c' (.ok u) world'
    | error f => exact .taken c' (.error (.ofFailure f sql)) world'

end Session

/-! ## One call -/

namespace TransactionCall

variable {effect : Boundary} {s : Session (Served σ)} {w : Served σ}

/-- Everything that a call can come to. -/
inductive Outcome (s : Session (Served σ)) (w : Served σ) (call : TransactionCall effect) :
    Except SqlError Unit × Channel (Served σ) → Prop where
  | misused (cause : BuildError) (h : call.toCall.misuse? s = some cause) :
      Outcome s w call (.error (.queryBuild cause), ⟨s, w⟩)
  | refused (e : SqlError) (world : σ) (h : call.toCall.misuse? s = none)
      (hnone : s.connection = none) :
      Outcome s w call
        (.error e, ⟨{ s with inTransaction := call.toCall.flagAfter s.inTransaction false },
          { w with world }⟩)
  | taken (c : Connection σ) (result : Except SqlError Unit) (world : σ)
      (h : call.toCall.misuse? s = none) :
      Outcome s w call
        (result, ⟨{ s.on (c.served effect) with
            inTransaction := call.toCall.flagAfter s.inTransaction result.isOk },
          w.taking effect call.sql result.isOk world⟩)

/-- The call comes to what its statement does, with the flag that belongs to the result. -/
theorem Outcome.of_tried {call : TransactionCall effect} (h : call.toCall.misuse? s = none)
    {res : Except SqlError Unit × Channel (Served σ)} (hres : s.Tried effect w call.sql res) :
    Outcome s w call (res.1, ⟨{ res.2.session with
      inTransaction := call.toCall.flagAfter s.inTransaction res.1.isOk }, res.2.world⟩) := by
  cases hres with
  | refused e world hnone => exact .refused e world h hnone
  | taken c result world => exact .taken c result world h

/-- A call that leaves the flag as it is comes to just what its statement does. -/
theorem Outcome.of_tried_keeping {call : TransactionCall effect}
    (h : call.toCall.misuse? s = none) {res : Except SqlError Unit × Channel (Served σ)}
    (hres : s.Tried effect w call.sql res)
    (hkeep : call.toCall.flagAfter s.inTransaction res.1.isOk = s.inTransaction) :
    Outcome s w call res := by
  have hout := Outcome.of_tried h hres
  rw [hkeep, ← hres.inTransaction_eq] at hout
  exact hout

/-- A misuse is a second begin or the end of nothing. -/
theorem inTransaction_of_misuse {call : TransactionCall effect} {cause : BuildError}
    (h : call.toCall.misuse? s = some cause) : s.inTransaction = call.isBegin := by
  cases hs : s.inTransaction with
  | false =>
    cases call with
    | begin => simp [toCall, SessionCall.misuse?, hs] at h
    | commit | rollback => rfl
  | true =>
    cases call with
    | begin => rfl
    | commit | rollback => simp [toCall, SessionCall.misuse?, hs] at h

theorem inTransaction_of_proper {call : TransactionCall effect}
    (h : call.toCall.misuse? s = none) : s.inTransaction = !call.isBegin := by
  cases hs : s.inTransaction with
  | false =>
    cases call with
    | begin => rfl
    | commit | rollback => simp [toCall, SessionCall.misuse?, hs] at h
  | true =>
    cases call with
    | begin => simp [toCall, SessionCall.misuse?, hs] at h
    | commit | rollback => rfl

/-- The flag after a call that is no misuse: only a failed rollback changes it without success. -/
theorem flagAfter_proper (call : TransactionCall effect) (succeeded : Bool) :
    call.toCall.flagAfter (!call.isBegin) succeeded =
      if succeeded then call.isBegin else !call.isBegin && !call.isRollback := by
  cases call <;> cases succeeded <;> rfl

/-- The server after a statement of the call. -/
theorem inTransaction_taking (call : TransactionCall effect) (succeeded : Bool) (world : σ)
    (w : Served σ) : (w.taking effect call.sql succeeded world).inTransaction =
      if succeeded then call.isBegin else w.inTransaction := by
  cases succeeded with
  | false => rfl
  | true =>
    cases call with
    | begin sql h | commit sql h | rollback sql h =>
      show (effect sql).getD w.inTransaction = _
      rw [h]
      rfl

theorem outcome_begin (h : s.Follows effect) (w : Served σ) (sql : String)
    (hsql : effect sql = some true) :
    Outcome s w (.begin sql hsql) ((Session.begin sql).run ⟨s, w⟩) := by
  rw [Session.run_begin]
  by_cases hflag : s.inTransaction
  · rw [if_pos hflag]
    exact .misused _ (if_pos hflag)
  · rw [if_neg hflag]
    have hnone : (TransactionCall.begin sql hsql).toCall.misuse? s = none := if_neg hflag
    have htried := Session.tried_batch h w sql
    rcases hb : (Session.batch sql).run ⟨s, w⟩ with ⟨result, c⟩
    rw [hb] at htried
    cases result with
    | ok u =>
      have hout := Outcome.of_tried hnone htried
      have htrue : (SessionCall.begin sql).flagAfter s.inTransaction true = true := Bool.or_true _
      rw [← htrue]
      exact hout
    | error e => exact .of_tried_keeping hnone htried (Bool.or_false _)

theorem outcome_commit (h : s.Follows effect) (w : Served σ) (sql : String)
    (hsql : effect sql = some false) :
    Outcome s w (.commit sql hsql) ((Session.commit sql).run ⟨s, w⟩) := by
  rw [Session.run_commit]
  by_cases hflag : s.inTransaction
  · rw [if_pos hflag]
    have hnone : (TransactionCall.commit sql hsql).toCall.misuse? s = none := if_pos hflag
    have htried := Session.tried_batch h w sql
    rcases hb : (Session.batch sql).run ⟨s, w⟩ with ⟨result, c⟩
    rw [hb] at htried
    cases result with
    | ok u =>
      have hout := Outcome.of_tried hnone htried
      have hfalse : (SessionCall.commit sql).flagAfter s.inTransaction true = false :=
        Bool.and_false _
      rw [← hfalse]
      exact hout
    | error e => exact .of_tried_keeping hnone htried (Bool.and_true _)
  · rw [if_neg hflag]
    exact .misused _ (if_neg hflag)

/-- The statement of a rollback runs on the session without the flag. -/
theorem outcome_rollback (h : s.Follows effect) (w : Served σ) (sql : String)
    (hsql : effect sql = some false) :
    Outcome s w (.rollback sql hsql) ((Session.rollback sql).run ⟨s, w⟩) := by
  rw [Session.run_rollback]
  by_cases hflag : s.inTransaction
  · rw [if_pos hflag]
    have hnone : (TransactionCall.rollback sql hsql).toCall.misuse? s = none := if_pos hflag
    have hfollows : Session.Follows effect { s with inTransaction := false } :=
      ⟨h.connector, h.connection⟩
    have htried := Session.tried_batch hfollows w sql
    generalize (Session.batch sql).run ⟨{ s with inTransaction := false }, w⟩ = res at htried
    cases htried with
    | refused e world hclosed => exact .refused e world hnone hclosed
    | taken c result world => exact .taken c result world hnone
  · rw [if_neg hflag]
    exact .misused _ (if_neg hflag)

theorem outcome_perform (h : s.Follows effect) (w : Served σ) (call : TransactionCall effect) :
    Outcome s w call (call.toCall.perform.run ⟨s, w⟩) := by
  cases call with
  | begin sql hsql => exact outcome_begin h w sql hsql
  | commit sql hsql => exact outcome_commit h w sql hsql
  | rollback sql hsql => exact outcome_rollback h w sql hsql

end TransactionCall

/-! ## Calls one after the other -/

theorem stranded_cons {effect : Boundary} (v : TransactionVisit σ effect)
    (vs : List (TransactionVisit σ effect)) :
    Stranded (v :: vs) ↔ (v.strands = true ∧ ∀ u ∈ vs, u.begins = false) ∨ Stranded vs :=
  exists_split_cons v vs

/-- A session that its server follows, and that has a transaction open only if the server has. -/
structure Sound (effect : Boundary) (c : Channel (Served σ)) : Prop where
  follows : c.session.Follows effect
  connected : c.session.connection = none → c.world.inTransaction = false
  served : c.session.inTransaction = true → c.world.inTransaction = true

/-- A transaction is open on the server and not for the session. -/
def OpenBeyond (c : Channel (Served σ)) : Prop :=
  c.world.inTransaction = true ∧ c.session.inTransaction = false

namespace Sound

variable {effect : Boundary} {c : Channel (Served σ)}

theorem step (h : Sound effect c) (call : TransactionCall effect) :
    Sound effect (TransactionVisit.of call c).after ∧
      (OpenBeyond (TransactionVisit.of call c).after ↔
        (TransactionVisit.of call c).strands = true ∨
          (OpenBeyond c ∧ (TransactionVisit.of call c).begins = false)) := by
  obtain ⟨s, w⟩ := c
  obtain ⟨hfollows, hconnected, hserved⟩ := h
  have hout := TransactionCall.outcome_perform hfollows w call
  unfold TransactionVisit.of TransactionVisit.strands TransactionVisit.begins OpenBeyond
  generalize call.toCall.perform.run ⟨s, w⟩ = res at hout
  cases hout with
  | misused cause hmisuse =>
    have hflag := TransactionCall.inTransaction_of_misuse hmisuse
    refine ⟨⟨hfollows, hconnected, hserved⟩, ?_⟩
    cases call <;> simp_all [TransactionCall.isBegin, TransactionCall.isRollback, Except.isOk,
      Except.toBool]
  | refused e world hmisuse hnone =>
    have hclosed : w.inTransaction = false := hconnected hnone
    have hflag : s.inTransaction = false := by
      rw [← Bool.not_eq_true]
      intro hs
      cases hclosed.symm.trans (hserved hs)
    rw [hflag, SessionCall.flagAfter_idle]
    refine ⟨⟨⟨hfollows.connector, hfollows.connection⟩, fun _ => hclosed, nofun⟩, ?_⟩
    simp [hclosed]
  | taken c' result world hmisuse =>
    have hflag := TransactionCall.inTransaction_of_proper hmisuse
    have hserver := TransactionCall.inTransaction_taking call result.isOk world w
    have hafter := TransactionCall.flagAfter_proper call result.isOk
    rw [hflag] at hserved
    constructor
    · refine ⟨⟨hfollows.connector, ?_⟩, nofun, ?_⟩
      · intro c hc
        cases hc
        exact ⟨c', rfl⟩
      · dsimp only
        rw [hserver, hflag, hafter]
        cases result.isOk <;> simp_all
    · dsimp only
      rw [hserver, hflag, hafter]
      -- what failed was a rollback of a transaction that is open on the server too
      cases result.isOk <;> cases hb : call.isBegin <;> simp_all

theorem openBeyond_transacted (h : Sound effect c) (calls : List (TransactionCall effect)) :
    Sound effect (transacted calls c) ∧
      (OpenBeyond (transacted calls c) ↔
        (OpenBeyond c ∧ ∀ v ∈ transactions calls c, v.begins = false) ∨
          Stranded (transactions calls c)) := by
  induction calls generalizing c with
  | nil => simpa [transacted, transactions, Stranded] using h
  | cons call calls ih =>
    obtain ⟨hafter, hbeyond⟩ := h.step call
    obtain ⟨hlast, hrest⟩ := ih hafter
    refine ⟨hlast, hrest.trans ?_⟩
    rw [transactions, hbeyond, stranded_cons, List.forall_mem_cons]
    constructor
    · rintro (⟨hstrands | ⟨hc, hbegins⟩, hkept⟩ | hstranded)
      · exact .inr (.inl ⟨hstrands, hkept⟩)
      · exact .inl ⟨hc, hbegins, hkept⟩
      · exact .inr (.inr hstranded)
    · rintro (⟨hc, hbegins, hkept⟩ | ⟨hstrands, hkept⟩ | hstranded)
      · exact .inl ⟨.inr ⟨hc, hbegins⟩, hkept⟩
      · exact .inl ⟨.inl hstrands, hkept⟩
      · exact .inr hstranded

end Sound

/-! ## One call after any others -/

/-- How a call finds the transaction that the calls before it have left. -/
structure TransactionVisit.Placed {effect : Boundary} (pre : List (TransactionVisit σ effect))
    (v : TransactionVisit σ effect) : Prop where
  agrees : v.before.session.inTransaction = v.before.world.inTransaction ↔ ¬ Stranded pre
  open_iff : v.before.world.inTransaction = true ↔
    v.before.session.inTransaction = true ∨ Stranded pre
  /-- A begin is sent into an open transaction when one is stranded, and never else. -/
  nests : v.call.isBegin = true →
    (v.after.world.log = v.before.world.log ++ [(v.call.sql, true)] ↔ Stranded pre)
  /-- What is open and not stranded can be committed or rolled back. -/
  reaches : v.call.isBegin = false → v.before.world.inTransaction = true → ¬ Stranded pre →
    v.after.world.log = v.before.world.log ++ [(v.call.sql, true)]
  misused : v.call.isBegin = false → Stranded pre →
    v.result = .error (.queryBuild (.noTransaction v.before.session.name)) ∧ v.after = v.before

namespace Sound

variable {effect : Boundary} {s : Session (Served σ)} {w : Served σ}

theorem log_begin (h : Sound effect ⟨s, w⟩) (call : TransactionCall effect)
    (hcall : call.isBegin = true) :
    (TransactionVisit.of call ⟨s, w⟩).after.world.log = w.log ++ [(call.sql, true)] ↔
      OpenBeyond ⟨s, w⟩ := by
  have hout := TransactionCall.outcome_perform h.follows w call
  unfold TransactionVisit.of OpenBeyond
  dsimp only at hout ⊢
  generalize call.toCall.perform.run ⟨s, w⟩ = res at hout
  cases hout with
  | misused cause hmisuse =>
    have hflag := TransactionCall.inTransaction_of_misuse hmisuse
    simp [hflag, hcall]
  | refused e world hmisuse hnone =>
    have hclosed := h.connected hnone
    simp_all
  | taken c result world hmisuse =>
    have hflag := TransactionCall.inTransaction_of_proper hmisuse
    simp [Served.taking, hflag, hcall]

theorem log_end (h : Sound effect ⟨s, w⟩) (call : TransactionCall effect)
    (hcall : call.isBegin = false) (hopen : w.inTransaction = true)
    (hin : s.inTransaction = true) :
    (TransactionVisit.of call ⟨s, w⟩).after.world.log = w.log ++ [(call.sql, true)] := by
  have hout := TransactionCall.outcome_perform h.follows w call
  unfold TransactionVisit.of
  dsimp only at hout ⊢
  generalize call.toCall.perform.run ⟨s, w⟩ = res at hout
  cases hout with
  | misused cause hmisuse =>
    have hflag := TransactionCall.inTransaction_of_misuse hmisuse
    simp_all
  | refused e world hmisuse hnone =>
    have hclosed := h.connected hnone
    simp_all
  | taken c result world hmisuse =>
    show w.log ++ [(call.sql, w.inTransaction)] = _
    rw [hopen]

theorem misused_end (h : Sound effect ⟨s, w⟩) (call : TransactionCall effect)
    (hcall : call.isBegin = false) (hout : s.inTransaction = false) :
    (TransactionVisit.of call ⟨s, w⟩).result = .error (.queryBuild (.noTransaction s.name)) ∧
      (TransactionVisit.of call ⟨s, w⟩).after = ⟨s, w⟩ := by
  have hmisuse : call.toCall.misuse? s = some (.noTransaction s.name) := by
    cases call with
    | begin => cases hcall
    | commit | rollback => simp [TransactionCall.toCall, SessionCall.misuse?, hout]
  have houtcome := TransactionCall.outcome_perform h.follows w call
  unfold TransactionVisit.of
  dsimp only at houtcome ⊢
  generalize call.toCall.perform.run ⟨s, w⟩ = res at houtcome
  cases houtcome with
  | misused cause h' =>
    cases hmisuse.symm.trans h'
    exact ⟨rfl, rfl⟩
  | refused e world h' => cases hmisuse.symm.trans h'
  | taken c result world h' => cases hmisuse.symm.trans h'

theorem placed (h : Sound effect ⟨s, w⟩) {pre : List (TransactionVisit σ effect)}
    (hpre : OpenBeyond ⟨s, w⟩ ↔ Stranded pre) (call : TransactionCall effect) :
    (TransactionVisit.of call ⟨s, w⟩).Placed pre := by
  have hserved : s.inTransaction = true → w.inTransaction = true := h.served
  have hbeyond : OpenBeyond ⟨s, w⟩ ↔ w.inTransaction = true ∧ s.inTransaction = false := Iff.rfl
  constructor
  · rw [← hpre, hbeyond]
    show s.inTransaction = w.inTransaction ↔ _
    cases hs : s.inTransaction with
    | false => cases w.inTransaction <;> simp
    | true => simp [hserved hs]
  · rw [← hpre, hbeyond]
    show w.inTransaction = true ↔ s.inTransaction = true ∨ _
    cases hs : s.inTransaction with
    | false => simp
    | true => simp [hserved hs]
  · intro hcall
    exact (h.log_begin call hcall).trans hpre
  · intro hcall hopen hstranded
    have hin : s.inTransaction = true := by
      rw [← Bool.not_eq_false]
      intro hs
      exact hstranded (hpre.1 ⟨hopen, hs⟩)
    exact h.log_end call hcall hopen hin
  · intro hcall hstranded
    exact h.misused_end call hcall (hpre.2 hstranded).2

end Sound

theorem transactions_concat {effect : Boundary} (calls : List (TransactionCall effect))
    (call : TransactionCall effect) (c : Channel (Served σ)) :
    transactions (calls ++ [call]) c = transactions calls c ++ [.of call (transacted calls c)] := by
  induction calls generalizing c with
  | nil => rfl
  | cons first calls ih => exact congrArg (_ :: ·) (ih _)

/-- **A session and its server.**  Whatever fails, the server has a transaction open just when the
session has or a rollback failed and no begin has succeeded since. -/
theorem transactions_placed {effect : Boundary} (name : String) (config : InstanceConfig)
    (connector : Connector σ) (idField : String) (w : σ) (calls : List (TransactionCall effect))
    (call : TransactionCall effect) :
    let s : Session (Served σ) :=
      { name, config, connector := Connector.served effect connector, idField }
    let start : Channel (Served σ) := ⟨s, { world := w }⟩
    let v := TransactionVisit.of call (transacted calls start)
    transactions (calls ++ [call]) start = transactions calls start ++ [v] ∧
      v.Placed (transactions calls start) := by
  intro s start v
  have hsound : Sound effect start := by
    refine ⟨⟨⟨connector, rfl⟩, ?_⟩, fun _ => rfl, ?_⟩
    · intro c hc
      cases hc
    · intro hs
      cases hs
  obtain ⟨hlast, hbeyond⟩ := hsound.openBeyond_transacted calls
  refine ⟨transactions_concat calls call start, hlast.placed ?_ call⟩
  rw [hbeyond]
  simp [OpenBeyond, start]

example (f : DriverFailure) :
    let c : Connection Unit :=
      { execute := fun _ => throw f, query := fun _ => throw f,
        batch := fun sql => if sql = "ROLLBACK" then throw f else pure () }
    let effect : Boundary := fun sql => some (sql == "BEGIN")
    let calls : List (TransactionCall effect) :=
      [.begin "BEGIN" rfl, .rollback "ROLLBACK" rfl, .begin "BEGIN" rfl]
    let s : Session (Served Unit) :=
      { name := "default", config := {}, connector := Connector.served effect fun _ => pure c }
    (transacted calls ⟨s, { world := () }⟩).world.log
      = [("BEGIN", false), ("ROLLBACK", true), ("BEGIN", true)] := by
  rfl

end SqlGateway
