import SqlGateway.Proofs.Category
import SqlGateway.Proofs.Session.Operation
import SqlGateway.Proofs.Session.Sent

/-!
# What an operation comes to

An operation that cannot build its text fails for that and touches nothing.
One that is after the text alone touches nothing either.  Any other sends its
text once, unless it is refused a connection, and a failure names what was being
done: the connecting, or the text that was sent.  A failure that has no category
is not reported: the operation panics over it.

    exactly one of   text, answered, unbuilt, refused, failed, panicked
-/

namespace SqlGateway

variable {σ ε : Type}

inductive Verdict where
  | text
  | answered
  | unbuilt
  | refused
  | failed
  | panicked
  deriving DecidableEq, Repr

/-- The driver fails with `f` in the course of sending `sql`. -/
inductive Session.Meets (s : Session σ) (r : Recorded σ) (sql : String) (f : DriverFailure) : Prop
  where
  | connecting (w : σ) (hf : s.Refuses r.world f w)
  | sending (c : Connection σ) (r₁ : Recorded σ) (hc : s.Attains r c r₁)
      (hf : c.Reports r₁.world sql f)

/-- What became of an operation with this text on the session `s`, on record from `r` on. -/
inductive Comes (s : Session σ) (r : Recorded σ) (text : Except BuildError String) :
    Verdict → Except SqlError Answer × Channel (Recorded σ) → Prop where
  /-- The text itself; nothing was sent and nobody connected to. -/
  | text (sql : String) (a : Answer) (ht : text = .ok sql) (ha : a.text? = some sql) :
      Comes s r text .text (.ok a, ⟨s.recorded, r⟩)
  | answered (sql : String) (c : Connection σ) (r₁ : Recorded σ) (w : σ) (a : Answer)
      (ht : text = .ok sql) (hc : s.Attains r c r₁) (ha : a.text? = none) :
      Comes s r text .answered (.ok a, ⟨(s.on c).recorded, { r₁.sending sql with world := w }⟩)
  /-- There is no text, and nothing has changed. -/
  | unbuilt (cause : BuildError) (ht : text = .error cause) (hc : cause.isOfText = true) :
      Comes s r text .unbuilt (.error (.queryBuild cause), ⟨s.recorded, r⟩)
  /-- No connection: nothing was sent, and the session has none still. -/
  | refused (sql : String) (f : DriverFailure) (w : σ) (category : Category)
      (ht : text = .ok sql) (hf : s.Refuses r.world f w) (hk : f.category? = some category) :
      Comes s r text .refused
        (.error (.driverExecution f.text (Session.connectAction s.name) (some category) f.source),
          ⟨s.recorded, { r.connecting with world := w }⟩)
  /-- The statement is the one more that was sent, and the driver failed at it. -/
  | failed (sql : String) (c : Connection σ) (r₁ : Recorded σ) (w : σ) (f : DriverFailure)
      (category : Category) (ht : text = .ok sql) (hc : s.Attains r c r₁)
      (hf : c.Reports r₁.world sql f) (hk : f.category? = some category) :
      Comes s r text .failed
        (.error (.driverExecution f.text sql (some category) f.source),
          ⟨(s.on c).recorded, { r₁.sending sql with world := w }⟩)
  | panicked (sql action : String) (f : DriverFailure) (c : Channel (Recorded σ))
      (ht : text = .ok sql) (hf : s.Meets r sql f) (hu : f.Unclassifiable) :
      Comes s r text .panicked (.error (.driverExecution f.text action none f.source), c)

/-! ## Algorithm -/

/-- The verdict on a result, for a record with so many statements before. -/
def Verdict.of (sent : Nat) : Except SqlError Answer × Channel (Recorded σ) → Verdict
  | (.ok a, _) => if a.text?.isSome then .text else .answered
  | (.error (.driverExecution _ _ none _), _) => .panicked
  | (.error (.driverExecution _ _ (some _) _), c) =>
    if c.world.statements.length = sent then .refused else .failed
  | (.error _, _) => .unbuilt

/-! ## Lemmas -/

section

variable {s : Session σ} {r : Recorded σ} {text : Except BuildError String}

theorem Comes.verdict_eq {v : Verdict} {res : Except SqlError Answer × Channel (Recorded σ)}
    (h : Comes s r text v res) : v = .of r.statements.length res := by
  cases h with
  | text sql a ht ha =>
    unfold Verdict.of
    simp [ha]
  | answered sql c r₁ w a ht hc ha =>
    unfold Verdict.of
    simp [ha]
  | unbuilt cause ht hc => rfl
  | refused sql f w category ht hf hk =>
    show _ = ite (r.statements.length = r.statements.length) _ _
    rw [if_pos rfl]
  | failed sql c r₁ w f category ht hc hf hk =>
    show _ = ite ((r₁.statements ++ [sql]).length = r.statements.length) _ _
    have hlen : (r₁.statements ++ [sql]).length = r.statements.length + 1 := by
      rw [hc.statements, List.length_append]
      rfl
    rw [if_neg (by omega)]
  | panicked sql action f c ht hf hu => rfl

/-- A failure that sending came to, with the category that it has or has not. -/
theorem Session.Sent.comes {sql : String} {res : Except SqlError Answer × Channel (Recorded σ)}
    (h : s.Sent r sql (fun a => a.text? = none) res) (ht : text = .ok sql) :
    ∃ v, Comes s r text v res := by
  cases h with
  | answered c r₁ w a hc ha => exact ⟨.answered, .answered sql c r₁ w a ht hc ha⟩
  | refused f w hf =>
    unfold SqlError.ofFailure
    cases hk : f.category? with
    | some category => exact ⟨.refused, .refused sql f w category ht hf hk⟩
    | none =>
      have hu := f.category?_eq_none_iff.1 hk
      exact ⟨.panicked, .panicked sql _ f _ ht (.connecting w hf) hu⟩
  | failed c r₁ w f hc hf =>
    unfold SqlError.ofFailure
    cases hk : f.category? with
    | some category => exact ⟨.failed, .failed sql c r₁ w f category ht hc hf hk⟩
    | none =>
      have hu := f.category?_eq_none_iff.1 hk
      exact ⟨.panicked, .panicked sql _ f _ ht (.sending c r₁ hc hf) hu⟩

end

namespace Dialect

/-- A text that is not sent is what comes back, and one that is sent is not. -/
theorem run_sendCommand (sql : String) (mode : Option OutputMode) (s : Session σ)
    (r : Recorded σ) :
    (sendCommand sql mode : SessionM (Recorded σ) Output).run ⟨s.recorded, r⟩
      = (.ok (.sqlText sql), ⟨s.recorded, r⟩) ∨
    s.Sent r sql (fun out => out.product ≠ .sqlText)
      ((sendCommand sql mode : SessionM (Recorded σ) Output).run ⟨s.recorded, r⟩) := by
  unfold sendCommand
  by_cases hmode : mode = some .sqlText
  · left
    rw [if_pos hmode]
    rfl
  · right
    rw [if_neg hmode]
    exact (Session.sent_execute s r sql).map Output.affected fun n _ => by simp [Output.product]

theorem run_sendSelect (sql : String) (mode : OutputMode) (s : Session σ) (r : Recorded σ) :
    (sendSelect sql mode : SessionM (Recorded σ) Output).run ⟨s.recorded, r⟩
      = (.ok (.sqlText sql), ⟨s.recorded, r⟩) ∨
    s.Sent r sql (fun out => out.product ≠ .sqlText)
      ((sendSelect sql mode : SessionM (Recorded σ) Output).run ⟨s.recorded, r⟩) := by
  cases mode with
  | sqlText =>
    left
    rfl
  | statement =>
    right
    exact (Session.sent_statement s r sql).map Output.statement fun _ _ => by simp [Output.product]
  | firstRow | object =>
    right
    exact (Session.sent_firstRow s r sql).map Output.row fun _ _ => by simp [Output.product]
  | rows =>
    right
    exact (Session.sent_rows s r sql).map Output.rows fun _ _ => by simp [Output.product]
  | objects =>
    right
    exact (Session.sent_rows s r sql).map (fun rows => Output.objects (rows.map Row.toJson))
      fun _ _ => by simp [Output.product]

theorem run_send (kind : QueryKind) (sql : String) (o : QueryOptions) (s : Session σ)
    (r : Recorded σ) :
    (send kind sql o : SessionM (Recorded σ) Output).run ⟨s.recorded, r⟩
      = (.ok (.sqlText sql), ⟨s.recorded, r⟩) ∨
    s.Sent r sql (fun out => out.product ≠ .sqlText)
      ((send kind sql o : SessionM (Recorded σ) Output).run ⟨s.recorded, r⟩) := by
  cases kind with
  | select => exact run_sendSelect sql _ s r
  | update | insert | delete => exact run_sendCommand sql _ s r

end Dialect

namespace Operation

variable {s : Session σ} {r : Recorded σ} {text : Except BuildError String}

theorem comes_of_output {act : SessionM (Recorded σ) Output} {sql : String}
    (ht : text = .ok sql)
    (h : act.run ⟨s.recorded, r⟩ = (.ok (.sqlText sql), ⟨s.recorded, r⟩) ∨
      s.Sent r sql (fun out => out.product ≠ .sqlText) (act.run ⟨s.recorded, r⟩)) :
    ∃ v, Comes s r text v
      ((do return .output (← act) : SessionM (Recorded σ) Answer).run ⟨s.recorded, r⟩) := by
  rcases h with h | h
  · rw [run_bind_ok h]
    exact ⟨.text, .text sql (.output (.sqlText sql)) ht rfl⟩
  · refine (h.map Answer.output fun out hout => ?_).comes ht
    cases out with
    | sqlText sql => exact absurd rfl hout
    | rows items => rfl
    | row item => rfl
    | objects items => rfl
    | statement st => rfl
    | affected n => rfl

theorem comes_of_send (op : Operation ε) {sql : String} (ht : text = .ok sql) :
    ∃ v, Comes s r text v ((op.send sql : SessionM (Recorded σ) Answer).run ⟨s.recorded, r⟩) := by
  cases op with
  | adapter d kind o => exact comes_of_output ht (Dialect.run_send kind sql o s r)
  | selectSql _ | commandSql _ => exact ⟨.text, .text sql (.text sql) ht rfl⟩
  | selectRows _ => exact ((Session.sent_rows s r sql).map Answer.rows fun _ _ => rfl).comes ht
  | selectRow _ => exact ((Session.sent_firstRow s r sql).map Answer.row fun _ _ => rfl).comes ht
  | selectCount _ _ =>
    exact ((Session.sent_rows s r sql).map
      (fun rows => Answer.number (Select.countOfRow rows.head?)) fun _ _ => rfl).comes ht
  | commandExecute _ =>
    exact ((Session.sent_execute s r sql).map Answer.number fun _ _ => rfl).comes ht
  | commandRun c => exact comes_of_output ht (Dialect.run_sendCommand sql c.options.output s r)

/-- **One verdict.**  Whatever the drivers do, an operation comes to exactly one of these. -/
theorem run_comes (op : Operation ε) (s : Session σ) (r : Recorded σ) :
    ∃ v, Comes s r (op.text s.idField) v
        ((op.run : SessionM (Recorded σ) Answer).run ⟨s.recorded, r⟩) ∧
      ∀ v', Comes s r (op.text s.idField) v'
        ((op.run : SessionM (Recorded σ) Answer).run ⟨s.recorded, r⟩) → v' = v := by
  have hsome : ∃ v, Comes s r (op.text s.idField) v
      ((op.run : SessionM (Recorded σ) Answer).run ⟨s.recorded, r⟩) := by
    rw [run_eq]
    show ∃ v, Comes s r (op.text s.idField) v
      ((built (op.text s.idField) >>= fun sql => op.send sql).run ⟨s.recorded, r⟩)
    rw [run_built_bind]
    cases ht : op.text s.idField with
    | error cause => exact ⟨.unbuilt, .unbuilt cause rfl (op.failsOfText_text s.idField cause ht)⟩
    | ok sql => exact op.comes_of_send rfl
  obtain ⟨v, hv⟩ := hsome
  refine ⟨v, hv, ?_⟩
  intro v' hv'
  rw [hv.verdict_eq, hv'.verdict_eq]

end Operation

end SqlGateway
