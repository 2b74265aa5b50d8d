import SqlGateway.Proofs.Dialect.Causes
import SqlGateway.Proofs.Session.Step
import SqlGateway.Request.Command

/-!
# Operations

The operations of adapters and requests, each as one text and one use of it.
The text is built of the options and conditions alone; only when there is one
does the session come in.

    run op = build (text op), then send op
-/

namespace SqlGateway

variable {σ ε : Type}

/-! ## Algorithm -/

/-- The options that a query of this kind is rendered from. -/
def QueryOptions.laid (kind : QueryKind) (o : QueryOptions) : QueryOptions :=
  let o := o.layeredOver (.defaults kind)
  match kind with
  | .select => if Dialect.isSingle (o.output.getD .rows) then { o with number := some 1 } else o
  | _ => o

namespace Dialect

/-- The text of a query for a caller's options. -/
def text (d : Dialect) (kind : QueryKind) (idField : String) (o : QueryOptions) :
    Except BuildError String :=
  d.render kind idField (o.laid kind)

/-- What a select does with its text. -/
def sendSelect (sql : String) : OutputMode → SessionM σ Output
  | .sqlText => return .sqlText sql
  | .statement => return .statement (← Session.statement sql)
  | .firstRow | .object => return .row (← Session.firstRow sql)
  | .rows => return .rows (← Session.rows sql)
  | .objects => return .objects ((← Session.rows sql).map Row.toJson)

/-- What a query without a result does with its text. -/
def sendCommand (sql : String) (mode : Option OutputMode) : SessionM σ Output := do
  if mode = some .sqlText then return .sqlText sql
  return .affected (← Session.execute sql)

def send (kind : QueryKind) (sql : String) (o : QueryOptions) : SessionM σ Output :=
  match kind with
  | .select => sendSelect sql ((o.layeredOver (.defaults .select)).output.getD .rows)
  | kind => sendCommand sql (o.layeredOver (.defaults kind)).output

end Dialect

/-- The text of a select whose options are changed by `f`. -/
def Select.textWith (s : Select ε) (idField : String) (f : QueryOptions → QueryOptions) :
    Except BuildError String := do
  s.dialect.text .select idField (f (← s.resolved))

/-- The text of a command in another output mode. -/
def Command.textAs (c : Command) (idField : String)
    (mode : Option OutputMode → Option OutputMode) : Except BuildError String := do
  let o ← c.resolved
  c.dialect.text c.kind.queryKind idField { o with output := mode o.output }

inductive Operation (ε : Type) where
  /-- An operation of an adapter: `select`, `update`, `insert` or `delete`. -/
  | adapter (d : Dialect) (kind : QueryKind) (o : QueryOptions)
  | selectSql (s : Select ε)
  | selectRows (s : Select ε)
  | selectRow (s : Select ε)
  | selectCount (s : Select ε) (most : Option Int)
  | commandSql (c : Command)
  | commandExecute (c : Command)
  | commandRun (c : Command)

inductive Answer where
  | output (o : Output)
  | text (sql : String)
  | rows (items : List Row)
  | row (item : Option Row)
  | number (n : Nat)

/-- The text, when a text is what was asked for. -/
def Answer.text? : Answer → Option String
  | .output (.sqlText sql) => some sql
  | .text sql => some sql
  | _ => none

namespace Operation

def run : Operation ε → SessionM σ Answer
  | .adapter d kind o => do return .output (← d.perform kind o)
  | .selectSql s => do return .text (← s.sql)
  | .selectRows s => do return .rows (← s.rows)
  | .selectRow s => do return .row (← s.row)
  | .selectCount s most => do return .number (← s.count most)
  | .commandSql c => do return .text (← c.sql)
  | .commandExecute c => do return .number (← c.execute)
  | .commandRun c => do return .output (← c.run)

/-- The text that is built in a session with this id field. -/
def text (idField : String) : Operation ε → Except BuildError String
  | .adapter d kind o => d.text kind idField o
  | .selectSql s => s.textWith idField fun o => { o with output := some .sqlText }
  | .selectRows s => s.textWith idField fun o => { o with output := some .rows }
  | .selectRow s => s.textWith idField fun o => { o with output := some .firstRow }
  | .selectCount s most => do
    let inner ← s.textWith idField (Select.counted most)
    s.dialect.text .select idField (Select.countOptions inner)
  | .commandSql c => c.textAs idField fun _ => some .sqlText
  | .commandExecute c => c.textAs idField fun _ => none
  | .commandRun c => c.textAs idField id

/-- What is done with the text. -/
def send (sql : String) : Operation ε → SessionM σ Answer
  | .adapter _ kind o => do return .output (← Dialect.send kind sql o)
  | .selectSql _ => return .text sql
  | .selectRows _ => do return .rows (← Session.rows sql)
  | .selectRow _ => do return .row (← Session.firstRow sql)
  | .selectCount .. => do return .number (Select.countOfRow (← Session.rows sql).head?)
  | .commandSql _ => return .text sql
  | .commandExecute _ => do return .number (← Session.execute sql)
  | .commandRun c => do return .output (← Dialect.sendCommand sql c.options.output)

end Operation

/-! ## Lemmas -/

section

variable {α β γ : Type}

theorem run_built_bind (r : Except BuildError α) (f : α → SessionM σ β) (c : Channel σ) :
    (built r >>= f).run c = match r with
      | .ok a => (f a).run c
      | .error cause => (.error (.queryBuild cause), c) := by
  rw [run_bind]
  cases r <;> rfl

theorem run_bind_congr {act act' : SessionM σ α} {c : Channel σ} (h : act.run c = act'.run c)
    (f : α → SessionM σ β) : (act >>= f).run c = (act' >>= f).run c := by
  rw [run_bind, run_bind, h]

theorem built_bind (r : Except BuildError α) (f : α → Except BuildError β) :
    (built (r >>= f) : SessionM σ β) = built r >>= fun a => built (f a) := by
  cases r with
  | error cause => rfl
  | ok a => exact (pure_bind a fun a => built (f a)).symm

/-- Reading back what was just wrapped. -/
theorem reread (act : SessionM σ α) (wrap : α → γ) (read : γ → Except SqlError α)
    (h : ∀ a, read (wrap a) = .ok a) :
    (do MonadExcept.ofExcept (read (← (do return wrap (← act)))) : SessionM σ α) = act := by
  apply ExceptT.ext
  funext c
  show (do MonadExcept.ofExcept (read (← (do return wrap (← act)))) : SessionM σ α).run c
    = act.run c
  rw [run_bind, run_bind]
  rcases act.run c with ⟨res, c'⟩
  cases res with
  | error e => rfl
  | ok a =>
    show (MonadExcept.ofExcept (read (wrap a)) : SessionM σ α).run c' = _
    rw [h a]
    rfl

end

namespace Session

-- What was fetched has the shape that was asked for, so no reading of it fails.

theorem runAs_statement (sql : String) :
    (runAs sql .statement Fetched.toStatement : SessionM σ Statement) = statement sql :=
  reread (statement sql) Fetched.statement Fetched.toStatement fun _ => rfl

theorem runAs_rows (sql : String) :
    (runAs sql .rows Fetched.toRows : SessionM σ (List Row)) = rows sql :=
  reread (rows sql) Fetched.rows Fetched.toRows fun _ => rfl

theorem runAs_firstRow (sql : String) :
    (runAs sql .firstRow Fetched.toRow : SessionM σ (Option Row)) = firstRow sql :=
  reread (firstRow sql) Fetched.row Fetched.toRow fun _ => rfl

theorem runAs_affected (sql : String) :
    (runAs sql .affected Fetched.toAffected : SessionM σ Nat) = execute sql :=
  reread (execute sql) Fetched.affected Fetched.toAffected fun _ => rfl

end Session

namespace Dialect

theorem run_compose_bind {β : Type} (d : Dialect) (kind : QueryKind) (o : QueryOptions)
    (f : String → SessionM σ β) (c : Channel σ) :
    (d.compose kind o >>= f).run c
      = (built (d.render kind c.session.idField o) >>= f).run c := by
  rw [run_bind, run_bind]
  unfold compose
  rw [run_bind_ok (Session.run_current c)]

theorem run_select (d : Dialect) (o : QueryOptions) (c : Channel σ) :
    (d.select o).run c = (built (d.text .select c.session.idField o) >>= fun sql =>
      send .select sql o).run c := by
  unfold select
  extract_lets l mode
  rw [run_compose_bind]
  refine congrArg (fun f => (built _ >>= f).run c) (funext fun sql => ?_)
  show _ = sendSelect sql mode
  cases mode with
  | sqlText => rfl
  | statement =>
    unfold sendSelect
    rw [← Session.runAs_statement]
  | firstRow | object =>
    unfold sendSelect
    rw [← Session.runAs_firstRow]
  | rows | objects =>
    unfold sendSelect
    rw [← Session.runAs_rows]

theorem run_command (d : Dialect) (kind : QueryKind) (o : QueryOptions) (c : Channel σ) :
    (d.command kind o).run c
      = (built (d.render kind c.session.idField (o.layeredOver (.defaults kind))) >>= fun sql =>
        sendCommand sql (o.layeredOver (.defaults kind)).output).run c := by
  unfold command
  extract_lets l
  rw [run_compose_bind]
  refine congrArg (fun f => (built _ >>= f).run c) (funext fun sql => ?_)
  unfold sendCommand
  rw [← Session.runAs_affected]

theorem run_perform (d : Dialect) (kind : QueryKind) (o : QueryOptions) (c : Channel σ) :
    (d.perform kind o).run c = (built (d.text kind c.session.idField o) >>= fun sql =>
      send kind sql o).run c := by
  cases kind with
  | select => exact run_select d o c
  | update => exact run_command d .update o c
  | insert => exact run_command d .insert o c
  | delete => exact run_command d .delete o c

end Dialect

namespace Select

variable {α : Type}

/-- A select by the output mode that its options are to have. -/
theorem run_performWith (s : Select ε) (f : QueryOptions → QueryOptions) (mode : OutputMode)
    (hf : ∀ o, s.resolved = .ok o → (f o).output.getD .rows = mode) (c : Channel σ) :
    (s.performWith f).run c = (built (s.textWith c.session.idField f) >>= fun sql =>
      Dialect.sendSelect sql mode).run c := by
  unfold performWith textWith
  rw [built_bind, bind_assoc, run_built_bind, run_built_bind]
  cases hr : s.resolved with
  | error cause => rfl
  | ok o =>
    have hmode : (((f o).layeredOver (.defaults .select)).output.getD .rows) = mode := by
      rw [← hf o hr]
      show ((f o).output <|> some OutputMode.rows).getD .rows = _
      cases (f o).output <;> rfl
    show (s.dialect.select (f o)).run c = _
    rw [Dialect.run_select s.dialect (f o) c]
    unfold Dialect.send
    rw [hmode]

/-- A select whose output mode is settled, and what is read off its result. -/
theorem run_performWith_bind (s : Select ε) (f : QueryOptions → QueryOptions) (mode : OutputMode)
    (hf : ∀ o, (f o).output = some mode) (k : Output → SessionM σ α) (c : Channel σ) :
    (s.performWith f >>= k).run c = (built (s.textWith c.session.idField f) >>= fun sql =>
      Dialect.sendSelect sql mode >>= k).run c := by
  have hmode : ∀ o, s.resolved = .ok o → (f o).output.getD .rows = mode := by
    intro o _
    rw [hf o]
    rfl
  rw [run_bind_congr (run_performWith s f mode hmode c), bind_assoc]

theorem sendSelect_rows_bind (sql : String) (k : List Row → SessionM σ α) :
    (do k (← MonadExcept.ofExcept (← Dialect.sendSelect sql .rows).toRows) : SessionM σ α)
      = Session.rows sql >>= k := by
  rw [← bind_assoc]
  refine congrArg (· >>= k) ?_
  exact reread (Session.rows sql) Output.rows Output.toRows fun _ => rfl

theorem run_sql (s : Select ε) (c : Channel σ) :
    s.sql.run c = (built ((Operation.selectSql s).text c.session.idField)).run c := by
  unfold sql
  rw [run_performWith_bind s _ .sqlText fun _ => rfl]
  rw [run_built_bind]
  show _ = (built (s.textWith c.session.idField _)).run c
  cases s.textWith c.session.idField fun o => { o with output := some .sqlText } <;> rfl

theorem run_rows (s : Select ε) (c : Channel σ) :
    s.rows.run c = (built ((Operation.selectRows s).text c.session.idField) >>= Session.rows).run c := by
  unfold rows
  rw [run_performWith_bind s _ .rows fun _ => rfl]
  refine congrArg (fun f => (built _ >>= f).run c) (funext fun sql => ?_)
  exact reread (Session.rows sql) Output.rows Output.toRows fun _ => rfl

theorem run_row (s : Select ε) (c : Channel σ) :
    s.row.run c
      = (built ((Operation.selectRow s).text c.session.idField) >>= Session.firstRow).run c := by
  unfold row
  rw [run_performWith_bind s _ .firstRow fun _ => rfl]
  refine congrArg (fun f => (built _ >>= f).run c) (funext fun sql => ?_)
  exact reread (Session.firstRow sql) Output.row Output.toRow fun _ => rfl

theorem counted_output (most : Option Int) (o : QueryOptions) :
    (counted most o).output = some .sqlText := by
  unfold counted
  extract_lets o'
  split <;> rfl

theorem run_count (s : Select ε) (most : Option Int) (c : Channel σ) :
    (s.count most).run c
      = (built ((Operation.selectCount s most).text c.session.idField) >>= fun sql => do
        return countOfRow (← Session.rows sql).head?).run c := by
  unfold count
  rw [run_performWith_bind s _ .sqlText (counted_output most)]
  show _ = (built (s.textWith c.session.idField (counted most) >>= fun inner =>
    s.dialect.text .select c.session.idField (countOptions inner)) >>= _).run c
  rw [built_bind (s.textWith c.session.idField (counted most)), bind_assoc, run_built_bind,
    run_built_bind]
  cases s.textWith c.session.idField (counted most) with
  | error cause => rfl
  | ok inner =>
    show (s.dialect.select (countOptions inner) >>= _).run c = _
    rw [run_bind_congr (Dialect.run_select s.dialect (countOptions inner) c), bind_assoc]
    refine congrArg (fun f => (built _ >>= f).run c) (funext fun sql => ?_)
    exact sendSelect_rows_bind sql fun rows => pure (countOfRow rows.head?)

end Select

namespace Command

variable {α : Type}

theorem resolved_output {r : Request} {o : QueryOptions} (h : r.resolved = .ok o) :
    o.output = r.options.output := by
  obtain ⟨conditions, -, h⟩ := bind_eq_ok_iff.1 h
  cases h
  rfl

theorem run_performAs_bind (c : Command) (mode : Option OutputMode → Option OutputMode)
    (k : Output → SessionM σ α) (ch : Channel σ) :
    (c.performAs mode >>= k).run ch
      = (built (c.textAs ch.session.idField mode) >>= fun sql =>
        Dialect.sendCommand sql (mode c.options.output) >>= k).run ch := by
  unfold performAs textAs
  rw [built_bind, bind_assoc, bind_assoc, run_built_bind, run_built_bind]
  cases hr : c.resolved with
  | error cause => rfl
  | ok o =>
    have hmode : ({ o with output := mode o.output }.layeredOver
        (.defaults c.kind.queryKind)).output = mode c.options.output := by
      rw [← resolved_output hr]
      show (mode o.output <|> (QueryOptions.defaults c.kind.queryKind).output) = mode o.output
      cases c.kind <;> cases mode o.output <;> rfl
    have htext : c.dialect.text c.kind.queryKind ch.session.idField
        { o with output := mode o.output } = c.dialect.render c.kind.queryKind ch.session.idField
          ({ o with output := mode o.output }.layeredOver (.defaults c.kind.queryKind)) := by
      cases c.kind <;> rfl
    show (c.dialect.command c.kind.queryKind { o with output := mode o.output } >>= k).run ch
      = (built (c.dialect.text c.kind.queryKind ch.session.idField
        { o with output := mode o.output }) >>= _).run ch
    rw [run_bind_congr (Dialect.run_command c.dialect c.kind.queryKind _ ch), bind_assoc, hmode,
      htext]

theorem run_sql (c : Command) (ch : Channel σ) :
    c.sql.run ch = (built (c.textAs ch.session.idField fun _ => some .sqlText)).run ch := by
  unfold sql
  rw [run_performAs_bind, run_built_bind]
  cases c.textAs ch.session.idField fun _ => some .sqlText <;> rfl

theorem run_execute (c : Command) (ch : Channel σ) :
    c.execute.run ch
      = (built (c.textAs ch.session.idField fun _ => none) >>= Session.execute).run ch := by
  unfold execute
  rw [run_performAs_bind]
  refine congrArg (fun f => (built _ >>= f).run ch) (funext fun sql => ?_)
  exact reread (Session.execute sql) Output.affected Output.toAffected fun _ => rfl

end Command

/-! ## Failures of the text -/

theorem Dialect.failsOfText_text (d : Dialect) (kind : QueryKind) (idField : String)
    (o : QueryOptions) : FailsOfText (d.text kind idField o) :=
  failsOfText_render d kind idField (o.laid kind)

theorem Select.failsOfText_textWith (s : Select ε) (idField : String)
    (f : QueryOptions → QueryOptions) : FailsOfText (s.textWith idField f) := by
  unfold textWith
  refine (failsOfText_resolved s).bind fun o => ?_
  exact Dialect.failsOfText_text s.dialect .select idField (f o)

theorem Command.failsOfText_textAs (c : Command) (idField : String)
    (mode : Option OutputMode → Option OutputMode) : FailsOfText (c.textAs idField mode) := by
  unfold textAs
  refine (Request.failsOfText_resolved c.toRequest).bind fun o => ?_
  exact Dialect.failsOfText_text c.dialect c.kind.queryKind idField _

theorem Operation.failsOfText_text (op : Operation ε) (idField : String) :
    FailsOfText (op.text idField) := by
  unfold text
  cases op with
  | adapter d kind o => exact Dialect.failsOfText_text d kind idField o
  | selectSql s | selectRows s | selectRow s => exact Select.failsOfText_textWith s idField _
  | selectCount s most =>
    refine (Select.failsOfText_textWith s idField _).bind fun inner => ?_
    exact Dialect.failsOfText_text s.dialect .select idField (Select.countOptions inner)
  | commandSql c | commandExecute c | commandRun c => exact Command.failsOfText_textAs c idField _

/-- **Text first.**  An operation builds its text, and what it does then it does with this text. -/
theorem Operation.run_eq (op : Operation ε) (c : Channel σ) :
    (op.run : SessionM σ Answer).run c
      = (built (op.text c.session.idField) >>= fun sql => op.send sql).run c := by
  cases op with
  | adapter d kind o =>
    unfold run
    rw [run_bind_congr (Dialect.run_perform d kind o c), bind_assoc]
    rfl
  | selectSql s =>
    unfold run
    rw [run_bind_congr (Select.run_sql s c)]
    rfl
  | selectRows s =>
    unfold run
    rw [run_bind_congr (Select.run_rows s c), bind_assoc]
    rfl
  | selectRow s =>
    unfold run
    rw [run_bind_congr (Select.run_row s c), bind_assoc]
    rfl
  | selectCount s most =>
    unfold run
    rw [run_bind_congr (Select.run_count s most c), bind_assoc]
    refine congrArg (fun f => (built _ >>= f).run c) (funext fun sql => ?_)
    rw [bind_assoc]
    rfl
  | commandSql cmd =>
    unfold run
    rw [run_bind_congr (Command.run_sql cmd c)]
    rfl
  | commandExecute cmd =>
    unfold run
    rw [run_bind_congr (Command.run_execute cmd c), bind_assoc]
    rfl
  | commandRun cmd =>
    show (cmd.performAs id >>= _).run c = _
    rw [Command.run_performAs_bind]
    rfl

end SqlGateway
