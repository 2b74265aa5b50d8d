import SqlGateway.Proofs.Cursor.Run
import SqlGateway.Proofs.Session.Sent
import SqlGateway.Script

/-!
# Previews

A request can be carried out in many ways, and in each it can be asked for its
text beforehand.  What is sent is the text that was shown: that of the request
as it is, or as it is for one row when one row is asked for.

    there is no text          nothing is sent, and the failure is the one of the preview
    the text is asked for     it comes back, and nothing is sent
    else                      the text is the one statement that is sent
-/

namespace SqlGateway

variable {σ ε α β : Type}

/-! ## Algorithm -/

/-- A request of any kind. -/
inductive Query (ε : Type) where
  | select (s : Select ε)
  | command (c : Command)

namespace Query

/-- The text, without sending it. -/
def sql : Query ε → SessionM σ String
  | .select s => s.sql
  | .command c => c.sql

/-- The text that is built in a session with this id field. -/
def text (idField : String) : Query ε → Except BuildError String
  | .select s => (Operation.selectSql s).text idField
  | .command c => c.textAs idField fun _ => some .sqlText

end Query

/-- The ways to have a request carried out. -/
inductive Terminal (ε : Type) where
  | rows (s : Select ε)
  | row (s : Select ε)
  | objects (s : Select ε)
  | object (s : Select ε)
  | run (s : Select ε)
  /-- The first fetch of a cursor. -/
  | fetch (s : Select ε)
  /-- The first record of a cursor that its filters accept. -/
  | next (s : Select ε)
  | execute (c : Command)
  | runCommand (c : Command)

/-- The query text, when it is what a select came to. -/
def Selection.text? : Selection ε → Option String
  | .sqlText sql => some sql
  | _ => none

/-- What a cursor over `s` that has run nothing does at a desk. -/
def Select.opening (s : Select ε) (act : ReadingM σ ε α) : DeskM σ ε α :=
  fun d => ((act.run ⟨s.cursor, d⟩).1, (act.run ⟨s.cursor, d⟩).2.desk)

namespace Terminal

/-- Carries the request out; the query text, when that is what comes back. -/
def perform : Terminal ε → DeskM σ ε (Option String)
  | .rows s => do let _ ← Desk.onSession s.rows; return none
  | .row s => do let _ ← Desk.onSession s.row; return none
  | .objects s => do let _ ← s.objects; return none
  | .object s => do let _ ← s.object; return none
  | .run s => do return (← s.run).text?
  | .fetch s => do let _ ← s.opening Cursor.fetch; return none
  | .next s => do let _ ← s.opening Cursor.next; return none
  | .execute c => do let _ ← Desk.onSession c.execute; return none
  | .runCommand c => do return (Answer.output (← Desk.onSession c.run)).text?

def query : Terminal ε → Query ε
  | .rows s | .row s | .objects s | .object s | .run s | .fetch s | .next s => .select s
  | .execute c | .runCommand c => .command c

/-- One row is asked for. -/
def isSingle : Terminal ε → Bool
  | .row _ | .object _ => true
  | .run s => Dialect.isSingle (s.options.output.getD .rows)
  | _ => false

/-- The request whose text is sent. -/
def shown (t : Terminal ε) : Query ε :=
  match t.query with
  | .select s => if t.isSingle then .select (s.mapRequest fun r => r.number 1) else .select s
  | .command c => .command c

/-- Only the text is asked for. -/
def isPreview : Terminal ε → Bool
  | .run s => s.options.output = some .sqlText
  | .runCommand c => c.options.output = some .sqlText
  | _ => false

end Terminal

/-! ## Texts -/

namespace Dialect

/-- The output mode matters to the text in so far as it asks for one row. -/
theorem text_of_output (d : Dialect) (idField : String) (o : QueryOptions) :
    d.text .select idField o =
      if isSingle (o.output.getD .rows) then
        d.text .select idField { o with number := some 1, output := some .sqlText }
      else d.text .select idField { o with output := some .sqlText } := by
  rcases o with ⟨_, _, _, _, _, _, _, _, _, _, _, output, _, _, _, _, _, _, _⟩
  cases output with
  | none => rfl
  | some mode => cases mode <;> rfl

/-- How many rows are asked for makes no text impossible. -/
theorem renderSelect_error_iff (d : Dialect) (idField : String) (o : QueryOptions)
    (n : Option Int) (e : BuildError) :
    d.renderSelect idField { o with number := n } = .error e
      ↔ d.renderSelect idField o = .error e := by
  unfold renderSelect
  refine bind_eq_error_congr fun table => ?_
  refine bind_eq_error_congr fun what => ?_
  constructor
  · intro h
    split at h <;> cases h
  · intro h
    split at h <;> cases h

end Dialect

namespace Select

/-- Resolving fills in the conditions and the id field. -/
theorem exists_of_resolved {s : Select ε} {o : QueryOptions} (h : s.resolved = .ok o) :
    ∃ conditions having,
      o = { s.options with conditions, having, idField := some s.toRequest.idField } := by
  obtain ⟨o', ho', h⟩ := bind_eq_ok_iff.1 h
  obtain ⟨conditions, -, ho'⟩ := bind_eq_ok_iff.1 ho'
  obtain ⟨having, -, h⟩ := bind_eq_ok_iff.1 h
  cases ho'
  cases h
  exact ⟨conditions, having, rfl⟩

theorem resolved_output {s : Select ε} {o : QueryOptions} (h : s.resolved = .ok o) :
    o.output = s.options.output := by
  obtain ⟨conditions, having, rfl⟩ := exists_of_resolved h
  rfl

/-- Options that resolving leaves alone can be changed before or after it. -/
theorem resolved_mapOptions (s : Select ε) {f : QueryOptions → QueryOptions}
    (hf : ∀ o conditions having idField, f { o with conditions, having, idField }
      = { f o with conditions, having, idField }) :
    (s.mapOptions f).resolved = s.resolved >>= fun o => .ok (f o) := by
  show (Condition.texts s.dialect s.conditions >>= _) >>= _ = ((_ >>= _) >>= _) >>= _
  cases Condition.texts s.dialect s.conditions with
  | error cause => rfl
  | ok conditions =>
    show (Condition.texts s.dialect s.having >>= _) = (Condition.texts s.dialect s.having >>= _) >>= _
    cases Condition.texts s.dialect s.having with
    | error cause => rfl
    | ok having =>
      exact congrArg Except.ok (hf s.options conditions having (some s.toRequest.idField)).symm

/-- A request for so many rows has the options of the request, but for the number. -/
theorem resolved_number (s : Select ε) (n : Int) :
    (s.mapRequest fun r => r.number n).resolved
      = s.resolved >>= fun o => .ok { o with number := some n } :=
  s.resolved_mapOptions fun _ _ _ _ => rfl

theorem textWith_congr {s : Select ε} {idField : String} {f g : QueryOptions → QueryOptions}
    (h : ∀ o, s.resolved = .ok o →
      s.dialect.text .select idField (f o) = s.dialect.text .select idField (g o)) :
    s.textWith idField f = s.textWith idField g :=
  bind_congr_ok h

/-- The text of a request for one row. -/
def textOfOne (s : Select ε) (idField : String) : Except BuildError String :=
  (Query.select (s.mapRequest fun r => r.number 1)).text idField

theorem textOfOne_eq (s : Select ε) (idField : String) :
    s.textOfOne idField
      = s.textWith idField fun o => { o with number := some 1, output := some .sqlText } := by
  show ((s.mapRequest fun r => r.number 1).resolved >>= _) = (s.resolved >>= _)
  rw [resolved_number, bind_assoc]
  rfl

theorem textOfOne_error_iff (s : Select ε) (idField : String) (e : BuildError) :
    s.textOfOne idField = .error e ↔ (Query.select s).text idField = .error e := by
  rw [textOfOne_eq]
  refine bind_eq_error_congr fun o => ?_
  exact Dialect.renderSelect_error_iff s.dialect idField
    (QueryOptions.layeredOver { o with output := some .sqlText } (.defaults .select)) (some 1) e

/-- Whatever output mode is set, the text is that of the query for its text, for one row or as it
is. -/
theorem textWith_eq (s : Select ε) (idField : String) (f : QueryOptions → QueryOptions)
    (single : Bool)
    (hsingle : ∀ o, s.resolved = .ok o → Dialect.isSingle ((f o).output.getD .rows) = single) :
    s.textWith idField f = s.textWith idField fun o =>
      if single then { f o with number := some 1, output := some .sqlText }
      else { f o with output := some .sqlText } := by
  refine textWith_congr fun o ho => ?_
  rw [Dialect.text_of_output, hsingle o ho]
  cases single <;> rfl

end Select

/-! ## The desk -/

namespace Desk

/-- Has nothing to do with the session. -/
def Keeps (act : DeskM σ ε α) : Prop :=
  ∀ d, (act.run d).2.channel = d.channel

theorem keeps_pure (a : α) : Keeps (pure a : DeskM σ ε α) := by
  intro d
  rfl

theorem keeps_ofExcept (r : Except SqlError α) :
    Keeps (MonadExcept.ofExcept r : DeskM σ ε α) := by
  intro d
  rw [run_ofExcept]

theorem Keeps.bind {act : DeskM σ ε α} {k : α → DeskM σ ε β} (ha : Keeps act)
    (hk : ∀ a, Keeps (k a)) : Keeps (act >>= k) := by
  intro d
  rw [run_bind]
  have had := ha d
  rcases hact : act.run d with ⟨res, d'⟩
  rw [hact] at had
  cases res with
  | error e => exact had
  | ok a => exact (hk a d').trans had

theorem keeps_load (row : Row) (useCache : Bool) :
    Keeps (load row useCache : DeskM σ ε (Object ε)) := by
  intro d
  rw [run_load]

theorem keeps_passes (record : Record ε) (filters : List (Filter ε)) :
    Keeps (passes record filters : DeskM σ ε Bool) := by
  intro d
  rw [run_passes]

end Desk

namespace Select

theorem keeps_hydrate (s : Select ε) (row : Row) :
    Desk.Keeps (s.hydrate row : DeskM σ ε (Option (Object ε))) := by
  unfold hydrate
  refine (Desk.keeps_load row s.usingCache).bind fun object => ?_
  refine (Desk.keeps_passes (.object object) s.filters).bind fun accepted => ?_
  cases accepted <;> exact Desk.keeps_pure _

theorem keeps_hydrateAll (s : Select ε) (rows : List Row) :
    Desk.Keeps (s.hydrateAll rows : DeskM σ ε (List (Object ε))) := by
  induction rows with
  | nil => exact Desk.keeps_pure []
  | cons row rest ih =>
    unfold hydrateAll
    refine (s.keeps_hydrate row).bind fun object => ?_
    exact ih.bind fun objects => Desk.keeps_pure _

end Select

/-! ## What is sent -/

namespace Session

variable {s : Session σ} {r : Recorded σ}

theorem Attains.not_refuses {c : Connection σ} {r₁ : Recorded σ} {f : DriverFailure} {w : σ}
    (h : s.Attains r c r₁) : ¬ s.Refuses r.world f w :=
  h.reaches.not_refuses

/-- Once there is a connection, one statement is sent, whatever comes of it. -/
theorem Sent.statements {sql : String} {IsAnswer : α → Prop}
    {res : Except SqlError α × Channel (Recorded σ)} (h : s.Sent r sql IsAnswer res)
    {c : Connection σ} {r₁ : Recorded σ} (hc : s.Attains r c r₁) :
    res.2.world.statements = r.statements ++ [sql] := by
  have hsent : ∀ {c' r'}, s.Attains r c' r' → (r'.sending sql).statements = r.statements ++ [sql] := by
    intro c' r' hc'
    show r'.statements ++ [sql] = _
    rw [hc'.statements]
  cases h with
  | answered c' r' w a hc' ha => exact hsent hc'
  | refused f w hf => exact absurd hf hc.not_refuses
  | failed c' r' w f hc' hf => exact hsent hc'

end Session

/-- Carries a text out at this desk: without a text nothing happens, and else the text is the one
statement that is sent. -/
structure Sends (s : Session σ) (d : Desk (Recorded σ) ε) (text : Except BuildError String)
    (act : DeskM (Recorded σ) ε α) : Prop where
  unbuilt : ∀ e, text = .error e → act.run d = (.error (.queryBuild e), d)
  sent : ∀ sql, text = .ok sql → ∀ c r₁, s.Attains d.channel.world c r₁ →
    (act.run d).2.channel.world.statements = d.channel.world.statements ++ [sql]

section

variable {s : Session σ} {d : Desk (Recorded σ) ε} {text : Except BuildError String}

theorem Sends.bind {act : DeskM (Recorded σ) ε α} (h : Sends s d text act)
    {k : α → DeskM (Recorded σ) ε β} (hk : ∀ a, Desk.Keeps (k a)) :
    Sends s d text (act >>= k) := by
  constructor
  · intro e he
    exact run_bind_error (h.unbuilt e he) k
  · intro sql hsql c r₁ hc
    have hsent := h.sent sql hsql c r₁ hc
    rw [run_bind]
    rcases hact : act.run d with ⟨res, d'⟩
    rw [hact] at hsent
    cases res with
    | error e => exact hsent
    | ok a =>
      show ((k a).run d').2.channel.world.statements = _
      rw [hk a d']
      exact hsent

/-- An action of the session that builds its text first. -/
theorem sends_onSession {IsAnswer : α → Prop} {act : SessionM (Recorded σ) α}
    {send : String → SessionM (Recorded σ) α} (hd : d.channel.session = s.recorded)
    (hact : act.run d.channel = (built text >>= send).run d.channel)
    (hsend : ∀ sql, s.Sent d.channel.world sql IsAnswer
      ((send sql).run ⟨s.recorded, d.channel.world⟩)) :
    Sends s d text (Desk.onSession act) := by
  have hchannel : d.channel = ⟨s.recorded, d.channel.world⟩ := by
    rw [← hd]
  constructor
  · intro e he
    rw [Desk.run_onSession, hact, run_built_bind, he]
  · intro sql hsql c r₁ hc
    have hsent := (hsend sql).statements hc
    rw [Desk.run_onSession, hact, run_built_bind, hsql]
    show ((send sql).run d.channel).2.world.statements = _
    rw [hchannel]
    exact hsent

end

/-- A select in every mode but that for the text alone. -/
theorem Dialect.sent_sendSelect (sql : String) (mode : OutputMode) (hmode : mode ≠ .sqlText)
    (s : Session σ) (r : Recorded σ) :
    s.Sent r sql (fun _ => True)
      ((sendSelect sql mode : SessionM (Recorded σ) Output).run ⟨s.recorded, r⟩) := by
  cases mode with
  | sqlText => exact absurd rfl hmode
  | statement => exact (Session.sent_statement s r sql).map Output.statement fun _ _ => trivial
  | firstRow | object => exact (Session.sent_firstRow s r sql).map Output.row fun _ _ => trivial
  | rows => exact (Session.sent_rows s r sql).map Output.rows fun _ _ => trivial
  | objects =>
    exact (Session.sent_rows s r sql).map (fun rows => Output.objects (rows.map Row.toJson))
      fun _ _ => trivial

/-- What is read off a result is no further action. -/
theorem Desk.onSession_read (act : SessionM σ α) (read : α → Except SqlError β) :
    (onSession (do MonadExcept.ofExcept (read (← act))) : DeskM σ ε β)
      = (do MonadExcept.ofExcept (read (← onSession act))) := by
  apply ExceptT.ext
  funext d
  show (onSession (act >>= fun a => MonadExcept.ofExcept (read a)) : DeskM σ ε β).run d
    = (onSession act >>= fun a => MonadExcept.ofExcept (read a)).run d
  rw [run_onSession, run_bind, run_bind, run_onSession]
  rcases act.run d.channel with ⟨res, channel⟩
  cases res with
  | error e => rfl
  | ok a =>
    simp only [run_ofExcept]

namespace Select

variable {session : Session σ} {d : Desk (Recorded σ) ε}

theorem sends_performWith (hd : d.channel.session = session.recorded) (s : Select ε)
    (f : QueryOptions → QueryOptions) (mode : OutputMode) (hmode : mode ≠ .sqlText)
    (hf : ∀ o, s.resolved = .ok o → (f o).output.getD .rows = mode) :
    Sends session d (s.textWith session.idField f) (Desk.onSession (s.performWith f)) := by
  have hid : d.channel.session.idField = session.idField := by
    rw [hd]
    rfl
  refine sends_onSession hd ?_ fun sql => Dialect.sent_sendSelect sql mode hmode session _
  rw [run_performWith s f mode hf d.channel, hid]

/-- A query in a mode for all rows sends the text that is shown. -/
theorem sends_all (hd : d.channel.session = session.recorded) (s : Select ε) (mode : OutputMode)
    (hmode : mode ≠ .sqlText) (hall : Dialect.isSingle mode = false) :
    Sends session d ((Query.select s).text session.idField)
      (Desk.onSession (s.performWith fun o => { o with output := some mode })) := by
  have htext := s.textWith_eq session.idField (fun o => { o with output := some mode }) false
    fun _ _ => hall
  have hsends := sends_performWith hd s (fun o => { o with output := some mode }) mode hmode
    fun _ _ => rfl
  rw [htext] at hsends
  exact hsends

theorem sends_rows (hd : d.channel.session = session.recorded) (s : Select ε) :
    Sends session d ((Query.select s).text session.idField) (Desk.onSession s.rows) := by
  unfold rows
  rw [Desk.onSession_read]
  exact (sends_all hd s .rows (by decide) rfl).bind fun output => Desk.keeps_ofExcept output.toRows

theorem sends_row (hd : d.channel.session = session.recorded) (s : Select ε) :
    Sends session d (s.textOfOne session.idField) (Desk.onSession s.row) := by
  have htext := s.textWith_eq session.idField (fun o => { o with output := some .firstRow }) true
    fun _ _ => rfl
  have hsends := sends_performWith hd s (fun o => { o with output := some .firstRow }) .firstRow
    (by decide) fun _ _ => rfl
  rw [htext] at hsends
  unfold row
  rw [Desk.onSession_read, textOfOne_eq]
  exact hsends.bind fun output => Desk.keeps_ofExcept output.toRow

theorem sends_objects (hd : d.channel.session = session.recorded) (s : Select ε) :
    Sends session d ((Query.select s).text session.idField) s.objects := by
  unfold objects
  exact (sends_rows hd s).bind s.keeps_hydrateAll

/-- One object is read from all rows of the query for one row. -/
theorem sends_object (hd : d.channel.session = session.recorded) (s : Select ε) :
    Sends session d (s.textOfOne session.idField) s.object := by
  have htext := s.textWith_eq session.idField
    (fun o => { o with number := some 1, output := some .rows }) false fun _ _ => rfl
  have hsends := sends_performWith hd s (fun o => { o with number := some 1, output := some .rows })
    .rows (by decide) fun _ _ => rfl
  rw [htext] at hsends
  unfold object
  rw [textOfOne_eq]
  refine hsends.bind fun output => ?_
  refine (Desk.keeps_ofExcept output.toRows).bind fun rows => ?_
  cases rows with
  | nil => exact Desk.keeps_pure none
  | cons row rest => exact s.keeps_hydrate row

/-- What a cursor over `s` does at a desk once its query has run. -/
def resumed (s : Select ε) (st : Statement) (act : ReadingM σ ε α) : DeskM σ ε α := fun d =>
  let r := act.run
    ⟨{ s.cursor with state := .fetching st (Cursor.isHydrating s.options.output) }, d⟩
  (r.1, r.2.desk)

theorem keeps_resumed_fetch (s : Select ε) (st : Statement) :
    Desk.Keeps (s.resumed st Cursor.fetch : DeskM σ ε (Option (Record ε))) := by
  intro d
  show (Cursor.fetch.run _).2.desk.channel = d.channel
  rcases hdrain : st.drain with ⟨rows, failure⟩
  cases rows with
  | nil =>
    rw [Cursor.run_fetch_nil rfl hdrain]
  | cons row rest =>
    obtain ⟨st', hfetch, -, -⟩ := Statement.fetch_of_drain_cons hdrain
    rw [Cursor.run_fetch_cons rfl hfetch]

theorem keeps_resumed_next (s : Select ε) (st : Statement) :
    Desk.Keeps (s.resumed st Cursor.next : DeskM σ ε (Option (Nat × Record ε))) := by
  intro d
  let r : Reading σ ε :=
    ⟨{ s.cursor with state := .fetching st (Cursor.isHydrating s.options.output) }, d⟩
  have hdrain : st.drain = (st.drain.1, st.drain.2) := rfl
  exact (Cursor.harvest_fetching (show r.cursor.state = .fetching st _ from rfl) hdrain 1).channel

/-- The query that a cursor starts with is the one thing that it sends. -/
theorem sends_opening (hd : d.channel.session = session.recorded) (s : Select ε)
    {k : Unit → ReadingM (Recorded σ) ε α}
    (hkeeps : ∀ st, Desk.Keeps (s.resumed st (Cursor.start >>= k))) :
    Sends session d ((Query.select s).text session.idField) (s.opening (Cursor.start >>= k)) := by
  have hopen : Sends session d ((Query.select s).text session.idField)
      (Cursor.openStatement s >>= fun st => s.resumed st (Cursor.start >>= k)) := by
    refine Sends.bind ?_ hkeeps
    unfold Cursor.openStatement
    exact (sends_all hd s .statement (by decide) rfl).bind fun output =>
      Desk.keeps_ofExcept output.toStatement
  have hrun : (s.opening (Cursor.start >>= k)).run d
      = (Cursor.openStatement s >>= fun st => s.resumed st (Cursor.start >>= k)).run d := by
    have hstate : (Reading.mk s.cursor d).cursor.state = .unstarted := rfl
    have hstart := Cursor.run_start_bind_unstarted hstate k
    show (((Cursor.start >>= k).run ⟨s.cursor, d⟩).1, ((Cursor.start >>= k).run ⟨s.cursor, d⟩).2.desk)
      = _
    have hrequest : (Reading.mk s.cursor d).cursor.request = s := rfl
    rw [hstart, run_bind (Cursor.openStatement s), hrequest]
    rcases (Cursor.openStatement s).run d with ⟨res, d'⟩
    cases res <;> rfl
  constructor
  · rw [hrun]
    exact hopen.unbuilt
  · rw [hrun]
    exact hopen.sent

/-- A request in its own output mode. -/
theorem sends_performWith_id (hd : d.channel.session = session.recorded) (s : Select ε)
    (hmode : s.options.output ≠ some .sqlText) :
    Sends session d
      (if Dialect.isSingle (s.options.output.getD .rows) then s.textOfOne session.idField
        else (Query.select s).text session.idField)
      (Desk.onSession (s.performWith id)) := by
  have hown : ∀ o, s.resolved = .ok o → (id o).output.getD .rows = s.options.output.getD .rows := by
    intro o ho
    rw [← resolved_output ho]
    rfl
  have hne : s.options.output.getD .rows ≠ .sqlText := by
    intro h
    cases ho : s.options.output with
    | none =>
      rw [ho] at h
      cases h
    | some mode =>
      rw [ho] at h hmode
      exact hmode (congrArg some h)
  have htext := s.textWith_eq session.idField id (Dialect.isSingle (s.options.output.getD .rows))
    fun o ho => by rw [hown o ho]
  have hsends := sends_performWith hd s id _ hne hown
  rw [htext] at hsends
  rw [textOfOne_eq]
  cases hsingle : Dialect.isSingle (s.options.output.getD .rows) with
  | false =>
    rw [hsingle] at hsends
    exact hsends
  | true =>
    rw [hsingle] at hsends
    exact hsends

theorem sends_run (hd : d.channel.session = session.recorded) (s : Select ε)
    (hmode : s.options.output ≠ some .sqlText) :
    Sends session d
      (if Dialect.isSingle (s.options.output.getD .rows) then s.textOfOne session.idField
        else (Query.select s).text session.idField) s.run := by
  have hown := sends_performWith_id hd s hmode
  unfold run
  cases ho : s.options.output with
  | none =>
    rw [ho] at hown
    refine hown.bind fun output => ?_
    intro d
    cases output <;> rfl
  | some mode =>
    rw [ho] at hown hmode
    cases mode with
    | object => exact (sends_object hd s).bind fun object => Desk.keeps_pure _
    | objects => exact (sends_objects hd s).bind fun objects => Desk.keeps_pure _
    | firstRow | rows | statement =>
      refine hown.bind fun output => ?_
      intro d
      cases output <;> rfl
    | sqlText => exact absurd rfl hmode

/-- The text alone comes back as it was built. -/
theorem run_run_sqlText (s : Select ε) (hmode : s.options.output = some .sqlText)
    (d : Desk σ ε) :
    (s.run : DeskM σ ε (Selection ε)).run d
      = match (Query.select s).text d.channel.session.idField with
        | .error e => (.error (.queryBuild e), d)
        | .ok sql => (.ok (.sqlText sql), d) := by
  have hown : ∀ o, s.resolved = .ok o → (id o).output.getD .rows = .sqlText := by
    intro o ho
    show o.output.getD .rows = _
    rw [resolved_output ho, hmode]
    rfl
  have htext : s.textWith d.channel.session.idField id
      = (Query.select s).text d.channel.session.idField :=
    s.textWith_eq _ id false fun o ho => by
      rw [hown o ho]
      rfl
  unfold run
  rw [hmode]
  show (Desk.onSession (s.performWith id) >>= _).run d = _
  rw [run_bind, Desk.run_onSession, run_performWith s id .sqlText hown, run_built_bind, htext]
  cases (Query.select s).text d.channel.session.idField <;> rfl

end Select

namespace Command

variable {session : Session σ} {d : Desk (Recorded σ) ε}

/-- The output mode does not matter to the text of a command. -/
theorem textAs_congr (c : Command) (idField : String)
    (mode mode' : Option OutputMode → Option OutputMode) :
    c.textAs idField mode = c.textAs idField mode' := by
  unfold textAs
  cases c.resolved with
  | error cause => rfl
  | ok o =>
    show c.dialect.text _ _ _ = c.dialect.text _ _ _
    cases c.kind <;> rfl

theorem run_run (c : Command) (ch : Channel σ) :
    c.run.run ch
      = (built (c.textAs ch.session.idField fun _ => some .sqlText) >>= fun sql =>
        Dialect.sendCommand sql c.options.output).run ch := by
  have hrun := run_performAs_bind c id pure ch
  rw [bind_pure, c.textAs_congr ch.session.idField id fun _ => some .sqlText] at hrun
  simp only [bind_pure] at hrun
  exact hrun

theorem sends_execute (hd : d.channel.session = session.recorded) (c : Command) :
    Sends session d (c.textAs session.idField fun _ => some .sqlText) (Desk.onSession c.execute) := by
  have hid : d.channel.session.idField = session.idField := by
    rw [hd]
    rfl
  refine sends_onSession hd ?_ fun sql => Session.sent_execute session _ sql
  rw [run_execute, hid, c.textAs_congr session.idField (fun _ => none) fun _ => some .sqlText]

theorem sends_run (hd : d.channel.session = session.recorded) (c : Command)
    (hmode : c.options.output ≠ some .sqlText) :
    Sends session d (c.textAs session.idField fun _ => some .sqlText) (Desk.onSession c.run) := by
  have hid : d.channel.session.idField = session.idField := by
    rw [hd]
    rfl
  have hsent : ∀ sql r, session.Sent r sql (fun _ => True)
      ((Dialect.sendCommand sql c.options.output : SessionM (Recorded σ) Output).run
        ⟨session.recorded, r⟩) := by
    intro sql r
    unfold Dialect.sendCommand
    rw [if_neg hmode]
    exact (Session.sent_execute session r sql).map Output.affected fun _ _ => trivial
  refine sends_onSession hd ?_ fun sql => hsent sql _
  rw [run_run, hid]

end Command

/-! ## Terminals -/

theorem Query.run_sql (q : Query ε) (c : Channel σ) :
    q.sql.run c = match q.text c.session.idField with
      | .error e => (.error (.queryBuild e), c)
      | .ok sql => (.ok sql, c) := by
  cases q with
  | select s =>
    show s.sql.run c = _
    rw [Select.run_sql]
    show (built ((Operation.selectSql s).text c.session.idField)).run c
      = match (Operation.selectSql s).text c.session.idField with
        | .error e => (.error (.queryBuild e), c)
        | .ok sql => (.ok sql, c)
    cases (Operation.selectSql s).text c.session.idField <;> rfl
  | command cmd =>
    show cmd.sql.run c = _
    rw [Command.run_sql]
    show (built (cmd.textAs c.session.idField fun _ => some .sqlText)).run c
      = match cmd.textAs c.session.idField fun _ => some .sqlText with
        | .error e => (.error (.queryBuild e), c)
        | .ok sql => (.ok sql, c)
    cases cmd.textAs c.session.idField fun _ => some .sqlText <;> rfl

namespace Terminal

variable {session : Session σ} {d : Desk (Recorded σ) ε}

theorem shown_error_iff (t : Terminal ε) (idField : String) (e : BuildError) :
    t.shown.text idField = .error e ↔ t.query.text idField = .error e := by
  unfold shown
  cases t.query with
  | command c => rfl
  | select s =>
    cases t.isSingle with
    | false => rfl
    | true => exact s.textOfOne_error_iff idField e

theorem shown_select (t : Terminal ε) {s : Select ε} (h : t.query = .select s) (idField : String) :
    t.shown.text idField
      = if t.isSingle then s.textOfOne idField else (Query.select s).text idField := by
  unfold shown
  rw [h]
  cases t.isSingle <;> rfl

theorem sends_perform (hd : d.channel.session = session.recorded) (t : Terminal ε)
    (ht : t.isPreview = false) : Sends session d (t.shown.text session.idField) t.perform := by
  cases t with
  | rows s => exact (Select.sends_rows hd s).bind fun _ => Desk.keeps_pure none
  | row s => exact (Select.sends_row hd s).bind fun _ => Desk.keeps_pure none
  | objects s => exact (Select.sends_objects hd s).bind fun _ => Desk.keeps_pure none
  | object s => exact (Select.sends_object hd s).bind fun _ => Desk.keeps_pure none
  | run s =>
    have hmode : s.options.output ≠ some .sqlText := of_decide_eq_false ht
    rw [shown_select (.run s) rfl]
    exact (Select.sends_run hd s hmode).bind fun selection => Desk.keeps_pure selection.text?
  | fetch s =>
    have hfetch := Select.sends_opening hd s s.keeps_resumed_fetch
    exact hfetch.bind fun _ => Desk.keeps_pure none
  | next s =>
    have hnext := Select.sends_opening hd s s.keeps_resumed_next
    exact hnext.bind fun _ => Desk.keeps_pure none
  | execute c => exact (Command.sends_execute hd c).bind fun _ => Desk.keeps_pure none
  | runCommand c =>
    have hmode : c.options.output ≠ some .sqlText := of_decide_eq_false ht
    exact (Command.sends_run hd c hmode).bind fun output => Desk.keeps_pure _

theorem run_preview (t : Terminal ε) (ht : t.isPreview = true) (d : Desk σ ε) :
    (t.perform : DeskM σ ε (Option String)).run d
      = match t.shown.text d.channel.session.idField with
        | .error e => (.error (.queryBuild e), d)
        | .ok sql => (.ok (some sql), d) := by
  cases t with
  | run s =>
    have hmode : s.options.output = some .sqlText := of_decide_eq_true ht
    have hsingle : (Terminal.run s).isSingle = false := by
      show Dialect.isSingle (s.options.output.getD .rows) = false
      rw [hmode]
      rfl
    rw [shown_select (.run s) rfl, hsingle, if_neg (by simp)]
    show (s.run >>= fun selection => pure selection.text?).run d = _
    rw [run_bind, s.run_run_sqlText hmode]
    cases (Query.select s).text d.channel.session.idField <;> rfl
  | runCommand c =>
    have hmode : c.options.output = some .sqlText := of_decide_eq_true ht
    show (Desk.onSession c.run >>= _).run d
      = match c.textAs d.channel.session.idField fun _ => some .sqlText with
        | .error e => (.error (.queryBuild e), d)
        | .ok sql => (.ok (some sql), d)
    rw [run_bind, Desk.run_onSession, Command.run_run, run_built_bind]
    cases c.textAs d.channel.session.idField fun _ => some .sqlText with
    | error e => rfl
    | ok sql =>
      unfold Dialect.sendCommand
      simp only [if_pos hmode]
      rfl
  | rows s | row s | objects s | object s | fetch s | next s => cases ht
  | execute c => cases ht

/-- **What is shown is what is sent.**  Asking for the text changes nothing.  If there is none,
carrying the request out fails as asking did, and changes nothing; else it comes back with the text
that is shown for it or, over any connection, sends that text and nothing else. -/
theorem perform_sends (t : Terminal ε) (session : Session σ) (r : Recorded σ)
    (repository : Repository ε) (asked : List String) :
    let c : Channel (Recorded σ) := ⟨session.recorded, r⟩
    let d : Desk (Recorded σ) ε := ⟨c, repository, asked⟩
    (t.query.sql.run c).2 = c ∧
    match (t.query.sql.run c).1 with
    | .error e => t.perform.run d = (.error e, d)
    | .ok _ => ∃ sql, t.shown.sql.run c = (.ok sql, c) ∧
      if t.isPreview then t.perform.run d = (.ok (some sql), d)
      else ∀ connection r₁, session.Attains r connection r₁ →
        (t.perform.run d).2.channel.world.statements = r.statements ++ [sql] := by
  intro c d
  have hd : d.channel.session = session.recorded := rfl
  have hid : c.session.idField = session.idField := rfl
  have hquery := t.query.run_sql c
  have hshown := t.shown.run_sql c
  have hperform := fun ht : t.isPreview = true => t.run_preview ht d
  have herror := t.shown_error_iff session.idField
  rw [hid] at hquery hshown
  cases htext : t.query.text session.idField with
  | error e =>
    have hnone := (herror e).2 htext
    rw [htext] at hquery
    rw [hquery]
    refine ⟨rfl, ?_⟩
    cases ht : t.isPreview with
    | false => exact (t.sends_perform hd ht).unbuilt e hnone
    | true =>
      have hrun := hperform ht
      rw [show d.channel.session.idField = session.idField from rfl, hnone] at hrun
      exact hrun
  | ok text =>
    rw [htext] at hquery
    rw [hquery]
    refine ⟨rfl, ?_⟩
    cases hsql : t.shown.text session.idField with
    | error e =>
      rw [(herror e).1 hsql] at htext
      cases htext
    | ok sql =>
      rw [hsql] at hshown
      refine ⟨sql, hshown, ?_⟩
      cases ht : t.isPreview with
      | false =>
        rw [if_neg (by simp)]
        exact (t.sends_perform hd ht).sent sql hsql
      | true =>
        have hrun := hperform ht
        rw [show d.channel.session.idField = session.idField from rfl, hsql] at hrun
        rw [if_pos rfl]
        exact hrun

/-- One object of a table, on a script that answers everything. -/
theorem perform_sends_one :
    let s : Select Row := { dialect := .mysql, idField := "id", options := { table := some "t" } }
    let session : Session ScriptLog := { name := "a", config := {}, connector := Script.connector {} }
    let r : Recorded ScriptLog := { world := {} }
    let r₁ : Recorded ScriptLog := { world := { connects := 1 }, connects := 1 }
    let d : Desk (Recorded ScriptLog) Row :=
      ⟨⟨session.recorded, r⟩, { ofRow := .ok, table := "t" }, []⟩
    session.Attains r (Script.connection {}) r₁ ∧
      (s.sql.run ⟨session.recorded, r⟩).1 = .ok "SELECT \x60t\x60.* FROM \x60t\x60" ∧
      ((Terminal.object s).perform.run d).2.channel.world.statements
        = ["SELECT \x60t\x60.* FROM \x60t\x60 LIMIT 1"] := by
  intro s session r r₁ d
  have hattains : session.Attains r (Script.connection {}) r₁ := .opened _ _ rfl rfl
  have htext : (s.sql.run ⟨session.recorded, r⟩).1 = .ok "SELECT \x60t\x60.* FROM \x60t\x60" := rfl
  have h := (perform_sends (.object s) session r { ofRow := .ok, table := "t" } []).2
  have hquery : ((Terminal.object s).query.sql.run ⟨session.recorded, r⟩).1
      = .ok "SELECT \x60t\x60.* FROM \x60t\x60" := htext
  rw [hquery] at h
  obtain ⟨sql, hsql, hsent⟩ := h
  have hshown : ((Terminal.object s).shown.sql.run ⟨session.recorded, r⟩).1.toOption
      = some "SELECT \x60t\x60.* FROM \x60t\x60 LIMIT 1" := by decide +kernel
  rw [hsql] at hshown
  cases hshown
  exact ⟨hattains, htext, hsent _ _ hattains⟩

end Terminal

end SqlGateway
