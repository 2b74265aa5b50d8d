import SqlGateway.Proofs.Condition.Flaw
import SqlGateway.Proofs.Request.Preview

/-!
# Drafts

The draft of a request is what decides whether it has a text: its kind, table,
fields and conditions.  A request that cannot be built has a flaw in its draft,
and the first flaw is the failure.  Everything else, the dialect in the first
place, goes into the text and makes no difference to its being there.

    failure? (render d kind id o) = flaw? kind o
    failure? (sql q)              = flaw? (draft q)
-/

namespace SqlGateway

variable {σ ε : Type}

/-! ## Algorithm -/

/-- What is wrong with fields that are not empty. -/
def Fields.flaw? : QueryKind → Fields → Option BuildError
  | .select, .assignments _ | .select, .rows _ => some .assignmentsInSelect
  | .update, .rows _ => some .rowsInUpdate
  | .insert, .list _ => some .listInInsert
  | .insert, .rows [] => some .noField
  | .insert, .rows (first :: rest) =>
    (Dialect.unevenRow? (first.map (·.1)) (first :: rest)).map .unevenRow
  | _, _ => none

/-- A query that writes values cannot do without fields. -/
def QueryKind.noFieldFlaw? : QueryKind → Option BuildError
  | .update | .insert => some .noField
  | .select | .delete => none

namespace QueryOptions

def tableFlaw? (o : QueryOptions) : Option BuildError :=
  if (o.table.bind Text.nonBlank?).isSome then none else some .emptyTable

def fieldsFlaw? (kind : QueryKind) (o : QueryOptions) : Option BuildError :=
  match o.what.filter fun fields => !fields.isEmpty with
  | some fields => fields.flaw? kind
  | none => kind.noFieldFlaw?

def flaw? (kind : QueryKind) (o : QueryOptions) : Option BuildError :=
  o.tableFlaw?.or (o.fieldsFlaw? kind)

end QueryOptions

structure Draft where
  kind : QueryKind
  table : Option String
  what : Option Fields
  conditions : List Condition
  /-- The conditions on groups, which only a select has. -/
  having : List Condition := []

/-- Conditions are written before anything is rendered, those on rows first. -/
def Draft.flaw? (f : Draft) : Option BuildError :=
  ((Condition.firstFlaw? f.conditions).or (Condition.firstFlaw? f.having)).or
    (QueryOptions.flaw? f.kind { table := f.table, what := f.what })

def Query.draft : Query ε → Draft
  | .select s => ⟨.select, s.options.table, s.options.what, s.conditions, s.having⟩
  | .command c => ⟨c.kind.queryKind, c.options.table, c.options.what, c.conditions, []⟩

/-! ## Options -/

theorem QueryOptions.failure?_tableName (o : QueryOptions) :
    failure? o.tableName = o.tableFlaw? := by
  unfold tableName tableFlaw?
  cases o.table.bind Text.nonBlank? <;> rfl

/-- A step that takes the fields, where none are a flaw. -/
theorem QueryOptions.failure?_someFields_bind {α : Type} (o : QueryOptions)
    {f : Fields → Except BuildError α} {kind : QueryKind} (hkind : kind.noFieldFlaw? = some .noField)
    (hf : ∀ fields, fields.isEmpty = false → failure? (f fields) = fields.flaw? kind) :
    failure? (o.someFields >>= f) = o.fieldsFlaw? kind := by
  unfold someFields fieldsFlaw?
  cases o.what with
  | none => exact hkind.symm
  | some fields =>
    cases h : fields.isEmpty with
    | true =>
      simp only [Option.filter_some, h, if_true]
      exact hkind.symm
    | false =>
      simp only [Option.filter_some, h]
      exact hf fields h

/-! ## Clauses -/

namespace Dialect

theorem failure?_selectList (d : Dialect) (o : QueryOptions) (table : String) :
    failure? (d.selectList o table) = o.fieldsFlaw? .select := by
  unfold selectList QueryOptions.fieldsFlaw?
  extract_lets all
  cases o.what with
  | none => rfl
  | some fields =>
    cases h : fields.isEmpty with
    | true =>
      simp only [Option.filter_some, h, if_true]
      rfl
    | false =>
      simp only [Option.filter_some, h]
      cases fields <;> rfl

theorem failure?_setList (d : Dialect) (fields : Fields) :
    failure? (d.setList fields) = fields.flaw? .update := by
  cases fields <;> rfl

theorem failure?_insertValues (d : Dialect) (rows : List (List (String × Value))) :
    failure? (d.insertValues rows) = Fields.flaw? .insert (.rows rows) := by
  cases rows with
  | nil => rfl
  | cons first rest =>
    simp only [insertValues, Fields.flaw?]
    cases unevenRow? (first.map (·.1)) (first :: rest) <;> rfl

/-- One row alone has the shape of the first row. -/
theorem unevenRow?_singleton (row : List (String × Value)) :
    unevenRow? (row.map (·.1)) [row] = none := by
  simp [unevenRow?]

theorem failure?_insertSource (d : Dialect) (fields : Fields) :
    failure? (d.insertSource fields) = fields.flaw? .insert := by
  cases fields with
  | raw sql => rfl
  | list items => rfl
  | rows items => exact d.failure?_insertValues items
  | assignments pairs =>
    have hsingle : failure? (d.insertValues [pairs]) = none := by
      rw [failure?_insertValues]
      simp only [Fields.flaw?, unevenRow?_singleton, Option.map_none]
    cases d with
    | mysql => rfl
    | mssql => exact hsingle
    | pgsql => exact hsingle

/-! ## Statements -/

theorem failure?_renderSelect (d : Dialect) (idField : String) (o : QueryOptions) :
    failure? (d.renderSelect idField o) = o.flaw? .select := by
  unfold renderSelect QueryOptions.flaw?
  rw [← o.failure?_tableName]
  refine failure?_bind fun table => ?_
  rw [← d.failure?_selectList o table, ← Option.or_none (o := failure? (d.selectList o table))]
  refine failure?_bind fun what => ?_
  split <;> rfl

theorem failure?_renderUpdate (d : Dialect) (idField : String) (o : QueryOptions) :
    failure? (d.renderUpdate idField o) = o.flaw? .update := by
  unfold renderUpdate QueryOptions.flaw?
  rw [← o.failure?_tableName]
  refine failure?_bind fun table => o.failure?_someFields_bind rfl fun fields _ => ?_
  rw [← d.failure?_setList fields, ← Option.or_none (o := failure? (d.setList fields))]
  refine failure?_bind fun sets => ?_
  cases d with
  | mysql => rfl
  | mssql => cases o.page? <;> rfl
  | pgsql => rfl

theorem failure?_renderInsert (d : Dialect) (o : QueryOptions) :
    failure? (d.renderInsert o) = o.flaw? .insert := by
  unfold renderInsert QueryOptions.flaw?
  rw [← o.failure?_tableName]
  refine failure?_bind fun table => o.failure?_someFields_bind rfl fun fields _ => ?_
  rw [← d.failure?_insertSource fields, ← Option.or_none (o := failure? (d.insertSource fields))]
  exact failure?_bind fun source => rfl

theorem failure?_renderDelete (d : Dialect) (idField : String) (o : QueryOptions) :
    failure? (d.renderDelete idField o) = o.flaw? .delete := by
  have hfields : o.fieldsFlaw? .delete = none := by
    unfold QueryOptions.fieldsFlaw?
    split
    · next fields _ => cases fields <;> rfl
    · rfl
  unfold renderDelete QueryOptions.flaw?
  rw [← o.failure?_tableName, hfields]
  refine failure?_bind fun table => ?_
  cases d with
  | mysql => rfl
  | mssql => cases o.page? <;> rfl
  | pgsql => rfl

theorem failure?_render (d : Dialect) (kind : QueryKind) (idField : String) (o : QueryOptions) :
    failure? (d.render kind idField o) = o.flaw? kind := by
  cases kind with
  | select => exact d.failure?_renderSelect idField o
  | update => exact d.failure?_renderUpdate idField o
  | insert => exact d.failure?_renderInsert o
  | delete => exact d.failure?_renderDelete idField o

end Dialect

/-- The defaults bring in no table and no fields. -/
theorem QueryOptions.laid_eq (kind : QueryKind) (o : QueryOptions) :
    (o.laid kind).table = o.table ∧ (o.laid kind).what = o.what := by
  have htable : (o.layeredOver (.defaults kind)).table = o.table := by
    show (o.table <|> (defaults kind).table) = o.table
    cases kind <;> cases o.table <;> rfl
  have hwhat : (o.layeredOver (.defaults kind)).what = o.what := by
    show (o.what <|> (defaults kind).what) = o.what
    cases kind <;> cases o.what <;> rfl
  unfold laid
  cases kind with
  | select =>
    dsimp only
    split <;> exact ⟨htable, hwhat⟩
  | update => exact ⟨htable, hwhat⟩
  | insert => exact ⟨htable, hwhat⟩
  | delete => exact ⟨htable, hwhat⟩

theorem Dialect.failure?_text (d : Dialect) (kind : QueryKind) (idField : String)
    (o : QueryOptions) :
    failure? (d.text kind idField o)
      = QueryOptions.flaw? kind { table := o.table, what := o.what } := by
  obtain ⟨htable, hwhat⟩ := o.laid_eq kind
  unfold text
  rw [failure?_render]
  unfold QueryOptions.flaw? QueryOptions.tableFlaw? QueryOptions.fieldsFlaw?
  rw [htable, hwhat]

/-! ## Requests -/

/-- A resolved request has the table and the fields of its options. -/
theorem Request.failure?_resolved_bind {α : Type} (r : Request) {g : Option BuildError}
    {f : QueryOptions → Except BuildError α}
    (hf : ∀ o, o.table = r.options.table → o.what = r.options.what → failure? (f o) = g) :
    failure? (r.resolved >>= f) = (Condition.firstFlaw? r.conditions).or g := by
  unfold resolved
  rw [bind_assoc, ← Condition.failure?_texts r.dialect r.conditions]
  exact failure?_bind fun conditions => hf _ rfl rfl

theorem Command.failure?_textAs (c : Command) (idField : String)
    (mode : Option OutputMode → Option OutputMode) :
    failure? (c.textAs idField mode) = (Query.command c : Query ε).draft.flaw? := by
  have hflaw : (Query.command c : Query ε).draft.flaw?
      = (Condition.firstFlaw? c.conditions).or
        (QueryOptions.flaw? c.kind.queryKind { table := c.options.table, what := c.options.what }) := by
    show ((Condition.firstFlaw? c.conditions).or none).or _ = _
    rw [Option.or_none]
    rfl
  rw [hflaw]
  refine c.failure?_resolved_bind fun o htable hwhat => ?_
  rw [Dialect.failure?_text, htable, hwhat]

theorem Select.failure?_textWith (s : Select ε) (idField : String)
    (f : QueryOptions → QueryOptions) (hf : ∀ o, (f o).table = o.table ∧ (f o).what = o.what) :
    failure? (s.textWith idField f) = (Query.select s).draft.flaw? := by
  unfold textWith resolved
  have hassoc : (Query.select s).draft.flaw?
      = (Condition.firstFlaw? s.conditions).or ((Condition.firstFlaw? s.having).or
        (QueryOptions.flaw? .select { table := s.options.table, what := s.options.what })) :=
    Option.or_assoc
  rw [hassoc, bind_assoc]
  refine s.toRequest.failure?_resolved_bind fun o htable hwhat => ?_
  rw [bind_assoc, ← Condition.failure?_texts s.dialect s.having]
  refine failure?_bind fun having => ?_
  obtain ⟨hftable, hfwhat⟩ := hf { o with having }
  show failure? (s.dialect.text .select idField (f { o with having })) = _
  rw [Dialect.failure?_text, hftable, hfwhat, htable, hwhat]

theorem Query.failure?_text (q : Query ε) (idField : String) :
    failure? (q.text idField) = q.draft.flaw? := by
  cases q with
  | select s =>
    exact s.failure?_textWith idField (fun o => { o with output := some .sqlText })
      fun o => ⟨rfl, rfl⟩
  | command c => exact c.failure?_textAs idField fun _ => some .sqlText

/-- Asking for the text of a request fails with the flaw of its draft. -/
theorem Query.failure?_sql (q : Query ε) (c : Channel σ) :
    failure? (q.sql.run c).1 = q.draft.flaw?.map .queryBuild := by
  rw [q.run_sql c, ← q.failure?_text c.session.idField]
  cases q.text c.session.idField <;> rfl

/-- **The same failure in every dialect.**  A condition and the options of a query fail in one
dialect as in any other.  So do two requests of one draft, for adapters of any two dialects and
over any two sessions, and a failure to build is all that there can be. -/
theorem failure?_same {σ' ε' : Type} :
    (∀ (c : Condition) (d d' : Dialect), failure? (c.text d) = failure? (c.text d')) ∧
    (∀ (kind : QueryKind) (o : QueryOptions) (d d' : Dialect) (idField idField' : String),
      failure? (d.render kind idField o) = failure? (d'.render kind idField' o)) ∧
    ∀ (q : Query ε) (q' : Query ε'), q.draft = q'.draft →
      ∀ (c : Channel σ) (c' : Channel σ'),
        failure? (q.sql.run c).1 = failure? (q'.sql.run c').1 ∧
          ∀ e, (q.sql.run c).1 = .error e → e.isQueryBuild = true := by
  refine ⟨?_, ?_, ?_⟩
  · intro c d d'
    rw [c.failure?_text d, c.failure?_text d']
  · intro kind o d d' idField idField'
    rw [d.failure?_render, d'.failure?_render]
  · intro q q' hdraft c c'
    have hq := q.failure?_sql c
    refine ⟨?_, ?_⟩
    · rw [hq, hdraft, q'.failure?_sql c']
    · intro e he
      rw [he] at hq
      obtain ⟨cause, -, rfl⟩ := Option.map_eq_some_iff.1 hq.symm
      rfl

/-- A join names its columns as the dialect quotes them, and a group without items stays what is
wrong. -/
theorem failure?_same_joined :
    let s (d : Dialect) : Select Row := Select.joinSmart
      { dialect := d, idField := "id", options := { table := some "t" }, conditions := [.or []] }
      "u" none none "t_id" true
    let c : Channel ScriptLog := ⟨{ name := "a", config := {}, connector := Script.connector {} }, {}⟩
    (Query.select (s .mysql)).draft = (Query.select (s .mssql)).draft ∧
      ((s .mssql).sql.run c).1 = .error (.queryBuild (.emptyGroup .or)) ∧
      ((s .mysql).sql.run c).1 = .error (.queryBuild (.emptyGroup .or)) ∧
      (SqlError.queryBuild (.emptyGroup .or)).isQueryBuild = true := by
  intro s c
  have hdraft : (Query.select (s .mysql)).draft = (Query.select (s .mssql)).draft := rfl
  have hmssql : ((Query.select (s .mssql)).sql.run c).1
      = .error (.queryBuild (.emptyGroup .or)) := rfl
  obtain ⟨hsame, hkind⟩ :=
    failure?_same.2.2 (Query.select (s .mysql)) (Query.select (s .mssql)) hdraft c c
  rw [hmssql] at hsame
  have hmysql := failure?_eq_some_iff.1 hsame
  exact ⟨hdraft, hmssql, hmysql, hkind _ hmysql⟩

end SqlGateway
