import SqlGateway.Proofs.Steps
import SqlGateway.Request.Select

/-!
# Causes of the text

What can be wrong with the text of a query.  Nothing that shows only when a
query has run is among it, and the text is all that a failure to resolve a
request or to render its options speaks of.

    render d k id o = .error e    implies   e.isOfText
    resolved r = .error e         implies   e.isOfText
-/

namespace SqlGateway

/-! ## Causes -/

/-- Causes that a query text shows before it is sent. -/
def BuildError.isOfText : BuildError → Bool
  | .emptyTable | .noField | .assignmentsInSelect | .rowsInUpdate | .listInInsert | .unevenRow _
  | .emptyGroup _ | .blankIdentifier => true
  | _ => false

/-- Whatever fails here fails for its text. -/
def FailsOfText {α : Type} (r : Except BuildError α) : Prop :=
  ∀ e, r = .error e → e.isOfText = true

section

variable {α β : Type}

theorem failsOfText_ok (a : α) : FailsOfText (.ok a) := by
  intro e h
  cases h

theorem failsOfText_error {e : BuildError} (h : e.isOfText = true) :
    FailsOfText (.error e : Except BuildError α) := by
  intro e' h'
  cases h'
  exact h

theorem FailsOfText.bind {r : Except BuildError α} {f : α → Except BuildError β}
    (hr : FailsOfText r) (hf : ∀ a, FailsOfText (f a)) : FailsOfText (r >>= f) := by
  intro e h
  cases r with
  | error e' =>
    cases h
    exact hr e rfl
  | ok a => exact hf a e h

end

/-! ## Options and clauses -/

theorem QueryOptions.failsOfText_tableName (o : QueryOptions) : FailsOfText o.tableName := by
  unfold tableName
  split
  · exact failsOfText_ok _
  · exact failsOfText_error rfl

theorem QueryOptions.failsOfText_someFields (o : QueryOptions) : FailsOfText o.someFields := by
  unfold someFields
  split
  · split
    · exact failsOfText_error rfl
    · exact failsOfText_ok _
  · exact failsOfText_error rfl

namespace Dialect

theorem failsOfText_selectList (d : Dialect) (o : QueryOptions) (table : String) :
    FailsOfText (d.selectList o table) := by
  unfold selectList
  extract_lets all
  cases o.what with
  | none => exact failsOfText_ok all
  | some fields =>
    by_cases h : fields.isEmpty
    · simp only [h, if_true]
      exact failsOfText_ok all
    · simp only [h]
      cases fields with
      | raw sql => exact failsOfText_ok _
      | list items => exact failsOfText_ok _
      | assignments pairs => exact failsOfText_error rfl
      | rows items => exact failsOfText_error rfl

theorem failsOfText_setList (d : Dialect) (fields : Fields) : FailsOfText (d.setList fields) := by
  cases fields with
  | raw sql => exact failsOfText_ok _
  | list items => exact failsOfText_ok _
  | assignments pairs => exact failsOfText_ok _
  | rows items => exact failsOfText_error rfl

theorem failsOfText_insertValues (d : Dialect) (rows : List (List (String × Value))) :
    FailsOfText (d.insertValues rows) := by
  unfold insertValues
  split
  · exact failsOfText_error rfl
  · next first rest =>
    extract_lets columns
    cases unevenRow? columns (first :: rest) with
    | some index => exact failsOfText_error rfl
    | none => exact failsOfText_ok _

theorem failsOfText_insertSource (d : Dialect) (fields : Fields) :
    FailsOfText (d.insertSource fields) := by
  cases fields with
  | raw sql => exact failsOfText_ok _
  | list items => exact failsOfText_error rfl
  | assignments pairs =>
    cases d with
    | mysql => exact failsOfText_ok _
    | mssql => exact failsOfText_insertValues .mssql [pairs]
    | pgsql => exact failsOfText_insertValues .pgsql [pairs]
  | rows items => exact failsOfText_insertValues d items

/-! ## Statements -/

theorem failsOfText_renderSelect (d : Dialect) (idField : String) (o : QueryOptions) :
    FailsOfText (d.renderSelect idField o) := by
  unfold renderSelect
  refine (QueryOptions.failsOfText_tableName o).bind fun table => ?_
  refine (failsOfText_selectList d o table).bind fun what => ?_
  split
  · exact failsOfText_ok _
  · exact failsOfText_ok _

theorem failsOfText_renderUpdate (d : Dialect) (idField : String) (o : QueryOptions) :
    FailsOfText (d.renderUpdate idField o) := by
  unfold renderUpdate
  refine (QueryOptions.failsOfText_tableName o).bind fun table => ?_
  refine (QueryOptions.failsOfText_someFields o).bind fun fields => ?_
  refine (failsOfText_setList d fields).bind fun sets => ?_
  cases d with
  | mysql => exact failsOfText_ok _
  | mssql => cases o.page? <;> exact failsOfText_ok _
  | pgsql => exact failsOfText_ok _

theorem failsOfText_renderInsert (d : Dialect) (o : QueryOptions) :
    FailsOfText (d.renderInsert o) := by
  unfold renderInsert
  refine (QueryOptions.failsOfText_tableName o).bind fun table => ?_
  refine (QueryOptions.failsOfText_someFields o).bind fun fields => ?_
  exact (failsOfText_insertSource d fields).bind fun source => failsOfText_ok _

theorem failsOfText_renderDelete (d : Dialect) (idField : String) (o : QueryOptions) :
    FailsOfText (d.renderDelete idField o) := by
  unfold renderDelete
  refine (QueryOptions.failsOfText_tableName o).bind fun table => ?_
  cases d with
  | mysql => exact failsOfText_ok _
  | mssql => cases o.page? <;> exact failsOfText_ok _
  | pgsql => exact failsOfText_ok _

theorem failsOfText_render (d : Dialect) (kind : QueryKind) (idField : String)
    (o : QueryOptions) : FailsOfText (d.render kind idField o) := by
  cases kind with
  | select => exact failsOfText_renderSelect d idField o
  | update => exact failsOfText_renderUpdate d idField o
  | insert => exact failsOfText_renderInsert d o
  | delete => exact failsOfText_renderDelete d idField o

end Dialect

/-! ## Conditions -/

theorem Term.failsOfText_text (t : Term) (d : Dialect) : FailsOfText (t.text d) := by
  unfold text
  split
  · exact failsOfText_error rfl
  · split
    · exact failsOfText_ok _
    · exact failsOfText_ok _

namespace Condition

mutual

theorem failsOfText_text (d : Dialect) (c : Condition) : FailsOfText (text d c) := by
  cases c with
  | raw sql =>
    unfold text
    exact failsOfText_ok _
  | term t =>
    unfold text
    exact Term.failsOfText_text t d
  | or items =>
    cases items with
    | nil =>
      unfold text
      exact failsOfText_error rfl
    | cons c cs =>
      unfold text
      refine (failsOfText_text d c).bind fun first => ?_
      exact (failsOfText_texts d cs).bind fun rest => failsOfText_ok _
  | and items =>
    cases items with
    | nil =>
      unfold text
      exact failsOfText_error rfl
    | cons c cs =>
      unfold text
      refine (failsOfText_text d c).bind fun first => ?_
      exact (failsOfText_texts d cs).bind fun rest => failsOfText_ok _

theorem failsOfText_texts (d : Dialect) (cs : List Condition) : FailsOfText (texts d cs) := by
  cases cs with
  | nil =>
    unfold texts
    exact failsOfText_ok _
  | cons c cs =>
    unfold texts
    refine (failsOfText_text d c).bind fun first => ?_
    exact (failsOfText_texts d cs).bind fun rest => failsOfText_ok _

end

end Condition

theorem Request.failsOfText_resolved (r : Request) : FailsOfText r.resolved := by
  unfold resolved
  exact (Condition.failsOfText_texts r.dialect r.conditions).bind fun cs => failsOfText_ok _

theorem Select.failsOfText_resolved {ε : Type} (s : Select ε) : FailsOfText s.resolved := by
  unfold resolved
  refine (Request.failsOfText_resolved s.toRequest).bind fun o => ?_
  exact (Condition.failsOfText_texts s.dialect s.having).bind fun having => failsOfText_ok _

end SqlGateway
