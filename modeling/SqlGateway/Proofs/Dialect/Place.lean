import SqlGateway.Proofs.Sql.Insertion
import SqlGateway.Proofs.Steps

/-!
# Places of conditions

A statement other than an insert is a frame of text with a place for its
conditions, and a select has a second place for those on groups.  The frame
knows nothing of what is put there; in a place stand the conditions that are
not blank, trimmed and in order, each once.

    render d kind id { o with conditions, having }
      = before ++ clauseText "WHERE" conditions ++ between ++ clauseText "HAVING" having ++ after
-/

namespace SqlGateway

/-! ## Algorithm -/

/-- The parts, each behind a blank. -/
def trailed (parts : List String) : String :=
  .ofList (Sql.spaced parts)

/-- The conditions behind a keyword; nothing when all of them are blank. -/
def clauseText (word : String) (conditions : List String) : String :=
  match (conditions.filter fun c => !Text.isBlankText c).map Text.trim with
  | [] => ""
  | texts => " " ++ word ++ " " ++ " AND ".intercalate texts

/-- A text with a place for the conditions on rows and one for those on groups. -/
structure Frame where
  before : String
  between : String := ""
  after : String

/-- Only a select has conditions on groups. -/
def Frame.text (f : Frame) (kind : QueryKind) (conditions having : List String) : String :=
  let groups := if kind = .select then clauseText "HAVING" having else ""
  f.before ++ clauseText "WHERE" conditions ++ f.between ++ groups ++ f.after

namespace Dialect

/-- What a select reads its rows from. -/
def sourceText (d : Dialect) (o : QueryOptions) (table : String) : String :=
  d.tableSql table ++ trailed (aliasPart o ++ d.joinClause o.joins)

def columnsText (o : QueryOptions) (what : String) : String :=
  trailed (flagged o.distinct "DISTINCT") ++ " " ++ what

def selectFrame (d : Dialect) (idField : String) (o : QueryOptions) (table what : String) : Frame :=
  match d, o.page? with
  | .mssql, some page =>
    { before := "SELECT * FROM (SELECT" ++ columnsText o (what ++ ", " ++ rowNumberColumn idField o)
        ++ " FROM " ++ sourceText .mssql o table
      between := trailed (groupByClause o)
      after := ") AS a WHERE a.rownum " ++ page.rowBound }
  | d, _ =>
    { before := "SELECT" ++ columnsText o what ++ " FROM " ++ d.sourceText o table
      between := trailed (groupByClause o)
      after := trailed (orderByClause o ++ d.limitClause o) }

/-- The numbered rows of a table, up to the conditions on them. -/
def numberedText (idField : String) (o : QueryOptions) (target : String) : String :=
  "WITH a AS (SELECT *, " ++ rowNumberColumn idField o ++ " FROM " ++ target

def updateFrame (d : Dialect) (idField : String) (o : QueryOptions) (target sets : String) :
    Frame :=
  match d, o.page? with
  | .mysql, _ =>
    { before := sentence (["UPDATE"] ++ flagged o.lowPriority "LOW_PRIORITY"
        ++ flagged o.ignore "IGNORE" ++ [target, "SET", sets])
      after := trailed (orderByClause o ++ rowCountClause o) }
  | .mssql, some page =>
    { before := numberedText idField o target
      after := ") UPDATE a SET " ++ sets ++ " WHERE a.rownum " ++ page.rowBound }
  | .mssql, none => { before := sentence ["UPDATE", target, "SET", sets], after := "" }
  | .pgsql, _ =>
    { before := sentence (["UPDATE"] ++ flagged o.only "ONLY" ++ [target, "SET", sets])
      after := "" }

def deleteFrame (d : Dialect) (idField : String) (o : QueryOptions) (target : String) : Frame :=
  match d, o.page? with
  | .mysql, _ =>
    { before := sentence (["DELETE"] ++ flagged o.lowPriority "LOW_PRIORITY"
        ++ flagged o.quick "QUICK" ++ flagged o.ignore "IGNORE" ++ ["FROM", target])
      after := trailed (orderByClause o ++ rowCountClause o) }
  | .mssql, some page =>
    { before := numberedText idField o target
      after := ") DELETE FROM a WHERE a.rownum " ++ page.rowBound }
  | .mssql, none => { before := sentence ["DELETE FROM", target], after := "" }
  | .pgsql, _ =>
    { before := sentence (["DELETE FROM"] ++ flagged o.only "ONLY" ++ [target]), after := "" }

/-- The frame of a statement; an insert has none and takes no conditions. -/
def frame (d : Dialect) (kind : QueryKind) (idField : String) (o : QueryOptions) :
    Except BuildError Frame := do
  let table ← o.tableName
  match kind with
  | .select => return d.selectFrame idField o table (← d.selectList o table)
  | .update =>
    let fields ← o.someFields
    return d.updateFrame idField o (d.quoteIdentifier table) (← d.setList fields)
  | .delete => return d.deleteFrame idField o (d.quoteIdentifier table)
  | .insert => return { before := "", after := "" }

end Dialect

/-- The conditions stand in the query whose rows are numbered, directly behind what it reads them
from. -/
def Frame.IsNumbered (f : Frame) (kind : QueryKind) (idField : String) (o : QueryOptions)
    (page : Page) : Prop :=
  ∃ table columns closing, o.tableName = .ok table ∧
    f.before = (if kind = .select then "SELECT * FROM" else "WITH a AS") ++ " (SELECT" ++ columns
      ++ ", " ++ Dialect.rowNumberColumn idField o ++ " FROM "
      ++ (if kind = .select then Dialect.sourceText .mssql o table
        else Dialect.quoteIdentifier .mssql table) ∧
    f.between = (if kind = .select then trailed (groupByClause o) else "") ∧
    f.after = ")" ++ closing ++ " WHERE a.rownum " ++ page.rowBound

/-! ## Clauses -/

theorem trailed_nil : trailed [] = "" := rfl

theorem trailed_cons (p : String) (ps : List String) :
    trailed (p :: ps) = " " ++ p ++ trailed ps := by
  apply String.toList_injective
  simp [trailed, Sql.spaced]

theorem trailed_append (ps qs : List String) : trailed (ps ++ qs) = trailed ps ++ trailed qs := by
  apply String.toList_injective
  simp [trailed, Sql.spaced_append]

theorem filterMap_nonBlank? (cs : List String) :
    cs.filterMap Text.nonBlank? = (cs.filter fun c => !Text.isBlankText c).map Text.trim := by
  induction cs with
  | nil => rfl
  | cons c cs ih =>
    rw [List.filterMap_cons, List.filter_cons, Text.nonBlank?]
    cases Text.isBlankText c <;> simp [ih]

theorem trailed_joined (word : String) (cs : List String) :
    trailed ((joinedConditions? cs).toList.map ((word ++ " ") ++ ·)) = clauseText word cs := by
  unfold joinedConditions? clauseText
  rw [filterMap_nonBlank?]
  cases (cs.filter fun c => !Text.isBlankText c).map Text.trim with
  | nil => rfl
  | cons text texts =>
    show trailed [word ++ " " ++ _] = _
    simp only [trailed_cons, trailed_nil, String.append_empty, String.append_assoc]

theorem trailed_whereClause (cs : List String) :
    trailed (whereClause cs) = clauseText "WHERE" cs :=
  trailed_joined "WHERE" cs

theorem trailed_havingClause (cs : List String) :
    trailed (havingClause cs) = clauseText "HAVING" cs := by
  rw [havingClause_eq]
  exact trailed_joined "HAVING" cs

namespace Dialect

theorem sentence_cons (p : String) (ps : List String) : sentence (p :: ps) = p ++ trailed ps := by
  apply String.toList_injective
  rw [Sql.toList_sentence, String.toList_append, trailed, String.toList_ofList]

theorem sentence_append_trailed {ps : List String} (h : ps ≠ []) (qs : List String) :
    sentence (ps ++ qs) = sentence ps ++ trailed qs := by
  obtain ⟨p, ps, rfl⟩ := List.exists_cons_of_ne_nil h
  rw [List.cons_append, sentence_cons, sentence_cons, trailed_append, String.append_assoc]

theorem sentence_selectHead (d : Dialect) (o : QueryOptions) (table what : String)
    (rest : List String) :
    sentence (d.selectHead o table what ++ rest)
      = "SELECT" ++ columnsText o what ++ " FROM " ++ d.sourceText o table
        ++ clauseText "WHERE" o.conditions ++ trailed (groupByClause o)
        ++ clauseText "HAVING" o.having ++ trailed rest := by
  have hfrom : (" FROM " : String) = " " ++ ("FROM" ++ " ") := rfl
  unfold selectHead columnsText sourceText
  simp only [List.append_assoc, sentence_cons, trailed_append, trailed_cons, List.cons_append,
    List.nil_append, trailed_whereClause, trailed_havingClause, hfrom, String.append_assoc]

/-- A sentence with conditions and perhaps clauses behind them. -/
theorem sentence_framed {kind : QueryKind} (hkind : kind ≠ .select) {words : List String}
    (hne : words ≠ []) (conditions having rest : List String) :
    sentence (words ++ whereClause conditions ++ rest)
      = Frame.text { before := sentence words, after := trailed rest } kind conditions having := by
  rw [List.append_assoc, sentence_append_trailed hne, trailed_append, trailed_whereClause,
    Frame.text, if_neg hkind]
  simp only [String.append_empty, String.append_assoc]

theorem sentence_framed_last {kind : QueryKind} (hkind : kind ≠ .select) {words : List String}
    (hne : words ≠ []) (conditions having : List String) :
    sentence (words ++ whereClause conditions)
      = Frame.text { before := sentence words, after := "" } kind conditions having := by
  have h := sentence_framed hkind hne conditions having []
  rwa [List.append_nil] at h

theorem numberedRows_framed {kind : QueryKind} (hkind : kind ≠ .select) (idField : String)
    (o : QueryOptions) (table after : String) :
    numberedRows .mssql idField o table ++ after
      = Frame.text { before := numberedText idField o (quoteIdentifier .mssql table)
                     after := ")" ++ after } kind o.conditions o.having := by
  have hfrom : (" FROM " : String) = " " ++ ("FROM" ++ " ") := rfl
  have hwith : ("WITH a AS (SELECT *, " : String) = "WITH a AS (" ++ "SELECT *, " := rfl
  rw [Frame.text, if_neg hkind]
  unfold numberedRows numberedText
  simp only [List.cons_append, List.nil_append, sentence_cons, trailed_cons, trailed_whereClause,
    hfrom, hwith, String.append_assoc, String.empty_append]

/-! ## Statements -/

section

variable (d : Dialect) (idField : String) (o : QueryOptions)

theorem renderSelect_framed :
    d.renderSelect idField o
      = (d.frame .select idField o).map fun f => f.text .select o.conditions o.having := by
  unfold renderSelect frame
  refine bind_eq_map_bind fun table => ?_
  refine bind_eq_map_bind fun what => ?_
  have hplain : sentence (d.selectHead o table what ++ orderByClause o ++ d.limitClause o)
      = Frame.text
        { before := "SELECT" ++ columnsText o what ++ " FROM " ++ d.sourceText o table
          between := trailed (groupByClause o)
          after := trailed (orderByClause o ++ d.limitClause o) } .select o.conditions o.having := by
    rw [List.append_assoc, sentence_selectHead]
    rfl
  unfold selectFrame
  cases d with
  | mysql => exact congrArg Except.ok hplain
  | pgsql => exact congrArg Except.ok hplain
  | mssql =>
    cases o.page? with
    | none => exact congrArg Except.ok hplain
    | some page =>
      have hopen : ("SELECT * FROM (SELECT" : String) = "SELECT * FROM (" ++ "SELECT" := rfl
      have hhead := sentence_selectHead .mssql o table (what ++ ", " ++ rowNumberColumn idField o) []
      rw [List.append_nil, trailed_nil, String.append_empty] at hhead
      show Except.ok ("SELECT * FROM (" ++ sentence _ ++ ") AS a WHERE a.rownum " ++ page.rowBound)
        = Except.ok (Frame.text _ .select _ _)
      rw [hhead, Frame.text, if_pos rfl]
      simp only [hopen, String.append_assoc]

theorem renderUpdate_framed :
    d.renderUpdate idField o
      = (d.frame .update idField o).map fun f => f.text .update o.conditions o.having := by
  have hkind : QueryKind.update ≠ .select := by decide
  unfold renderUpdate frame
  refine bind_eq_map_bind fun table => ?_
  refine bind_eq_map_bind fun fields => ?_
  refine bind_eq_map_bind fun sets => ?_
  unfold updateFrame
  cases d with
  | mysql =>
    refine congrArg Except.ok ?_
    rw [List.append_assoc _ (orderByClause o)]
    exact sentence_framed hkind (by simp) o.conditions o.having _
  | pgsql => exact congrArg Except.ok (sentence_framed_last hkind (by simp) o.conditions o.having)
  | mssql =>
    cases o.page? with
    | none => exact congrArg Except.ok (sentence_framed_last hkind (by simp) o.conditions o.having)
    | some page =>
      have hclose : (") UPDATE a SET " : String) = ")" ++ " UPDATE a SET " := rfl
      refine congrArg Except.ok ?_
      rw [String.append_assoc, String.append_assoc, String.append_assoc, numberedRows_framed hkind]
      simp only [hclose, String.append_assoc]

theorem renderDelete_framed :
    d.renderDelete idField o
      = (d.frame .delete idField o).map fun f => f.text .delete o.conditions o.having := by
  have hkind : QueryKind.delete ≠ .select := by decide
  unfold renderDelete frame
  refine bind_eq_map_bind fun table => ?_
  unfold deleteFrame
  cases d with
  | mysql =>
    refine congrArg Except.ok ?_
    rw [List.append_assoc _ (orderByClause o)]
    exact sentence_framed hkind (by simp) o.conditions o.having _
  | pgsql => exact congrArg Except.ok (sentence_framed_last hkind (by simp) o.conditions o.having)
  | mssql =>
    cases o.page? with
    | none => exact congrArg Except.ok (sentence_framed_last hkind (by simp) o.conditions o.having)
    | some page =>
      have hclose : (") DELETE FROM a WHERE a.rownum " : String)
        = ")" ++ " DELETE FROM a WHERE a.rownum " := rfl
      refine congrArg Except.ok ?_
      rw [String.append_assoc, numberedRows_framed hkind]
      simp only [hclose, String.append_assoc]

/-- Every statement but an insert is its frame with the conditions in place. -/
theorem render_framed {kind : QueryKind} (hkind : kind ≠ .insert) :
    d.render kind idField o
      = (d.frame kind idField o).map fun f => f.text kind o.conditions o.having := by
  cases kind with
  | select => exact renderSelect_framed d idField o
  | update => exact renderUpdate_framed d idField o
  | delete => exact renderDelete_framed d idField o
  | insert => exact absurd rfl hkind

end

/-- The frame has no condition in it. -/
theorem frame_conditions (d : Dialect) (kind : QueryKind) (idField : String) (o : QueryOptions)
    (conditions having : List String) :
    d.frame kind idField { o with conditions, having } = d.frame kind idField o := rfl

section

variable {idField : String} {o : QueryOptions} {page : Page} {table : String}

theorem isNumbered_selectFrame (hpage : o.page? = some page) (ht : o.tableName = .ok table)
    (what : String) :
    (selectFrame .mssql idField o table what).IsNumbered .select idField o page := by
  have hopen : ("SELECT * FROM (SELECT" : String) = "SELECT * FROM" ++ " (SELECT" := rfl
  have hclose : (") AS a WHERE a.rownum " : String) = ")" ++ " AS a" ++ " WHERE a.rownum " := rfl
  simp only [selectFrame, hpage]
  refine ⟨table, columnsText o what, " AS a", ht, ?_, rfl, congrArg (· ++ page.rowBound) hclose⟩
  simp only [columnsText, hopen, if_pos, String.append_assoc]

theorem isNumbered_updateFrame (hpage : o.page? = some page) (ht : o.tableName = .ok table)
    (sets : String) :
    (updateFrame .mssql idField o (quoteIdentifier .mssql table) sets).IsNumbered .update idField o
      page := by
  have hclose : (") UPDATE a SET " : String) = ")" ++ " UPDATE a SET " := rfl
  simp only [updateFrame, hpage]
  refine ⟨table, " *", " UPDATE a SET " ++ sets, ht, rfl, rfl, ?_⟩
  simp only [hclose, String.append_assoc]

theorem isNumbered_deleteFrame (hpage : o.page? = some page) (ht : o.tableName = .ok table) :
    (deleteFrame .mssql idField o (quoteIdentifier .mssql table)).IsNumbered .delete idField o
      page := by
  have hclose : (") DELETE FROM a WHERE a.rownum " : String)
    = ")" ++ " DELETE FROM a" ++ " WHERE a.rownum " := rfl
  simp only [deleteFrame, hpage]
  exact ⟨table, " *", " DELETE FROM a", ht, rfl, rfl, congrArg (· ++ page.rowBound) hclose⟩

theorem isNumbered_frame {kind : QueryKind} (hkind : kind ≠ .insert) {f : Frame}
    (hpage : o.page? = some page) (hf : frame .mssql kind idField o = .ok f) :
    f.IsNumbered kind idField o page := by
  unfold frame at hf
  obtain ⟨table, ht, hf⟩ := bind_eq_ok_iff.1 hf
  cases kind with
  | insert => exact absurd rfl hkind
  | select =>
    obtain ⟨what, -, hf⟩ := bind_eq_ok_iff.1 hf
    cases hf
    exact isNumbered_selectFrame hpage ht what
  | update =>
    obtain ⟨fields, -, hf⟩ := bind_eq_ok_iff.1 hf
    obtain ⟨sets, -, hf⟩ := bind_eq_ok_iff.1 hf
    cases hf
    exact isNumbered_updateFrame hpage ht sets
  | delete =>
    cases hf
    exact isNumbered_deleteFrame hpage ht

end

/-- **Places of conditions.**  A statement that is written for some conditions is written for all,
as one frame with the conditions in their places; where SQL Server numbers rows, the places are in
the query whose rows it numbers. -/
theorem render_places_conditions (d : Dialect) {kind : QueryKind} (hkind : kind ≠ .insert)
    (idField : String) (o : QueryOptions) (h : ∃ text, d.render kind idField o = .ok text) :
    ∃ f : Frame,
      (∀ conditions having, d.render kind idField { o with conditions, having }
        = .ok (f.text kind conditions having)) ∧
      ∀ page, d = .mssql → o.page? = some page → f.IsNumbered kind idField o page := by
  obtain ⟨text, htext⟩ := h
  rw [render_framed d idField o hkind] at htext
  cases hf : d.frame kind idField o with
  | error e =>
    rw [hf] at htext
    cases htext
  | ok f =>
    refine ⟨f, ?_, ?_⟩
    · intro conditions having
      rw [render_framed d idField _ hkind, frame_conditions, hf]
      rfl
    · rintro page rfl hpage
      exact isNumbered_frame hkind hpage hf

/-- The second page of a grouped query in SQL Server: a blank condition leaves nothing behind, and a
`WHERE` in a condition on groups is text like any other. -/
theorem render_places_conditions_numbered :
    QueryKind.select ≠ .insert ∧
    ∃ f : Frame,
      f.IsNumbered .select "id"
        { table := some "t", groupBy := some "b", number := some 5, offset := some 5 } ⟨5, 5⟩ ∧
      f.text .select [" ", " a = 1", "b = 2 "] ["b IN (SELECT c FROM u WHERE d)"]
        = "SELECT * FROM (SELECT \"t\".*, ROW_NUMBER() OVER(ORDER BY id) AS rownum FROM \"t\"" ++
          " WHERE a = 1 AND b = 2 GROUP BY b HAVING b IN (SELECT c FROM u WHERE d)) AS a" ++
          " WHERE a.rownum BETWEEN 5 AND 10" := by
  have hkind : QueryKind.select ≠ .insert := by decide
  obtain ⟨f, htext, hnumbered⟩ := render_places_conditions .mssql hkind "id"
    { table := some "t", groupBy := some "b", number := some 5, offset := some 5 } ⟨_, rfl⟩
  refine ⟨hkind, f, hnumbered ⟨5, 5⟩ rfl rfl, ?_⟩
  refine Except.ok.inj ((htext _ _).symm.trans ?_)
  decide +kernel

end Dialect

end SqlGateway
