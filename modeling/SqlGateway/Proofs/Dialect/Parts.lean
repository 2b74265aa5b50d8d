import SqlGateway.Proofs.Dialect.Place

/-!
# Parts of statements

What a statement writes or reads, and each join of a select, stands in one
place of the text.  All that is around it is the same whatever the part is.

    render d o = before ++ part ++ after,   with before and after the same for every part
-/

namespace SqlGateway

theorem QueryOptions.someFields_eq {o : QueryOptions} {fields : Fields} (h : o.what = some fields)
    (hne : fields.isEmpty = false) : o.someFields = .ok fields := by
  simp [someFields, h, hne]

theorem QueryOptions.what_of_someFields {o : QueryOptions} {fields : Fields}
    (h : o.someFields = .ok fields) : o.what = some fields ∧ fields.isEmpty = false := by
  unfold someFields at h
  split at h
  · next fields' hwhat =>
    split at h
    · cases h
    · next hne =>
      cases h
      exact ⟨hwhat, by simpa using hne⟩
  · cases h

namespace Dialect

/-! ## Algorithm -/

/-- A select up to its FROM. -/
def openingText (d : Dialect) (idField : String) (o : QueryOptions) (what : String) : String :=
  match d, o.page? with
  | .mssql, some _ =>
    "SELECT * FROM (SELECT" ++ columnsText o (what ++ ", " ++ rowNumberColumn idField o)
  | _, _ => "SELECT" ++ columnsText o what

/-- A select from its order on, or from the end of the query whose rows are numbered. -/
def closingText (d : Dialect) (o : QueryOptions) : String :=
  match d, o.page? with
  | .mssql, some page => ") AS a WHERE a.rownum " ++ page.rowBound
  | d, _ => trailed (orderByClause o ++ d.limitClause o)

/-! ## Updates -/

/-- What an update sets stands in the frame of its conditions. -/
theorem updateFrame_around (d : Dialect) (idField : String) (o : QueryOptions) (target : String) :
    ∃ before after, ∀ sets, (d.updateFrame idField o target sets).text .update o.conditions o.having
      = before ++ sets ++ after := by
  have hwords : ∀ words : List String, words ≠ [] → ∀ after, ∃ front back, ∀ sets,
      Frame.text { before := sentence (words ++ ["SET", sets]), after } .update o.conditions
        o.having = front ++ sets ++ back := by
    intro words hne after
    refine ⟨sentence words ++ " " ++ "SET" ++ " ", clauseText "WHERE" o.conditions ++ after,
      fun sets => ?_⟩
    rw [sentence_append_trailed hne, trailed_cons, trailed_cons, trailed_nil, Frame.text,
      if_neg (by decide)]
    simp only [String.append_assoc, String.append_empty]
  unfold updateFrame
  cases d with
  | mysql =>
    have h := hwords (["UPDATE"] ++ flagged o.lowPriority "LOW_PRIORITY"
      ++ flagged o.ignore "IGNORE" ++ [target]) (by simp)
      (trailed (orderByClause o ++ rowCountClause o))
    simpa only [List.append_assoc, List.cons_append, List.nil_append] using h
  | pgsql =>
    have h := hwords (["UPDATE"] ++ flagged o.only "ONLY" ++ [target]) (by simp) ""
    simpa only [List.append_assoc, List.cons_append, List.nil_append] using h
  | mssql =>
    cases o.page? with
    | none => exact hwords ["UPDATE", target] (by simp) ""
    | some page =>
      refine ⟨numberedText idField o target ++ clauseText "WHERE" o.conditions ++ ") UPDATE a SET ",
        " WHERE a.rownum " ++ page.rowBound, fun sets => ?_⟩
      simp [Frame.text, String.append_assoc]

/-- Whatever an update sets, it stands in the same place. -/
theorem renderUpdate_place (d : Dialect) (idField : String) {o : QueryOptions} {table : String}
    (htable : o.tableName = .ok table) :
    ∃ before after, ∀ (fields : Fields) (sets : String), fields.isEmpty = false →
      d.setList fields = .ok sets →
        d.renderUpdate idField { o with what := some fields } = .ok (before ++ sets ++ after) := by
  obtain ⟨before, after, hframe⟩ := updateFrame_around d idField o (d.quoteIdentifier table)
  refine ⟨before, after, fun fields sets hne hsets => ?_⟩
  rw [renderUpdate_framed, ← hframe]
  show ((o.tableName >>= _) : Except BuildError Frame).map _ = _
  rw [htable]
  show ((QueryOptions.someFields _ >>= _) : Except BuildError Frame).map _ = _
  rw [QueryOptions.someFields_eq rfl hne]
  show ((d.setList fields >>= _) : Except BuildError Frame).map _ = _
  rw [hsets]
  rfl

/-! ## Inserts -/

/-- Whatever an insert writes, it stands at the end. -/
theorem renderInsert_place (d : Dialect) {o : QueryOptions} {table : String}
    (htable : o.tableName = .ok table) :
    ∃ before, ∀ fields : Fields, fields.isEmpty = false →
      d.renderInsert { o with what := some fields }
        = (d.insertSource fields).map fun source => before ++ trailed source := by
  refine ⟨sentence (d.insertWords o ++ [d.quoteIdentifier table]), fun fields hne => ?_⟩
  show (o.tableName >>= _) = _
  rw [htable]
  show (QueryOptions.someFields _ >>= _) = _
  rw [QueryOptions.someFields_eq rfl hne]
  show (d.insertSource fields >>= _) = _
  cases d.insertSource fields with
  | error e => rfl
  | ok source => exact congrArg Except.ok (sentence_append_trailed (by simp) source)

/-! ## Selects -/

theorem selectFrame_eq (d : Dialect) (idField : String) (o : QueryOptions) (table what : String) :
    d.selectFrame idField o table what
      = { before := d.openingText idField o what ++ " FROM " ++ d.sourceText o table
          between := trailed (groupByClause o)
          after := d.closingText o } := by
  unfold selectFrame openingText closingText
  cases d with
  | mysql => rfl
  | pgsql => rfl
  | mssql => cases o.page? <;> rfl

/-- A select by what it reads its rows from. -/
theorem renderSelect_eq {d : Dialect} (idField : String) {o : QueryOptions} {table what : String}
    (htable : o.tableName = .ok table) (hwhat : d.selectList o table = .ok what) :
    d.renderSelect idField o
      = .ok (d.openingText idField o what ++ " FROM " ++ d.sourceText o table
        ++ clauseText "WHERE" o.conditions
        ++ (trailed (groupByClause o) ++ clauseText "HAVING" o.having ++ d.closingText o)) := by
  have hframe : d.frame .select idField o = .ok (d.selectFrame idField o table what) := by
    show o.tableName >>= _ = _
    rw [htable]
    show d.selectList o table >>= _ = _
    rw [hwhat]
    rfl
  rw [renderSelect_framed, hframe, selectFrame_eq]
  refine congrArg Except.ok ?_
  simp only [Frame.text, if_true, String.append_assoc]

theorem openingText_around (d : Dialect) (idField : String) (o : QueryOptions) :
    ∃ before after, ∀ list, d.openingText idField o list = before ++ list ++ after := by
  have hplain : ∀ words : String, ∃ before after, ∀ list,
      words ++ columnsText o list = before ++ list ++ after := by
    intro words
    refine ⟨words ++ trailed (flagged o.distinct "DISTINCT") ++ " ", "", fun list => ?_⟩
    simp [columnsText, String.append_assoc]
  unfold openingText
  cases d with
  | mysql => exact hplain "SELECT"
  | pgsql => exact hplain "SELECT"
  | mssql =>
    cases o.page? with
    | none => exact hplain "SELECT"
    | some page =>
      obtain ⟨before, after, h⟩ := hplain "SELECT * FROM (SELECT"
      refine ⟨before, ", " ++ rowNumberColumn idField o ++ after, fun list => ?_⟩
      simp [h, String.append_assoc]

/-- Whatever a select reads, it stands in the same place. -/
theorem renderSelect_place (d : Dialect) (idField : String) {o : QueryOptions} {table : String}
    (htable : o.tableName = .ok table) :
    ∃ before after, ∀ (what : Option Fields) (list : String),
      d.selectList { o with what } table = .ok list →
        d.renderSelect idField { o with what } = .ok (before ++ list ++ after) := by
  obtain ⟨before, after, hopening⟩ := openingText_around d idField o
  refine ⟨before, after ++ " FROM " ++ d.sourceText o table ++ clauseText "WHERE" o.conditions
    ++ (trailed (groupByClause o) ++ clauseText "HAVING" o.having ++ d.closingText o),
    fun what list hlist => ?_⟩
  have hsame : d.openingText idField { o with what } list = before ++ list ++ after :=
    hopening list
  rw [renderSelect_eq (o := { o with what }) idField htable hlist, hsame]
  simp only [String.append_assoc]
  rfl

/-! ## Joins -/

theorem joinText_notBlank (d : Dialect) (s : JoinSpec) :
    Text.isBlankText (d.joinText (.spec s)) = false := by
  cases hm : s.mandatory <;>
    simp [joinText, hm, Text.isBlankText, show Text.isBlank 'L' = false by decide,
      show Text.isBlank 'I' = false by decide]

theorem intercalate_around (glue : String) (xs ys : List String) :
    ∃ before after, ∀ x, glue.intercalate (xs ++ x :: ys) = before ++ x ++ after := by
  induction xs with
  | nil =>
    cases ys with
    | nil => exact ⟨"", "", fun x => by simp⟩
    | cons y ys =>
      refine ⟨"", glue ++ glue.intercalate (y :: ys), fun x => ?_⟩
      rw [List.nil_append, String.intercalate_cons_cons, String.empty_append, String.append_assoc]
  | cons w ws ih =>
    obtain ⟨before, after, h⟩ := ih
    refine ⟨w ++ glue ++ before, after, fun x => ?_⟩
    rw [List.cons_append, String.intercalate_cons_of_ne_nil (by simp), h]
    simp only [String.append_assoc]

/-- A join among others is written in its place. -/
theorem joinClause_around (d : Dialect) (js later : List Join) :
    ∃ before after, ∀ j : JoinSpec,
      d.joinClause (js ++ .spec j :: later) = [before ++ d.joinText (.spec j) ++ after] := by
  obtain ⟨before, after, h⟩ := intercalate_around ", "
    ((js.map d.joinText).filter fun j => !Text.isBlankText j)
    ((later.map d.joinText).filter fun j => !Text.isBlankText j)
  refine ⟨before, after, fun j => ?_⟩
  have hkept : ((js ++ .spec j :: later).map d.joinText).filter (fun j => !Text.isBlankText j)
      = (js.map d.joinText).filter (fun j => !Text.isBlankText j) ++ d.joinText (.spec j)
        :: (later.map d.joinText).filter fun j => !Text.isBlankText j := by
    simp [joinText_notBlank]
  unfold joinClause
  rw [hkept]
  split
  · next hnil => simp at hnil
  · rw [h]

theorem sourceText_around (d : Dialect) (o : QueryOptions) (table : String) (js later : List Join) :
    ∃ before after, ∀ j : JoinSpec, d.sourceText { o with joins := js ++ .spec j :: later } table
      = before ++ d.joinText (.spec j) ++ after := by
  obtain ⟨before, after, h⟩ := joinClause_around d js later
  refine ⟨d.tableSql table ++ trailed (aliasPart o) ++ " " ++ before, after, fun j => ?_⟩
  show d.tableSql table ++ trailed (aliasPart o ++ d.joinClause (js ++ .spec j :: later)) = _
  rw [h, trailed_append, trailed_cons, trailed_nil, String.append_empty]
  simp only [String.append_assoc]

/-- Of a select that has a text, any join can be another, and only its own text changes. -/
theorem renderSelect_around {d : Dialect} {idField : String} {o : QueryOptions}
    {js later : List Join} {j : JoinSpec} {sql : String}
    (h : d.renderSelect idField { o with joins := js ++ .spec j :: later } = .ok sql) :
    ∃ before after, ∀ j' : JoinSpec,
      d.renderSelect idField { o with joins := js ++ .spec j' :: later }
        = .ok (before ++ d.joinText (.spec j') ++ after) := by
  obtain ⟨table, htable, h⟩ := bind_eq_ok_iff.1 h
  obtain ⟨what, hwhat, -⟩ := bind_eq_ok_iff.1 h
  obtain ⟨before, after, hsource⟩ := sourceText_around d o table js later
  refine ⟨d.openingText idField o what ++ " FROM " ++ before,
    after ++ clauseText "WHERE" o.conditions ++ trailed (groupByClause o)
      ++ clauseText "HAVING" o.having ++ d.closingText o, fun j' => ?_⟩
  rw [renderSelect_eq (o := { o with joins := js ++ .spec j' :: later }) idField htable hwhat,
    hsource]
  simp only [String.append_assoc]
  rfl

end Dialect

end SqlGateway
