import SqlGateway.Proofs.Dialect.Extent
import SqlGateway.Proofs.Dialect.Place
import SqlGateway.Proofs.Session.Operation

/-!
# Queries in queries

A query that is put into another comes out as it went in: the defaults of a
select leave its text alone, and a table in parentheses is written as it stands.
The order is what can be taken out of a query, from the end of its text or from
where SQL Server numbers rows.

    text select id o                     = renderSelect id o, unless o is for one row
    renderSelect id (countOptions inner) = countText inner
    renderSelect id o                    = renderSelect id (o without its order) ++ order, unless o has pages
-/

namespace SqlGateway

/-! ## Algorithm -/

/-- The query that counts the rows of another. -/
def Select.countText (inner : String) : String :=
  "SELECT COUNT(*) " ++ countColumn ++ " FROM (" ++ inner ++ ") oq"

/-! ## Defaults -/

namespace QueryOptions

theorem listOver_nil {α : Type} (mine : List α) : listOver mine [] = mine := by
  cases mine <;> rfl

theorem layeredOver_select (o : QueryOptions) :
    o.layeredOver (.defaults .select)
      = { o with
          number := o.number.or (some (-1))
          offset := o.offset.or (some 0)
          output := o.output.or (some .rows)
          distinct := o.distinct.or (some false) } := by
  unfold layeredOver defaults
  simp only [listOver_nil, Option.orElse_eq_orElse, Option.orElse_eq_or, Option.or_none]

/-- The defaults of a page are those of no page. -/
theorem page?_defaults (o : QueryOptions) :
    ({ o with number := o.number.or (some (-1)), offset := o.offset.or (some 0) }
      : QueryOptions).page? = o.page? := by
  unfold page?
  cases o.number <;> cases o.offset <;> rfl

end QueryOptions

namespace Dialect

theorem renderSelect_distinct (d : Dialect) (idField : String) (o : QueryOptions)
    (output : Option OutputMode) :
    d.renderSelect idField { o with output, distinct := o.distinct.or (some false) }
      = d.renderSelect idField o := by
  have hflag : flagged (o.distinct.or (some false)) "DISTINCT" = flagged o.distinct "DISTINCT" := by
    cases o.distinct <;> rfl
  have hhead : ∀ table what, d.selectHead
      { o with output, distinct := o.distinct.or (some false) } table what
      = d.selectHead o table what := by
    intro table what
    unfold selectHead
    rw [hflag]
    rfl
  unfold renderSelect
  simp only [hhead]
  rfl

/-- The defaults of a select show in its text only where one row is asked for. -/
theorem text_select (d : Dialect) (idField : String) {o : QueryOptions}
    (h : isSingle (o.output.getD .rows) = false) :
    d.text .select idField o = d.renderSelect idField o := by
  have hmode : (o.layeredOver (.defaults .select)).output.getD .rows = o.output.getD .rows := by
    rw [QueryOptions.layeredOver_select]
    cases o.output <;> rfl
  have hextent : d.extent .select idField
      { o with number := o.number.or (some (-1)), offset := o.offset.or (some 0) }
      = d.extent .select idField o :=
    extent_congr o.page?_defaults rfl fun _ _ _ _ => rfl
  unfold text QueryOptions.laid
  simp only [hmode, h]
  rw [QueryOptions.layeredOver_select]
  exact (renderSelect_distinct d idField
    { o with number := o.number.or (some (-1)), offset := o.offset.or (some 0) } _).trans
    (renderSelect_congr d hextent)

end Dialect

/-! ## Derived tables -/

/-- A text that neither begins nor ends with a blank is trimmed already. -/
theorem Text.nonBlank?_of_ends {s : String} {first last : Char} {cs : List Char}
    (hs : s.toList = first :: (cs ++ [last])) (hfirst : Text.isBlank first = false)
    (hlast : Text.isBlank last = false) : Text.nonBlank? s = some s := by
  have hblank : Text.isBlankText s = false := by
    rw [Text.isBlankText, hs, List.all_cons, hfirst, Bool.false_and]
  have hstart : Text.trimStart s.toList = s.toList := by
    rw [Text.trimStart, hs, List.dropWhile_cons_of_neg (by simp [hfirst])]
  have hend : Text.trimEnd s.toList = s.toList := by
    have hreverse : s.toList.reverse = last :: (cs.reverse ++ [first]) := by
      rw [hs]
      simp
    rw [Text.trimEnd, hreverse, List.dropWhile_cons_of_neg (by simp [hlast]), ← hreverse,
      List.reverse_reverse]
  rw [Text.nonBlank?, hblank, Text.trim, Text.trimChars, hstart, hend, String.ofList_toList]
  rfl

namespace Dialect

theorem renderSelect_countOptions (d : Dialect) (idField inner : String) :
    d.renderSelect idField (Select.countOptions inner) = .ok (Select.countText inner) := by
  have hends : ("(" ++ inner ++ ") oq").toList = '(' :: (inner.toList ++ [')', ' ', 'o'] ++ ['q']) := by
    simp
  have htable : (Select.countOptions inner).tableName = .ok ("(" ++ inner ++ ") oq") := by
    unfold QueryOptions.tableName
    rw [show (Select.countOptions inner).table = some ("(" ++ inner ++ ") oq") from rfl,
      Option.bind_some, Text.nonBlank?_of_ends hends (by decide) (by decide)]
  have hderived : isDerived ("(" ++ inner ++ ") oq") = true := by
    rw [isDerived, Text.startsWith, hends]
    rfl
  have hlist : ∀ table, d.selectList (Select.countOptions inner) table
      = .ok ("COUNT(*) " ++ Select.countColumn) := by
    intro table
    rfl
  have hparts : d.selectHead (Select.countOptions inner) ("(" ++ inner ++ ") oq")
      ("COUNT(*) " ++ Select.countColumn) ++ orderByClause (Select.countOptions inner)
      ++ d.limitClause (Select.countOptions inner)
      = ["SELECT", "COUNT(*) " ++ Select.countColumn, "FROM", d.tableSql ("(" ++ inner ++ ") oq")] :=
    rfl
  have hopen : ("SELECT COUNT(*) " : String) = "SELECT" ++ (" " ++ "COUNT(*) ") := rfl
  have hfrom : (" FROM (" : String) = " " ++ ("FROM" ++ (" " ++ "(")) := rfl
  have htext : sentence ["SELECT", "COUNT(*) " ++ Select.countColumn, "FROM",
      "(" ++ inner ++ ") oq"] = Select.countText inner := by
    unfold Select.countText
    simp only [sentence_cons, trailed_cons, trailed_nil, hopen, hfrom, String.append_empty,
      String.append_assoc]
  rw [tableSql, if_pos hderived] at hparts
  unfold renderSelect
  simp only [htable, hlist, bind, Except.bind]
  cases d <;> exact congrArg Except.ok ((congrArg sentence hparts).trans htext)

/-! ## Order -/

/-- Without pages, the order is the end of a text. -/
theorem renderSelect_ordered (d : Dialect) (idField : String) {o : QueryOptions}
    (h : o.page? = none) :
    d.renderSelect idField o
      = (d.renderSelect idField { o with orderBy := none }).map (· ++ trailed (orderByClause o)) := by
  have hnone : ({ o with orderBy := none } : QueryOptions).page? = none := h
  have hlimit : ∀ o' : QueryOptions, o'.page? = none → d.limitClause o' = [] := by
    intro o' h'
    unfold limitClause
    rw [h']
  have hplain : ∀ table what,
      sentence (d.selectHead o table what ++ orderByClause o ++ d.limitClause o)
        = sentence (d.selectHead { o with orderBy := none } table what
          ++ orderByClause { o with orderBy := none } ++ d.limitClause { o with orderBy := none })
          ++ trailed (orderByClause o) := by
    intro table what
    rw [hlimit o h, hlimit _ hnone, List.append_nil, List.append_nil, sentence_append_trailed]
    · exact congrArg (sentence · ++ trailed (orderByClause o)) (List.append_nil _).symm
    · simp [selectHead]
  unfold renderSelect
  refine bind_eq_map_bind fun table => ?_
  refine bind_eq_map_bind fun what => ?_
  rw [h, hnone]
  cases d <;> exact congrArg Except.ok (hplain table what)

theorem exists_unordered {d : Dialect} {idField text : String} {o : QueryOptions}
    (hpage : o.page? = none) (h : d.renderSelect idField o = .ok text) :
    ∃ inner, d.renderSelect idField { o with orderBy := none } = .ok inner ∧
      text = inner ++ trailed (orderByClause o) := by
  rw [renderSelect_ordered d idField hpage] at h
  cases hinner : d.renderSelect idField { o with orderBy := none } with
  | error e =>
    rw [hinner] at h
    cases h
  | ok inner =>
    rw [hinner] at h
    cases h
    exact ⟨inner, rfl, rfl⟩

/-- With pages, SQL Server has the order where it numbers the rows, and nowhere else. -/
theorem renderSelect_numbering {idField text : String} {o : QueryOptions} {page : Page}
    (hpage : o.page? = some page) (h : renderSelect .mssql idField o = .ok text) :
    ∃ before after, ∀ order, renderSelect .mssql idField { o with orderBy := order }
      = .ok (before ++ "OVER(" ++ numberingOrder idField { o with orderBy := order } ++ ")"
        ++ after) := by
  obtain ⟨table, ht, h⟩ := bind_eq_ok_iff.1 h
  obtain ⟨what, hw, -⟩ := bind_eq_ok_iff.1 h
  refine ⟨"SELECT * FROM (SELECT" ++ columnsText o (what ++ ", ROW_NUMBER() "),
    " AS rownum FROM " ++ sourceText .mssql o table ++ clauseText "WHERE" o.conditions
      ++ trailed (groupByClause o) ++ clauseText "HAVING" o.having ++ ") AS a WHERE a.rownum "
      ++ page.rowBound, ?_⟩
  intro order
  have hnumber : (", ROW_NUMBER() " : String) = ", " ++ "ROW_NUMBER() " := rfl
  have hover : ("ROW_NUMBER() OVER(" : String) = "ROW_NUMBER() " ++ "OVER(" := rfl
  have hclose : (" AS rownum FROM " : String) = " AS rownum" ++ " FROM " := rfl
  have hcolumn : (") AS rownum" : String) = ")" ++ " AS rownum" := rfl
  have hpage' : ({ o with orderBy := order } : QueryOptions).page? = some page := hpage
  have hframe : frame .mssql .select idField { o with orderBy := order }
      = .ok (selectFrame .mssql idField { o with orderBy := order } table what) := by
    show o.tableName.bind _ = _
    rw [ht]
    show (selectList .mssql o table).bind _ = _
    rw [hw]
    rfl
  rw [renderSelect_framed, hframe]
  refine congrArg Except.ok ?_
  simp only [selectFrame, hpage', Frame.text, if_true, columnsText]
  unfold rowNumberColumn
  simp only [hnumber, hover, hclose, hcolumn, String.append_assoc]
  rfl

end Dialect

end SqlGateway
