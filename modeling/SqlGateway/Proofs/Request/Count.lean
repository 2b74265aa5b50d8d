import SqlGateway.Proofs.Dialect.Wrapped
import SqlGateway.Proofs.Request.Answer
import SqlGateway.Proofs.Request.Preview
import SqlGateway.Proofs.Sql.Window

/-!
# Counting rows

A query is counted by another one that has its text for a table.  The text is
that of the query, less an order it has no use for; a number of rows to count at
most takes the place of the query's own number.

    count s none       counts the rows of s
    count s (some m)   counts the rows of s with number m

So a query for fewer rows than `m` is counted beyond them.
-/

namespace SqlGateway

variable {σ ε : Type}

/-! ## Algorithm -/

namespace Select

def ordered (s : Select ε) (order : Option String) : Select ε :=
  s.mapOptions fun o => { o with orderBy := order }

/-- The query whose rows are counted: without an order, unless it has pages. -/
def inner (s : Select ε) : Select ε :=
  if s.options.page?.isSome then s else s.ordered none

end Select

/-- All rows of a query. -/
def Connection.allRows (c : Connection σ) (sql : String) : Native σ (List Row) := do
  let s ← c.query sql
  MonadExcept.ofExcept s.fetchAll

/-! ## The text that counts -/

namespace Select

theorem text_eq (s : Select ε) (idField : String) :
    (Query.select s).text idField = s.resolved >>= s.dialect.renderSelect idField := by
  show s.resolved >>= _ = _
  refine bind_congr fun o => ?_
  exact Dialect.text_select s.dialect idField rfl

theorem textWith_counted (s : Select ε) (idField : String) (most : Option Int) :
    s.textWith idField (counted most)
      = s.resolved >>= fun o => s.dialect.renderSelect idField (counted most o) := by
  refine bind_congr fun o => ?_
  refine Dialect.text_select s.dialect idField ?_
  rw [counted_output]
  rfl

/-- The text that counts has the text that is counted in it. -/
theorem text_selectCount_eq (s : Select ε) (idField : String) (most : Option Int) :
    (Operation.selectCount s most).text idField
      = s.textWith idField (counted most) >>= fun inner => .ok (countText inner) := by
  refine bind_congr fun inner => ?_
  rw [Dialect.text_select s.dialect idField rfl, Dialect.renderSelect_countOptions]

theorem text_selectCount (s : Select ε) (idField : String) (most : Option Int) :
    (Operation.selectCount s most).text idField
      = (s.resolved >>= fun o => s.dialect.renderSelect idField (counted most o)).map countText := by
  rw [text_selectCount_eq, textWith_counted]
  cases s.resolved >>= fun o => s.dialect.renderSelect idField (counted most o) <;> rfl

theorem resolved_page? {s : Select ε} {o : QueryOptions} (h : s.resolved = .ok o) :
    o.page? = s.options.page? := by
  obtain ⟨conditions, having, rfl⟩ := exists_of_resolved h
  rfl

theorem resolved_ordered (s : Select ε) (order : Option String) :
    (s.ordered order).resolved = s.resolved >>= fun o => .ok { o with orderBy := order } :=
  s.resolved_mapOptions fun _ _ _ _ => rfl

theorem counted_paged (most : Option Int) {o : QueryOptions} {page : Page}
    (h : ({ o with number := most <|> o.number } : QueryOptions).page? = some page) :
    counted most o = { o with output := some .sqlText, number := most <|> o.number } := by
  have hsome : ({ o with output := some .sqlText, number := most <|> o.number }
      : QueryOptions).page?.isNone = false := by
    rw [Option.isNone_eq_false_iff, Option.isSome_iff_exists]
    exact ⟨page, h⟩
  unfold counted
  simp only [hsome]
  rfl

theorem counted_unpaged {o : QueryOptions} (h : o.page? = none) :
    counted none o = { o with output := some .sqlText, orderBy := none } := by
  have hnone : ({ o with output := some .sqlText, number := none <|> o.number }
      : QueryOptions).page?.isNone = true := by
    rw [Option.isNone_iff_eq_none]
    exact h
  unfold counted
  simp only [hnone]
  rfl

/-- Without a number for it, the counted query is the query, less an order it has no use for. -/
theorem text_inner (s : Select ε) (idField : String) :
    (Query.select s.inner).text idField
      = s.resolved >>= fun o => s.dialect.renderSelect idField (counted none o) := by
  rw [text_eq]
  unfold inner
  cases hp : s.options.page? with
  | some page =>
    refine bind_congr_ok fun o ho => ?_
    have hpage := (resolved_page? ho).trans hp
    rw [counted_paged none hpage]
    rfl
  | none =>
    show (s.ordered none).resolved >>= _ = _
    rw [resolved_ordered, bind_assoc]
    refine bind_congr_ok fun o ho => ?_
    rw [counted_unpaged ((resolved_page? ho).trans hp)]
    rfl

end Select

/-! ## What is sent -/

namespace Session

variable {s : Session σ} {r r₁ : Recorded σ} {c : Connection σ}

theorem Attains.unique {c' : Connection σ} {r₁' : Recorded σ} (h : s.Attains r c r₁)
    (h' : s.Attains r c' r₁') : c' = c ∧ r₁' = r₁ := by
  cases h with
  | already hc =>
    cases h' with
    | already hc' =>
      rw [hc] at hc'
      cases hc'
      exact ⟨rfl, rfl⟩
    | opened w' hnone' hc' =>
      rw [hc] at hnone'
      cases hnone'
  | opened w hnone hc =>
    cases h' with
    | already hc' =>
      rw [hnone] at hc'
      cases hc'
    | opened w' hnone' hc' =>
      rw [hc] at hc'
      cases hc'
      exact ⟨rfl, rfl⟩

theorem run_rows_attained (h : s.Attains r c r₁) (sql : String) :
    (rows sql).run ⟨s.recorded, r⟩ = match (c.allRows sql).run r₁.world with
      | (.ok rows, w) => (.ok rows, ⟨(s.on c).recorded, { r₁.sending sql with world := w }⟩)
      | (.error f, w) =>
        (.error (.ofFailure f sql), ⟨(s.on c).recorded, { r₁.sending sql with world := w }⟩) := by
  have hact : ∀ c : Connection σ, c.recorded.allRows sql
      = Recorded.noted (Recorded.sending sql) (c.allRows sql) := by
    intro c
    exact Recorded.noted_bind_ofExcept _ (c.query sql) Statement.fetchAll
  rcases @sending_cases σ _ s r sql (·.allRows sql) (·.allRows sql) hact with
    ⟨f, w, hf, -⟩ | ⟨c', r₁', hc', hrun⟩
  · exact absurd hf h.not_refuses
  · obtain ⟨rfl, rfl⟩ := h.unique hc'
    refine hrun.trans ?_
    rcases (c'.allRows sql).run r₁'.world with ⟨res, w⟩
    cases res <;> rfl

end Session

namespace Select

variable {session : Session σ} {r r₁ : Recorded σ} {c : Connection σ}

/-- The counting query is all that is sent; the desk beside the session stays as it was. -/
theorem run_count_attained (s : Select ε) {most : Option Int} {sql : String}
    (hsql : (Operation.selectCount s most).text session.idField = .ok sql)
    (h : session.Attains r c r₁) (repository : Repository ε) (asked : List String) :
    (Desk.onSession (s.count most)).run ⟨⟨session.recorded, r⟩, repository, asked⟩
      = match (c.allRows sql).run r₁.world with
        | (.ok rows, w) => (.ok (countOfRow rows.head?),
          ⟨⟨(session.on c).recorded, { r₁.sending sql with world := w }⟩, repository, asked⟩)
        | (.error f, w) => (.error (.ofFailure f sql),
          ⟨⟨(session.on c).recorded, { r₁.sending sql with world := w }⟩, repository, asked⟩) := by
  have hrun : (s.count most).run ⟨session.recorded, r⟩
      = (Session.rows sql >>= fun rows => pure (countOfRow rows.head?)).run
        ⟨session.recorded, r⟩ := by
    have hid : (⟨session.recorded, r⟩ : Channel (Recorded σ)).session.idField
      = session.idField := rfl
    rw [run_count, hid, run_built_bind, hsql]
  rw [Desk.run_onSession, hrun, run_bind, Session.run_rows_attained h]
  rcases (c.allRows sql).run r₁.world with ⟨res, w⟩
  cases res <;> rfl

/-- A preview comes to the text, and leaves the session and the world alone. -/
theorem run_sql_of_text {s : Select ε} (ch : Channel σ) {sql : String}
    (h : (Query.select s).text ch.session.idField = .ok sql) : s.sql.run ch = (.ok sql, ch) := by
  refine (run_sql s ch).trans ?_
  rw [show (Operation.selectSql s).text ch.session.idField = .ok sql from h]
  rfl

theorem text_of_run_sql {s : Select ε} (ch : Channel σ) {sql : String}
    (h : (s.sql.run ch).1 = .ok sql) : (Query.select s).text ch.session.idField = .ok sql := by
  rw [run_sql] at h
  show (Operation.selectSql s).text ch.session.idField = _
  cases htext : (Operation.selectSql s).text ch.session.idField with
  | error e =>
    rw [htext] at h
    cases h
  | ok sql' =>
    rw [htext] at h
    cases h
    rfl

/-! ## The counted query -/

/-- The text of the counted query whose order is another. -/
theorem text_inner_of_resolved {s : Select ε} {idField : String} {o : QueryOptions}
    (ho : s.resolved = .ok o) (order : Option String) :
    (Query.select (s.ordered order).inner).text idField
      = s.dialect.renderSelect idField
        (if o.page?.isSome then { o with orderBy := order } else { o with orderBy := none }) := by
  rw [text_inner, resolved_ordered, ho]
  show s.dialect.renderSelect idField (counted none { o with orderBy := order }) = _
  cases hp : o.page? with
  | none =>
    rw [counted_unpaged (o := { o with orderBy := order }) hp]
    rfl
  | some page =>
    rw [counted_paged none (o := { o with orderBy := order }) hp]
    rfl

/-- What a query without pages loses is the order at its end. -/
theorem exists_text_inner {s : Select ε} {idField text : String} {o : QueryOptions}
    (ho : s.resolved = .ok o) (htext : s.dialect.renderSelect idField o = .ok text) :
    ∃ inner, (Query.select s.inner).text idField = .ok inner ∧
      text = inner ++ (if o.page?.isSome then "" else trailed (orderByClause o)) := by
  rw [text_inner, ho]
  show ∃ inner, s.dialect.renderSelect idField (counted none o) = .ok inner ∧ _
  cases hp : o.page? with
  | some page =>
    rw [counted_paged none hp]
    exact ⟨text, htext, (String.append_empty).symm⟩
  | none =>
    rw [counted_unpaged hp]
    exact Dialect.exists_unordered hp htext

/-- Where the order asked for stands in a counted query of SQL Server, if anywhere. -/
theorem exists_text_ordered {s : Select ε} {idField text : String} {o : QueryOptions}
    (hd : s.dialect = .mssql) (ho : s.resolved = .ok o)
    (htext : s.dialect.renderSelect idField o = .ok text) :
    ∃ before after, ∀ order, (Query.select (s.ordered order).inner).text idField
      = .ok (before ++ (if o.page?.isSome then
          "OVER(" ++ Dialect.numberingOrder idField { o with orderBy := order } ++ ")" else "")
        ++ after) := by
  simp only [text_inner_of_resolved ho]
  cases hp : o.page? with
  | some page =>
    rw [hd] at htext ⊢
    obtain ⟨before, after, hnumbered⟩ := Dialect.renderSelect_numbering hp htext
    refine ⟨before, after, fun order => (hnumbered order).trans ?_⟩
    simp only [Option.isSome_some, if_true, String.append_assoc]
  | none =>
    obtain ⟨inner, hinner, -⟩ := Dialect.exists_unordered hp htext
    refine ⟨inner, "", fun order => hinner.trans ?_⟩
    simp

/-- **Counting a query.**  The one statement that is sent counts the rows of the query, whose text
loses its order unless the query has pages; in SQL Server an order asked for stands where rows are
numbered or nowhere.  The first row of the answer tells the result, and neither the repository nor a
filter is asked for anything. -/
theorem run_count_none (s : Select ε) (session : Session σ) (r : Recorded σ) {text : String}
    (h : (s.sql.run ⟨session.recorded, r⟩).1 = .ok text) :
    ∃ inner : String,
      s.inner.sql.run ⟨session.recorded, r⟩ = (.ok inner, ⟨session.recorded, r⟩) ∧
      text = inner
        ++ (if s.options.page?.isSome then "" else trailed (orderByClause s.options)) ∧
      (s.dialect = .mssql → ∃ before after, ∀ order,
        (s.ordered order).inner.sql.run ⟨session.recorded, r⟩
          = (.ok (before ++ (if s.options.page?.isSome then
              "OVER(" ++ Dialect.numberingOrder session.idField
                { s.options with orderBy := order, idField := some s.toRequest.idField } ++ ")"
            else "") ++ after), ⟨session.recorded, r⟩)) ∧
      ∀ c r₁, session.Attains r c r₁ → ∀ (repository : Repository ε) (asked : List String),
        (∀ rows w, (c.allRows (countText inner)).run r₁.world = (.ok rows, w) →
          ∃ n, Tells rows n ∧
            (Desk.onSession (s.count none)).run ⟨⟨session.recorded, r⟩, repository, asked⟩
              = (.ok n, ⟨⟨(session.on c).recorded,
                { r₁.sending (countText inner) with world := w }⟩, repository, asked⟩)) ∧
        ∀ f w, (c.allRows (countText inner)).run r₁.world = (.error f, w) →
          (Desk.onSession (s.count none)).run ⟨⟨session.recorded, r⟩, repository, asked⟩
            = (.error (.ofFailure f (countText inner)), ⟨⟨(session.on c).recorded,
              { r₁.sending (countText inner) with world := w }⟩, repository, asked⟩) := by
  have htext : (Query.select s).text session.idField = .ok text :=
    text_of_run_sql ⟨session.recorded, r⟩ h
  rw [text_eq] at htext
  obtain ⟨o, ho, htext⟩ := bind_eq_ok_iff.1 htext
  have hpage : o.page? = s.options.page? := resolved_page? ho
  obtain ⟨inner, hinner, htext'⟩ := exists_text_inner ho htext
  obtain ⟨conditions, having, hoptions⟩ := exists_of_resolved ho
  have horder : orderByClause o = orderByClause s.options := by
    rw [hoptions]
    rfl
  have hcount : (Operation.selectCount s none).text session.idField = .ok (countText inner) := by
    rw [text_selectCount, ← text_inner, hinner]
    rfl
  refine ⟨inner, run_sql_of_text ⟨session.recorded, r⟩ hinner, ?_, ?_, ?_⟩
  · rw [← hpage, ← horder]
    exact htext'
  · intro hd
    obtain ⟨before, after, hordered⟩ := exists_text_ordered hd ho htext
    refine ⟨before, after, fun order => run_sql_of_text ⟨session.recorded, r⟩ ?_⟩
    rw [← hpage]
    refine (hordered order).trans ?_
    rw [hoptions]
    rfl
  · intro c r₁ hc repository asked
    have hrun := s.run_count_attained hcount hc repository asked
    constructor
    · intro rows w hrows
      rw [hrows] at hrun
      exact ⟨_, tells_iff.2 rfl, hrun⟩
    · intro f w hf
      rw [hf] at hrun
      exact hrun

/-- In SQL Server a query without pages is counted without its order.  The count stands behind
other columns of the answer. -/
theorem run_count_none_unordered :
    let s : Select Row :=
      { dialect := .mssql, idField := "id", options := { table := some "t", orderBy := some "b" } }
    let script : Script :=
      { rules := [("",
          .rows [⟨[("n", .int 7), ("Row_Count", .int 5), ("row_count", .int 3)]⟩])] }
    let session : Session ScriptLog := { name := "a", config := {}, connector := script.connector }
    let r : Recorded ScriptLog := { world := {} }
    let r₁ : Recorded ScriptLog := { world := { connects := 1 }, connects := 1 }
    let d : Desk (Recorded ScriptLog) Row :=
      ⟨⟨session.recorded, r⟩, { ofRow := .ok, table := "t" }, []⟩
    (s.sql.run ⟨session.recorded, r⟩).1 = .ok "SELECT \"t\".* FROM \"t\" ORDER BY b" ∧
      session.Attains r script.connection r₁ ∧
      ((Desk.onSession (s.count none)).run d).1 = .ok 3 ∧
      ((Desk.onSession (s.count none)).run d).2.channel.world.statements
        = ["SELECT COUNT(*) row_count FROM (SELECT \"t\".* FROM \"t\") oq"] := by
  intro s script session r r₁ d
  have hattains : session.Attains r script.connection r₁ := .opened _ _ rfl rfl
  have htext : (s.sql.run ⟨session.recorded, r⟩).1
    = .ok "SELECT \"t\".* FROM \"t\" ORDER BY b" := rfl
  obtain ⟨inner, -, hinner, -, hrun⟩ := run_count_none s session r htext
  have hends : "SELECT \"t\".* FROM \"t\" ORDER BY b"
    = "SELECT \"t\".* FROM \"t\"" ++ " ORDER BY b" := rfl
  rw [hends, show (if s.options.page?.isSome then "" else trailed (orderByClause s.options))
    = " ORDER BY b" by decide +kernel, String.append_left_inj] at hinner
  subst hinner
  obtain ⟨hanswered, -⟩ := hrun _ _ hattains { ofRow := .ok, table := "t" } []
  obtain ⟨n, hn, hcount⟩ := hanswered _ _ rfl
  have hthree : 3 = n := tells_iff.1 hn
  rw [← hthree] at hcount
  refine ⟨htext, hattains, ?_, ?_⟩
  · exact congrArg Prod.fst hcount
  · rw [hcount]
    show [countText "SELECT \"t\".* FROM \"t\""] = _
    decide +kernel

/-! ## A number of rows to count at most -/

/-- A number of rows for the counted query takes the place of the query's own. -/
theorem exists_text_capped {s : Select ε} {idField text : String} {o : QueryOptions}
    (ho : s.resolved = .ok o) (htext : s.dialect.renderSelect idField o = .ok text) {m : Int}
    (hm : 0 < m) :
    ∃ source bound, Sql.pageSource s.dialect .select idField o = .ok source ∧
      Sql.window? s.dialect bound
        = some ((Page.mk m (max 0 (o.offset.getD 0))).window s.dialect) ∧
      (Operation.selectCount s (some m)).text idField = .ok (countText (source ++ bound)) := by
  have hpage : ({ o with number := some m } : QueryOptions).page?
      = some ⟨m, max 0 (o.offset.getD 0)⟩ := if_pos hm
  have hsame : Sql.pageSource s.dialect .select idField { o with number := some m }
      = Sql.pageSource s.dialect .select idField o := by
    cases s.dialect <;> rfl
  obtain ⟨bound, hrender, hwindow⟩ := Dialect.renderSelect_window s.dialect idField hpage
  rw [hsame] at hrender
  cases hsource : Sql.pageSource s.dialect .select idField o with
  | error e =>
    rw [hsource] at hrender
    have herror := (Dialect.renderSelect_error_iff s.dialect idField o (some m) e).1 hrender
    rw [htext] at herror
    cases herror
  | ok source =>
    rw [hsource] at hrender
    refine ⟨source, bound, rfl, hwindow, ?_⟩
    rw [text_selectCount, ho]
    show (s.dialect.renderSelect idField (counted (some m) o)).map countText = _
    rw [counted_paged (some m) hpage]
    exact congrArg (Except.map countText) hrender

theorem countOfRow_int (n : Nat) : countOfRow (some ⟨[(countColumn, .int n)]⟩) = n := by
  have hcell : (Row.mk [(countColumn, .int n)]).get? countColumn = some (.int n) := rfl
  unfold countOfRow
  rw [Option.bind_some, hcell]
  rfl

/-- **Counting at most so many rows.**  The number given is that of the counted query, whatever the
query's own.  So the count exceeds the query where it is the greater of both and there are rows
enough, and in SQL Server it exceeds even the number given, by the row before the page. -/
theorem run_count_some (s : Select ε) (session : Session σ) (r : Recorded σ) {text : String}
    (h : (s.sql.run ⟨session.recorded, r⟩).1 = .ok text) {m : Int} (hm : 0 < m) :
    let d := s.dialect
    let k := max 0 (s.options.offset.getD 0)
    ∃ o source bound, s.resolved = .ok o ∧
      Sql.pageSource d .select session.idField o = .ok source ∧
      Sql.window? d bound = some ((Page.mk m k).window d) ∧
      (∀ page, s.options.page? = some page → ∃ own, text = source ++ own ∧
        Sql.window? d own = some (page.window d)) ∧
      ∀ (ρ : Type) (rows : List ρ),
        let counted := ((Page.mk m k).window d).rows rows
        (counted.length ≤ (s.options.rowsOf d rows).length ↔
          ∀ page, s.options.page? = some page → m ≤ page.count ∨ rows.length ≤ k + page.count ∨
            d = .mssql ∧ 0 < k ∧ Decimal.greatestInt64 ≤ k + page.count) ∧
        (counted.length ≤ m ↔
          d ≠ .mssql ∨ k = 0 ∨ rows.length < k + m ∨ Decimal.greatestInt64 < k + m) ∧
        ∀ c r₁, session.Attains r c r₁ → ∀ w, (c.allRows (countText (source ++ bound))).run r₁.world
            = (.ok [⟨[(countColumn, .int counted.length)]⟩], w) →
          ∀ (repository : Repository ε) (asked : List String),
            (Desk.onSession (s.count (some m))).run ⟨⟨session.recorded, r⟩, repository, asked⟩
              = (.ok counted.length, ⟨⟨(session.on c).recorded,
                { r₁.sending (countText (source ++ bound)) with world := w }⟩, repository, asked⟩) := by
  intro d k
  have htext : (Query.select s).text session.idField = .ok text :=
    text_of_run_sql ⟨session.recorded, r⟩ h
  rw [text_eq] at htext
  obtain ⟨o, ho, htext⟩ := bind_eq_ok_iff.1 htext
  have hpage : o.page? = s.options.page? := resolved_page? ho
  have hoffset : o.offset = s.options.offset := by
    obtain ⟨conditions, having, rfl⟩ := exists_of_resolved ho
    rfl
  have hk : 0 ≤ k := Int.le_max_left 0 _
  obtain ⟨source, bound, hsource, hwindow, hcount⟩ := exists_text_capped ho htext hm
  rw [hoffset] at hwindow
  refine ⟨o, source, bound, ho, hsource, hwindow, ?_, ?_⟩
  · intro page hown
    obtain ⟨own, hrender, hread⟩ := Dialect.renderSelect_window s.dialect session.idField
      (hpage.trans hown)
    rw [htext, hsource] at hrender
    exact ⟨own, Except.ok.inj hrender, hread⟩
  · intro ρ rows counted
    refine ⟨?_, Page.length_window_le_count_iff hm hk rows, ?_⟩
    · unfold QueryOptions.rowsOf
      cases hown : s.options.page? with
      | none => exact iff_of_true (Page.length_window_le m hk rows) nofun
      | some page =>
        obtain ⟨n, start⟩ := page
        obtain ⟨hn, rfl⟩ := QueryOptions.page?_bounds hown
        refine (Page.length_window_le_iff hm hn hk rows).trans ?_
        constructor
        · rintro hle _ ⟨⟩
          exact hle
        · intro hle
          exact hle _ rfl
    · intro c r₁ hc w hanswer repository asked
      rw [s.run_count_attained hcount hc repository asked, hanswer]
      simp only [List.head?_cons, countOfRow_int]

/-- Two rows of a table with ten, counted up to five, are five. -/
theorem run_count_some_greater :
    let s : Select Row :=
      { dialect := .mysql, idField := "id", options := { table := some "t", number := some 2 } }
    let c : Connection Unit :=
      { execute := fun _ => pure 0
        query := fun _ => pure (.ofRows [⟨[(countColumn, .int 5)]⟩])
        batch := fun _ => pure () }
    let session : Session Unit :=
      { name := "a", config := {}, connector := fun _ => pure c, connection := some c }
    let d : Desk (Recorded Unit) Row :=
      ⟨⟨session.recorded, { world := () }⟩, { ofRow := .ok, table := "t" }, []⟩
    (s.sql.run d.channel).1 = .ok "SELECT \x60t\x60.* FROM \x60t\x60 LIMIT 2" ∧
      ((Desk.onSession (s.count (some 5))).run d).1 = .ok 5 ∧
      ((Desk.onSession (s.count (some 5))).run d).2.channel.world.statements
        = ["SELECT COUNT(*) row_count FROM (SELECT \x60t\x60.* FROM \x60t\x60 LIMIT 5) oq"] ∧
      ¬ 5 ≤ (s.options.rowsOf .mysql (List.range 10)).length := by
  intro s c session d
  have htext : (s.sql.run d.channel).1
      = .ok "SELECT \x60t\x60.* FROM \x60t\x60 LIMIT 2" := by
    have h : (s.sql.run d.channel).1.toOption
      = some "SELECT \x60t\x60.* FROM \x60t\x60 LIMIT 2" := by decide +kernel
    revert h
    cases (s.sql.run d.channel).1 with
    | error e => exact nofun
    | ok sql => exact congrArg Except.ok ∘ Option.some.inj
  obtain ⟨o, source, bound, -, -, -, -, hcounts⟩ :=
    run_count_some s session { world := () } htext (show (0 : Int) < 5 by decide)
  obtain ⟨hle, -, hrun⟩ := hcounts Nat (List.range 10)
  have hcount := hrun c _ (.already c rfl) () rfl { ofRow := .ok, table := "t" } []
  have hsent : ((Desk.onSession (s.count (some 5))).run d).2.channel.world.statements
      = ["SELECT COUNT(*) row_count FROM (SELECT \x60t\x60.* FROM \x60t\x60 LIMIT 5) oq"] := by
    decide +kernel
  refine ⟨htext, congrArg Prod.fst hcount, hsent, ?_⟩
  intro h
  have hno := hle.1 h ⟨2, 0⟩ rfl
  revert hno
  decide

end Select

end SqlGateway
