import SqlGateway.Proofs.Dialect.Parts
import SqlGateway.Proofs.Request.Count
import SqlGateway.Proofs.Request.Draft

/-!
# Contributions call by call

`set` gives an update one more assignment, `addField` a select one more field
and `addRow` an insert one more row.  What comes of it stands in one place of
the text, and nothing else in the text changes.

    set        the assignments so far and the new ones; fields of any other kind are gone
    addField   the list so far and the new fields; behind a `*` if there are no fields at all
    addRow     the rows so far and the new ones

A blank list counts as none where it is read, but not where it is added to, so
that fields added to it stand there without a `*`.
-/

namespace SqlGateway

variable {ε : Type}

/-! ## Algorithm -/

namespace Command

/-- One assignment after another. -/
def sets (c : Command) (pairs : List (String × Value)) : Command :=
  pairs.foldl (fun c pair => c.set pair.1 pair.2) c

/-- One row after another. -/
def addRows (c : Command) (rows : List (List (String × Value))) : Command :=
  rows.foldl addRow c

def withFields (c : Command) (fields : Fields) : Command :=
  c.mapRequest fun r => r.fields fields

end Command

namespace Select

/-- One field after another. -/
def addFields (s : Select ε) (fields : List String) : Select ε :=
  fields.foldl addField s

def withFields (s : Select ε) (fields : Fields) : Select ε :=
  s.mapRequest fun r => r.fields fields

end Select

namespace Fields

/-- The assignments that others are added to. -/
def assigned : Option Fields → List (String × Value)
  | some (.assignments pairs) => pairs
  | _ => []

/-- The rows that others are added to. -/
def inserted : Option Fields → List (List (String × Value))
  | some (.rows items) => items
  | some (.assignments first) => [first]
  | _ => []

/-- What is selected with these fields besides. -/
def selected (what : Option Fields) (more : List String) : Fields :=
  match what with
  | some (.raw sql) => .raw (",".intercalate (sql :: more))
  | some (.list items) => .list (items ++ more)
  | _ => .list ("*" :: more)

/-- The list of a select behind `earlier`, which is the one it has had so far. -/
def lengthened (what : Option Fields) (earlier : String) (more : List String) : String :=
  match what with
  | some (.raw sql) =>
    (if Text.isBlankText sql then sql else earlier) ++ "," ++ ",".intercalate more
  | some (.list items) =>
    (if items.isEmpty then "" else earlier ++ ", ") ++ ", ".intercalate more
  | _ => "*, " ++ ", ".intercalate more

end Fields

/-- What an update sets behind `earlier`, which is what it has set so far. -/
def Dialect.setsBehind (d : Dialect) (fields : Fields) (earlier : String)
    (pairs : List (String × Value)) : String :=
  match fields with
  | .assignments _ => earlier ++ ", " ++ d.assignments pairs
  | _ => d.assignments pairs

/-! ## Calls -/

/-- Calls of which each puts its own behind what is there put all of it there together. -/
theorem foldl_eq_of_behind {α γ : Type} {call : γ → α → γ} (behind : γ → List α → γ)
    (hone : ∀ c a, call c a = behind c [a])
    (hmore : ∀ c a as, behind (behind c [a]) as = behind c (a :: as)) (c : γ) {as : List α}
    (hne : as ≠ []) : as.foldl call c = behind c as := by
  induction as generalizing c with
  | nil => exact absurd rfl hne
  | cons a as ih =>
    rw [List.foldl_cons]
    cases as with
    | nil => exact hone c a
    | cons b as => rw [ih _ (by simp), hone, hmore]

namespace Command

variable (c : Command)

theorem set_eq (column : String) (value : Value) :
    c.set column value
      = c.withFields (.assignments (Fields.assigned c.options.what ++ [(column, value)])) := by
  have hwhat : (match c.options.what with
      | some (.assignments pairs) => some (Fields.assignments (pairs ++ [(column, value)]))
      | _ => some (.assignments [(column, value)]))
      = some (.assignments (Fields.assigned c.options.what ++ [(column, value)])) := by
    rcases c.options.what with _ | fields
    · rfl
    · cases fields <;> rfl
  exact congrArg (fun what => c.mapOptions fun o => { o with what }) hwhat

theorem addRow_eq (row : List (String × Value)) :
    c.addRow row = c.withFields (.rows (Fields.inserted c.options.what ++ [row])) := by
  have hwhat : (match c.options.what with
      | some (.rows items) => some (Fields.rows (items ++ [row]))
      | some (.assignments first) => some (.rows [first, row])
      | _ => some (.rows [row]))
      = some (.rows (Fields.inserted c.options.what ++ [row])) := by
    rcases c.options.what with _ | fields
    · rfl
    · cases fields <;> rfl
  exact congrArg (fun what => c.mapOptions fun o => { o with what }) hwhat

/-- Of the fields so far, only assignments outlast the first call. -/
theorem sets_eq {pairs : List (String × Value)} (hne : pairs ≠ []) :
    c.sets pairs = c.withFields (.assignments (Fields.assigned c.options.what ++ pairs)) := by
  refine foldl_eq_of_behind
    (fun c pairs => withFields c (.assignments (Fields.assigned c.options.what ++ pairs)))
    (fun c pair => set_eq c pair.1 pair.2) (fun c pair pairs => ?_) c hne
  show c.withFields (.assignments ((Fields.assigned c.options.what ++ [pair]) ++ pairs)) = _
  rw [List.append_assoc, List.singleton_append]

theorem addRows_eq {rows : List (List (String × Value))} (hne : rows ≠ []) :
    c.addRows rows = c.withFields (.rows (Fields.inserted c.options.what ++ rows)) := by
  refine foldl_eq_of_behind
    (fun c rows => withFields c (.rows (Fields.inserted c.options.what ++ rows)))
    addRow_eq (fun c row rows => ?_) c hne
  show c.withFields (.rows ((Fields.inserted c.options.what ++ [row]) ++ rows)) = _
  rw [List.append_assoc, List.singleton_append]

end Command

theorem Fields.selected_selected (what : Option Fields) (field : String) (more : List String) :
    selected (some (selected what [field])) more = selected what (field :: more) := by
  rcases what with _ | fields
  · rfl
  · cases fields with
    | raw sql =>
      refine congrArg Fields.raw ?_
      rw [String.intercalate_cons_cons, String.intercalate_singleton]
      cases more with
      | nil => simp [String.intercalate_cons_cons]
      | cons field' more => simp only [String.intercalate_cons_cons, String.append_assoc]
    | list items => exact congrArg Fields.list (List.append_assoc items [field] more)
    | _ => rfl

theorem Select.addField_eq (s : Select ε) (field : String) :
    s.addField field = s.withFields (Fields.selected s.options.what [field]) := by
  have hwhat : (match s.options.what with
      | some (.raw sql) => some (Fields.raw (sql ++ "," ++ field))
      | some (.list items) => some (.list (items ++ [field]))
      | _ => some (.list ["*", field]))
      = some (Fields.selected s.options.what [field]) := by
    rcases s.options.what with _ | fields
    · rfl
    · cases fields with
      | raw sql => simp [Fields.selected, String.intercalate_cons_cons]
      | _ => rfl
  exact congrArg (fun what => s.mapOptions fun o => { o with what }) hwhat

theorem Select.addFields_eq (s : Select ε) {fields : List String} (hne : fields ≠ []) :
    s.addFields fields = s.withFields (Fields.selected s.options.what fields) := by
  refine foldl_eq_of_behind (fun s fields => withFields s (Fields.selected s.options.what fields))
    addField_eq (fun s field fields => ?_) s hne
  show s.withFields (Fields.selected (some (Fields.selected s.options.what [field])) fields) = _
  rw [Fields.selected_selected]

/-! ## Texts -/

section

variable {idField sql : String}

/-- A command that has a text has one with other fields as far as these can be written. -/
theorem Command.text_withFields {c : Command}
    (h : (Query.command (ε := ε) c).text idField = .ok sql) :
    ∃ o : QueryOptions, o.what = c.options.what ∧
      c.dialect.render c.kind.queryKind idField o = .ok sql ∧
      ∀ fields, (Query.command (ε := ε) (c.withFields fields)).text idField
        = c.dialect.render c.kind.queryKind idField { o with what := some fields } := by
  obtain ⟨o, ho, hrender⟩ := bind_eq_ok_iff.1 h
  obtain ⟨conditions, hconditions, hoptions⟩ := bind_eq_ok_iff.1 ho
  have hwhat := (QueryOptions.laid_eq c.kind.queryKind { o with output := some .sqlText }).2
  refine ⟨QueryOptions.laid c.kind.queryKind { o with output := some .sqlText }, ?_, hrender, ?_⟩
  · rw [hwhat]
    cases hoptions
    rfl
  · intro fields
    have hresolved : (c.withFields fields).resolved = .ok { o with what := some fields } := by
      show (Condition.texts c.dialect c.conditions >>= _) = _
      rw [hconditions]
      cases hoptions
      rfl
    show ((c.withFields fields).resolved >>= _) = _
    rw [hresolved]
    show c.dialect.render c.kind.queryKind idField (QueryOptions.laid c.kind.queryKind
      { o with what := some fields, output := some .sqlText }) = _
    rcases c.kind with _ | _ | _ <;> rfl

/-- A select that has a text has one with other fields as far as these can be written. -/
theorem Select.text_withFields {s : Select ε} (h : (Query.select s).text idField = .ok sql) :
    ∃ o : QueryOptions, o.what = s.options.what ∧ o.tableAlias = s.options.tableAlias ∧
      o.tableName = s.options.tableName ∧ s.dialect.renderSelect idField o = .ok sql ∧
      ∀ fields, (Query.select (s.withFields fields)).text idField
        = s.dialect.renderSelect idField { o with what := some fields } := by
  rw [text_eq] at h
  obtain ⟨o, ho, hrender⟩ := bind_eq_ok_iff.1 h
  have hfields : ∀ fields, (s.withFields fields).resolved
      = s.resolved >>= fun o => .ok { o with what := some fields } := fun fields =>
    s.resolved_mapOptions fun _ _ _ _ => rfl
  obtain ⟨conditions, having, hoptions⟩ := exists_of_resolved ho
  have hname : o.tableName = s.options.tableName := by
    rw [hoptions]
    rfl
  refine ⟨o, by rw [hoptions], by rw [hoptions], hname, hrender, fun fields => ?_⟩
  rw [text_eq, hfields, ho]
  rfl

/-- What the text of an update is around what it sets. -/
theorem Command.text_update {c : Command} (hkind : c.kind = .update)
    (h : (Query.command (ε := ε) c).text idField = .ok sql) :
    ∃ before after earlier fields, c.options.what = some fields ∧ fields.isEmpty = false ∧
      c.dialect.setList fields = .ok earlier ∧ sql = before ++ earlier ++ after ∧
      ∀ (fields : Fields) (sets : String), fields.isEmpty = false →
        c.dialect.setList fields = .ok sets →
        (Query.command (ε := ε) (c.withFields fields)).text idField
          = .ok (before ++ sets ++ after) := by
  obtain ⟨o, hwhat, hrender, hfields⟩ := text_withFields h
  rw [hkind] at hrender hfields
  obtain ⟨table, htable, hrender'⟩ := bind_eq_ok_iff.1 hrender
  obtain ⟨fields, hsome, hrender'⟩ := bind_eq_ok_iff.1 hrender'
  obtain ⟨earlier, hearlier, -⟩ := bind_eq_ok_iff.1 hrender'
  obtain ⟨before, after, hplace⟩ := c.dialect.renderUpdate_place idField htable
  obtain ⟨howhat, hne⟩ := QueryOptions.what_of_someFields hsome
  have hhere := hplace fields earlier hne hearlier
  rw [← howhat] at hhere
  refine ⟨before, after, earlier, fields, hwhat.symm.trans howhat, hne, hearlier,
    Except.ok.inj (hrender.symm.trans hhere), fun fields' sets hne' hsets => ?_⟩
  rw [hfields]
  exact hplace fields' sets hne' hsets

/-- What the text of an insert is in front of what it inserts. -/
theorem Command.text_insert {c : Command} (hkind : c.kind = .insert)
    (h : (Query.command (ε := ε) c).text idField = .ok sql) :
    ∃ before source fields, c.options.what = some fields ∧ fields.isEmpty = false ∧
      c.dialect.insertSource fields = .ok source ∧ sql = before ++ trailed source ∧
      ∀ fields : Fields, fields.isEmpty = false →
        (Query.command (ε := ε) (c.withFields fields)).text idField
          = (c.dialect.insertSource fields).map fun source => before ++ trailed source := by
  obtain ⟨o, hwhat, hrender, hfields⟩ := text_withFields h
  rw [hkind] at hrender hfields
  obtain ⟨table, htable, hrender'⟩ := bind_eq_ok_iff.1 hrender
  obtain ⟨fields, hsome, hrender'⟩ := bind_eq_ok_iff.1 hrender'
  obtain ⟨source, hsource, -⟩ := bind_eq_ok_iff.1 hrender'
  obtain ⟨before, hplace⟩ := c.dialect.renderInsert_place htable
  obtain ⟨howhat, hne⟩ := QueryOptions.what_of_someFields hsome
  have hhere := hplace fields hne
  rw [← howhat, hsource] at hhere
  refine ⟨before, source, fields, hwhat.symm.trans howhat, hne, hsource,
    Except.ok.inj (hrender.symm.trans hhere), fun fields' hne' => ?_⟩
  rw [hfields]
  exact hplace fields' hne'

end

/-! ## Lists -/

namespace Dialect

variable {d : Dialect}

theorem setList_assigned {fields : Fields} {earlier : String} (hne : fields.isEmpty = false)
    (h : d.setList fields = .ok earlier) {pairs : List (String × Value)} (hpairs : pairs ≠ []) :
    d.setList (.assignments (Fields.assigned (some fields) ++ pairs))
      = .ok (d.setsBehind fields earlier pairs) := by
  cases fields with
  | assignments sofar =>
    cases h
    have hsofar : sofar.map d.assignment ≠ [] := by simpa [Fields.isEmpty] using hne
    refine congrArg Except.ok ?_
    rw [Fields.assigned, Dialect.assignments, List.map_append,
      String.intercalate_append_of_ne_nil hsofar (by simpa using hpairs)]
    rfl
  | _ => rfl

theorem selectList_selected {o : QueryOptions} {table earlier : String}
    (h : d.selectList o table = .ok earlier) {fields : List String} (hne : fields ≠ []) :
    d.selectList { o with what := some (Fields.selected o.what fields) } table
      = .ok (Fields.lengthened o.what earlier fields) := by
  have hstar : ", ".intercalate ("*" :: fields) = "*, " ++ ", ".intercalate fields :=
    String.intercalate_cons_of_ne_nil hne
  unfold selectList at h
  rcases hwhat : o.what with _ | sofar
  · exact congrArg Except.ok hstar
  · rw [hwhat] at h
    cases sofar with
    | raw sql =>
      have htext : ",".intercalate (sql :: fields) = sql ++ "," ++ ",".intercalate fields :=
        String.intercalate_cons_of_ne_nil hne
      -- the comma keeps a list that was added to from counting as blank again
      have hblank : Text.isBlankText (",".intercalate (sql :: fields)) = false := by
        rw [htext]
        simp [Text.isBlankText, show Text.isBlank ',' = false by decide]
      have hlist : d.selectList
          { o with what := some (.raw (",".intercalate (sql :: fields))) } table
            = .ok (",".intercalate (sql :: fields)) := by
        simp [selectList, Fields.isEmpty, hblank]
      rw [Fields.selected, Fields.lengthened, hlist, htext]
      cases hsql : Text.isBlankText sql with
      | true => rfl
      | false =>
        simp only [Fields.isEmpty, hsql] at h
        cases h
        rfl
    | list items =>
      have hlist : d.selectList { o with what := some (.list (items ++ fields)) } table
          = .ok (", ".intercalate (items ++ fields)) := by
        simp [selectList, Fields.isEmpty, hne]
      rw [Fields.selected, Fields.lengthened, hlist]
      cases items with
      | nil => simp
      | cons item items =>
        cases h
        exact congrArg Except.ok (String.intercalate_append_of_ne_nil (by simp) hne)
    | _ => exact congrArg Except.ok hstar

section

variable {fields : Fields} {first : List (String × Value)} {more : List (List (String × Value))}

theorem insertSource_differs (hrows : Sql.insertedRows? fields = some (first :: more))
    (hdiffers : ∃ row ∈ more, Sql.columnsOf row ≠ Sql.columnsOf first) :
    ∃ i, d.insertSource fields = .error (.unevenRow i) := by
  obtain ⟨row, hrow, hne⟩ := hdiffers
  have hamong : ∃ row ∈ first :: more, Sql.columnsOf row ≠ Sql.columnsOf first :=
    ⟨row, List.mem_cons_of_mem first hrow, hne⟩
  obtain ⟨i, -, -, -, -, hi⟩ := Sql.unevenRow?_of_differs hamong
  exact ⟨i, Sql.insertSource_uneven d hrows hi ⟨row, hrow, hne⟩⟩

/-- Rows that are written have the columns of the first. -/
theorem columnsOf_of_insertSource {source : List String} (h : d.insertSource fields = .ok source)
    (hrows : Sql.insertedRows? fields = some (first :: more)) :
    ∀ row ∈ more, Sql.columnsOf row = Sql.columnsOf first := by
  intro row hrow
  by_contra hne
  obtain ⟨i, hi⟩ := insertSource_differs (d := d) hrows ⟨row, hrow, hne⟩
  rw [h] at hi
  cases hi

end

end Dialect

/-! ## Contributions -/

section

variable {idField sql : String}

/-- Of what an update sets, only assignments stay. -/
theorem Command.text_sets {c : Command} (hkind : c.kind = .update)
    (h : (Query.command (ε := ε) c).text idField = .ok sql) {pairs : List (String × Value)}
    (hne : pairs ≠ []) :
    ∃ before after earlier fields, c.options.what = some fields ∧
      c.dialect.setList fields = .ok earlier ∧ sql = before ++ earlier ++ after ∧
      (Query.command (ε := ε) (c.sets pairs)).text idField
        = .ok (before ++ c.dialect.setsBehind fields earlier pairs ++ after) := by
  obtain ⟨before, after, earlier, fields, hwhat, hfields, hearlier, hsql, hplace⟩ :=
    text_update hkind h
  refine ⟨before, after, earlier, fields, hwhat, hearlier, hsql, ?_⟩
  rw [sets_eq c hne, hwhat]
  exact hplace _ _ (by simp [Fields.isEmpty, hne]) (Dialect.setList_assigned hfields hearlier hne)

/-- What a select reads stays, unless it counts as nothing. -/
theorem Select.text_addFields {s : Select ε} (h : (Query.select s).text idField = .ok sql)
    {fields : List String} (hne : fields ≠ []) :
    ∃ before after earlier table, s.options.tableName = .ok table ∧
      s.dialect.selectList s.options table = .ok earlier ∧ sql = before ++ earlier ++ after ∧
      (Query.select (s.addFields fields)).text idField
        = .ok (before ++ Fields.lengthened s.options.what earlier fields ++ after) := by
  obtain ⟨o, hwhat, halias, hname, hrender, hfields⟩ := text_withFields h
  obtain ⟨table, htable, hrender'⟩ := bind_eq_ok_iff.1 hrender
  obtain ⟨earlier, hearlier, -⟩ := bind_eq_ok_iff.1 hrender'
  obtain ⟨before, after, hplace⟩ := s.dialect.renderSelect_place idField htable
  have hsql : sql = before ++ earlier ++ after :=
    Except.ok.inj (hrender.symm.trans (hplace o.what earlier hearlier))
  have hlist : s.dialect.selectList s.options table = .ok earlier := by
    rw [← hearlier]
    simp only [Dialect.selectList, hwhat, halias]
  refine ⟨before, after, earlier, table, hname ▸ htable, hlist, hsql, ?_⟩
  rw [addFields_eq s hne, hfields, ← hwhat]
  exact hplace _ _ (Dialect.selectList_selected hearlier hne)

section

variable {c : Command} {fields : Fields} {earlier rows : List (List (String × Value))}
  (hwhat : c.options.what = some fields) (hrows : Sql.insertedRows? fields = some earlier)
  (hne : rows ≠ [])

include hwhat hrows hne

/-- The rows of an insert stay. -/
theorem Command.addRows_behind : c.addRows rows = c.withFields (.rows (earlier ++ rows)) := by
  have hinserted : Fields.inserted (some fields) = earlier := by
    cases fields with
    | raw | list => cases hrows
    | assignments | rows =>
      cases hrows
      rfl
  rw [addRows_eq c hne, hwhat, hinserted]

/-- Rows that have the columns of those before them stand behind them. -/
theorem Command.text_addRows (hkind : c.kind = .insert)
    (h : (Query.command (ε := ε) c).text idField = .ok sql) :
    ∃ before source first more, earlier = first :: more ∧
      c.dialect.insertSource fields = .ok source ∧ sql = before ++ trailed source ∧
      ((∀ row ∈ rows, Sql.columnsOf row = Sql.columnsOf first) →
        (Query.command (ε := ε) (c.addRows rows)).text idField
          = .ok (before ++ trailed
            ["(" ++ ", ".intercalate ((Sql.columnsOf first).map c.dialect.quoteIdentifier) ++ ")",
              "VALUES " ++ ", ".intercalate ((earlier ++ rows).map c.dialect.rowValues)])) ∧
      ((∃ row ∈ rows, Sql.columnsOf row ≠ Sql.columnsOf first) →
        ∃ i, (Query.command (ε := ε) (c.addRows rows)).text idField
          = .error (.unevenRow i)) := by
  obtain ⟨before, source, fields', hwhat', hnonempty, hsource, hsql, hplace⟩ := text_insert hkind h
  obtain rfl : fields' = fields := Option.some.inj (hwhat'.symm.trans hwhat)
  obtain ⟨first, more, rfl⟩ : ∃ first more, earlier = first :: more := by
    refine List.exists_cons_of_ne_nil ?_
    rintro rfl
    cases fields' <;> simp_all [Sql.insertedRows?, Fields.isEmpty]
  have htext : (Query.command (ε := ε) (c.addRows rows)).text idField
      = (c.dialect.insertSource (.rows (first :: (more ++ rows)))).map
        fun source => before ++ trailed source := by
    rw [addRows_behind hwhat hrows hne]
    exact hplace _ rfl
  rw [htext]
  refine ⟨before, source, first, more, rfl, hsource, hsql, fun hsame => ?_, fun hdiffers => ?_⟩
  · have hmore := Dialect.columnsOf_of_insertSource hsource hrows
    have hall : ∀ row ∈ more ++ rows, Sql.columnsOf row = Sql.columnsOf first := fun row hrow =>
      (List.mem_append.1 hrow).elim (hmore row) (hsame row)
    show (c.dialect.insertValues (first :: (more ++ rows))).map _ = _
    rw [Sql.insertValues_same c.dialect first (more ++ rows) hall]
    rfl
  · obtain ⟨row, hrow, hdiffers⟩ := hdiffers
    have huneven : ∃ i, c.dialect.insertSource (.rows (first :: (more ++ rows)))
        = .error (.unevenRow i) :=
      Dialect.insertSource_differs rfl ⟨row, List.mem_append_right more hrow, hdiffers⟩
    obtain ⟨i, hi⟩ := huneven
    exact ⟨i, by rw [hi]; rfl⟩

end

end

/-- **Contributions in order.**  What calls add to a request that has a text stands in one place of
it, in the order of the calls and behind what stood there.  An update keeps assignments and loses
fields of any other kind; a select keeps what it reads, or a `*` if it has no fields, but puts
nothing in front of fields added to a blank text or an empty list; an insert keeps its rows, and has
a text as long as all rows have the same columns. -/
theorem contributions_in_order (idField sql : String) :
    (∀ (c : Command) (pairs : List (String × Value)), c.kind = .update → pairs ≠ [] →
      (Query.command (ε := ε) c).text idField = .ok sql →
      ∃ before after earlier fields, c.options.what = some fields ∧
        c.dialect.setList fields = .ok earlier ∧ sql = before ++ earlier ++ after ∧
        (Query.command (ε := ε) (c.sets pairs)).text idField
          = .ok (before ++ c.dialect.setsBehind fields earlier pairs ++ after)) ∧
    (∀ (s : Select ε) (fields : List String), fields ≠ [] →
      (Query.select s).text idField = .ok sql →
      ∃ before after earlier table, s.options.tableName = .ok table ∧
        s.dialect.selectList s.options table = .ok earlier ∧ sql = before ++ earlier ++ after ∧
        (Query.select (s.addFields fields)).text idField
          = .ok (before ++ Fields.lengthened s.options.what earlier fields ++ after)) ∧
    ∀ (c : Command) (fields : Fields) (earlier rows : List (List (String × Value))),
      c.options.what = some fields → Sql.insertedRows? fields = some earlier → rows ≠ [] →
      c.addRows rows = c.withFields (.rows (earlier ++ rows)) ∧
      (c.kind = .insert → (Query.command (ε := ε) c).text idField = .ok sql →
        ∃ before source first more, earlier = first :: more ∧
          c.dialect.insertSource fields = .ok source ∧ sql = before ++ trailed source ∧
          ((∀ row ∈ rows, Sql.columnsOf row = Sql.columnsOf first) →
            (Query.command (ε := ε) (c.addRows rows)).text idField
              = .ok (before ++ trailed
                ["(" ++ ", ".intercalate ((Sql.columnsOf first).map c.dialect.quoteIdentifier)
                    ++ ")",
                  "VALUES " ++ ", ".intercalate ((earlier ++ rows).map c.dialect.rowValues)])) ∧
          ((∃ row ∈ rows, Sql.columnsOf row ≠ Sql.columnsOf first) →
            ∃ i, (Query.command (ε := ε) (c.addRows rows)).text idField
              = .error (.unevenRow i))) := by
  refine ⟨?_, ?_, ?_⟩
  · intro c pairs hkind hne h
    exact Command.text_sets hkind h hne
  · intro s fields hne h
    exact Select.text_addFields h hne
  · intro c fields earlier rows hwhat hrows hne
    exact ⟨Command.addRows_behind hwhat hrows hne, Command.text_addRows hwhat hrows hne⟩

/-- An update of which the first assignment is gone, and a select without the `*` that its empty
list is read as. -/
theorem contributions_in_order_lost :
    let c : Command :=
      { dialect := .mysql, idField := "id", kind := .update
        options := { table := some "t", what := some (.raw "a = a + 1") } }
    let s : Select Row :=
      { dialect := .mysql, idField := "id"
        options := { table := some "t", what := some (.list []) } }
    (∃ before after, "UPDATE `t` SET a = a + 1" = before ++ "a = a + 1" ++ after ∧
      (Query.command (ε := Row) (c.sets [("b", .int 2)])).text "id"
        = .ok (before ++ "`b`=2" ++ after)) ∧
    ∃ before after, "SELECT `t`.* FROM `t`" = before ++ "`t`.*" ++ after ∧
      (Query.select (s.addFields ["f"])).text "id" = .ok (before ++ "f" ++ after) := by
  intro c s
  have hupdate : (Query.command (ε := Row) c).text "id" = .ok "UPDATE `t` SET a = a + 1" := by
    decide +kernel
  have hselect : (Query.select s).text "id" = .ok "SELECT `t`.* FROM `t`" := by
    decide +kernel
  obtain ⟨before, after, earlier, fields, hwhat, hearlier, hsql, htext⟩ :=
    (contributions_in_order "id" _).1 c [("b", .int 2)] rfl (by simp) hupdate
  obtain ⟨before', after', earlier', table, htable, hearlier', hsql', htext'⟩ :=
    (contributions_in_order "id" _).2.1 s ["f"] (by simp) hselect
  cases hwhat
  cases hearlier
  cases htable
  cases hearlier'
  exact ⟨⟨before, after, hsql, htext⟩, before', after', hsql', htext'⟩

end SqlGateway
