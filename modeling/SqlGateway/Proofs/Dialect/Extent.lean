import SqlGateway.Dialect.Render

/-!
# Extents

How many rows a statement is about and in which order.  Number, offset, order
and id field act on a text through its extent alone: the page when the number is
positive, the order when it is not blank, and in SQL Server the order that rows
are numbered in.

    extent d kind id o' = extent d kind id o   implies   render d kind id o' = render d kind id o

where `o'` differs from `o` in number, offset, order and id field.
-/

namespace SqlGateway

/-! ## Algorithm -/

/-- The rows that a text says it is about. -/
structure Extent where
  page : Option Page := none
  order : Option String := none
  deriving DecidableEq

namespace QueryOptions

/-- The same query about other rows. -/
def taking (o : QueryOptions) (number offset : Option Int) (orderBy idField : Option String) :
    QueryOptions :=
  { o with number, offset, orderBy, idField }

def order? (o : QueryOptions) : Option String :=
  o.orderBy.bind Text.nonBlank?

end QueryOptions

/-- A page without its offset. -/
def Page.first (p : Page) : Page :=
  { p with offset := 0 }

/-- MySQL takes no offset in an update or a delete, PostgreSQL no page and no order; SQL Server has
an order for numbered rows only, and in a select that is not paged. -/
def Dialect.extent (d : Dialect) (kind : QueryKind) (idField : String) (o : QueryOptions) :
    Extent :=
  match d, kind, o.page? with
  | _, .insert, _ => {}
  | .mssql, _, some page => { page := some page, order := some (numberingOrder idField o) }
  | _, .select, page => { page, order := o.order? }
  | .mysql, _, page => { page := page.map Page.first, order := o.order? }
  | _, _, _ => {}

/-! ## Clauses -/

namespace Dialect

section

variable {o o' : QueryOptions}

theorem orderByClause_congr (h : o'.order? = o.order?) : orderByClause o' = orderByClause o := by
  unfold QueryOptions.order? at h
  unfold orderByClause worded
  rw [h]

theorem limitClause_congr (d : Dialect) (h : o'.page? = o.page?) :
    d.limitClause o' = d.limitClause o := by
  unfold limitClause
  rw [h]

/-- The offset of the page is not read. -/
theorem rowCountClause_eq (o : QueryOptions) :
    rowCountClause o
      = ((o.page?.map Page.first).map fun p => "LIMIT " ++ Decimal.ofInt p.count).toList := by
  unfold rowCountClause
  cases o.page? <;> rfl

end

/-! ## Statements -/

section

variable {idField idField' : String} {o : QueryOptions} {number offset : Option Int}
  {orderBy field : Option String}

theorem rowNumberColumn_congr {o o' : QueryOptions}
    (h : numberingOrder idField' o' = numberingOrder idField o) :
    rowNumberColumn idField' o' = rowNumberColumn idField o := by
  unfold rowNumberColumn
  rw [h]

/-- A page of SQL Server is numbered, and so is every page like it. -/
theorem extent_numbered {kind : QueryKind} (hkind : kind ≠ .insert) {o o' : QueryOptions}
    (h : extent .mssql kind idField' o' = extent .mssql kind idField o) :
    o'.page? = o.page? ∧
      (∀ page, o.page? = some page → numberingOrder idField' o' = numberingOrder idField o) ∧
      (kind = .select → o.page? = none → o'.order? = o.order?) := by
  unfold extent at h
  cases kind with
  | insert => exact absurd rfl hkind
  | select | update | delete =>
    cases hp : o.page? with
    | none => cases hp' : o'.page? <;> simp_all
    | some page => cases hp' : o'.page? <;> simp_all

theorem renderSelect_congr (d : Dialect)
    (h : d.extent .select idField' (o.taking number offset orderBy field)
      = d.extent .select idField o) :
    d.renderSelect idField' (o.taking number offset orderBy field) = d.renderSelect idField o := by
  have hplain : ∀ table what,
      (o.taking number offset orderBy field).page? = o.page? →
      (o.taking number offset orderBy field).order? = o.order? →
      sentence (d.selectHead (o.taking number offset orderBy field) table what
        ++ orderByClause (o.taking number offset orderBy field)
        ++ d.limitClause (o.taking number offset orderBy field))
      = sentence (d.selectHead o table what ++ orderByClause o ++ d.limitClause o) := by
    intro table what hpage horder
    rw [orderByClause_congr horder, limitClause_congr d hpage]
    rfl
  unfold renderSelect
  refine bind_congr fun table => ?_
  refine bind_congr fun what => ?_
  cases d with
  | mysql =>
    obtain ⟨hpage, horder⟩ := Extent.mk.inj h
    exact congrArg Except.ok (hplain table what hpage horder)
  | pgsql =>
    obtain ⟨hpage, horder⟩ := Extent.mk.inj h
    exact congrArg Except.ok (hplain table what hpage horder)
  | mssql =>
    obtain ⟨hpage, hnumbering, horder⟩ := extent_numbered (by decide) h
    rw [hpage]
    cases hp : o.page? with
    | none => exact congrArg Except.ok (hplain table what hpage (horder rfl hp))
    | some page =>
      simp only [rowNumberColumn_congr (hnumbering page hp)]
      rfl

theorem numberedRows_congr {table : String}
    (h : numberingOrder idField' (o.taking number offset orderBy field) = numberingOrder idField o) :
    numberedRows .mssql idField' (o.taking number offset orderBy field) table
      = numberedRows .mssql idField o table := by
  unfold numberedRows
  rw [rowNumberColumn_congr h]
  rfl

theorem renderUpdate_congr (d : Dialect)
    (h : d.extent .update idField' (o.taking number offset orderBy field)
      = d.extent .update idField o) :
    d.renderUpdate idField' (o.taking number offset orderBy field) = d.renderUpdate idField o := by
  unfold renderUpdate
  refine bind_congr fun table => ?_
  refine bind_congr fun fields => ?_
  refine bind_congr fun sets => ?_
  cases d with
  | mysql =>
    obtain ⟨hpage, horder⟩ := Extent.mk.inj h
    simp only [orderByClause_congr horder, rowCountClause_eq, hpage]
    rfl
  | pgsql => rfl
  | mssql =>
    obtain ⟨hpage, hnumbering, -⟩ := extent_numbered (by decide) h
    rw [hpage]
    cases hp : o.page? with
    | none => rfl
    | some page => simp only [numberedRows_congr (hnumbering page hp)]

theorem renderDelete_congr (d : Dialect)
    (h : d.extent .delete idField' (o.taking number offset orderBy field)
      = d.extent .delete idField o) :
    d.renderDelete idField' (o.taking number offset orderBy field) = d.renderDelete idField o := by
  unfold renderDelete
  refine bind_congr fun table => ?_
  cases d with
  | mysql =>
    obtain ⟨hpage, horder⟩ := Extent.mk.inj h
    simp only [orderByClause_congr horder, rowCountClause_eq, hpage]
    rfl
  | pgsql => rfl
  | mssql =>
    obtain ⟨hpage, hnumbering, -⟩ := extent_numbered (by decide) h
    rw [hpage]
    cases hp : o.page? with
    | none => rfl
    | some page => simp only [numberedRows_congr (hnumbering page hp)]

/-- A text tells of rows by its extent alone. -/
theorem render_congr (d : Dialect) (kind : QueryKind)
    (h : d.extent kind idField' (o.taking number offset orderBy field) = d.extent kind idField o) :
    d.render kind idField' (o.taking number offset orderBy field) = d.render kind idField o := by
  cases kind with
  | select => exact renderSelect_congr d h
  | update => exact renderUpdate_congr d h
  | delete => exact renderDelete_congr d h
  | insert => rfl

end

/-! ## Options -/

/-- Options with the same page and the same order differ at most in the order of numbered rows. -/
theorem extent_congr {d : Dialect} {kind : QueryKind} {idField idField' : String}
    {o o' : QueryOptions} (hpage : o'.page? = o.page?) (horder : o'.order? = o.order?)
    (hnumbering : ∀ page, d = .mssql → kind ≠ .insert → o.page? = some page →
      numberingOrder idField' o' = numberingOrder idField o) :
    d.extent kind idField' o' = d.extent kind idField o := by
  unfold extent
  rw [hpage, horder]
  cases kind with
  | insert => rfl
  | select | update | delete =>
    cases d with
    | mysql | pgsql => rfl
    | mssql =>
      cases hp : o.page? with
      | none => rfl
      | some page => simp only [hnumbering page rfl (by decide) hp]

/-- The id fields are read when no order is given. -/
theorem numberingOrder_congr {idField idField' : String} {o o' : QueryOptions} {order : String}
    (h : o.order? = some order) (h' : o'.order? = some order) :
    numberingOrder idField' o' = numberingOrder idField o := by
  unfold QueryOptions.order? at h h'
  unfold numberingOrder
  rw [h, h', Option.getD_some, Option.getD_some]

theorem numberingOrder_default {idField idField' : String} {o : QueryOptions} {field : String}
    (h : o.idField.bind Text.nonBlank? = some field) :
    numberingOrder idField' o = numberingOrder idField o := by
  unfold numberingOrder
  rw [h, Option.getD_some, Option.getD_some]

end Dialect

namespace QueryOptions

theorem page?_eq_none {o : QueryOptions} (h : o.number.getD 0 ≤ 0) : o.page? = none := by
  unfold page?
  cases hn : o.number with
  | none => rfl
  | some n =>
    rw [hn, Option.getD_some] at h
    exact if_neg (by omega)

theorem page?_congr {o o' : QueryOptions} (hnumber : o'.number = o.number)
    (hoffset : max 0 (o'.offset.getD 0) = max 0 (o.offset.getD 0)) : o'.page? = o.page? := by
  unfold page?
  rw [hnumber, hoffset]

/-- A page that changes with its offset changes in nothing else. -/
theorem first_page?_congr {o o' : QueryOptions} (hnumber : o'.number = o.number) :
    o'.page?.map Page.first = o.page?.map Page.first := by
  unfold page?
  rw [hnumber]
  cases o.number with
  | none => rfl
  | some n =>
    by_cases hn : 0 < n
    · simp only [if_pos hn]
      rfl
    · simp only [if_neg hn]

end QueryOptions

namespace Dialect

section

variable (d : Dialect) (kind : QueryKind) (idField : String) (o : QueryOptions)

theorem render_not_paged {number number' : Option Int} (offset offset' : Option Int)
    (h : number.getD 0 ≤ 0) (h' : number'.getD 0 ≤ 0) :
    d.render kind idField { o with number, offset }
      = d.render kind idField { o with number := number', offset := offset' } := by
  refine render_congr d kind (o := { o with number := number', offset := offset' }) ?_
  have hnone : ({ o with number := number', offset := offset' } : QueryOptions).page? = none :=
    QueryOptions.page?_eq_none h'
  refine extent_congr ((QueryOptions.page?_eq_none h).trans hnone.symm) rfl ?_
  intro page _ _ hpage
  rw [hnone] at hpage
  cases hpage

theorem render_first_page (number : Option Int) {offset offset' : Option Int}
    (h : offset.getD 0 ≤ 0) (h' : offset'.getD 0 ≤ 0) :
    d.render kind idField { o with number, offset }
      = d.render kind idField { o with number, offset := offset' } := by
  refine render_congr d kind (o := { o with number, offset := offset' }) ?_
  have hoffset : max 0 (offset.getD 0) = max 0 (offset'.getD 0) := by omega
  exact extent_congr (QueryOptions.page?_congr rfl hoffset) rfl fun _ _ _ _ => rfl

theorem render_offset_unread (h : kind = .insert ∨ d = .mysql ∧ kind ≠ .select)
    (offset : Option Int) :
    d.render kind idField { o with offset } = d.render kind idField o := by
  refine render_congr d kind ?_
  have hfirst : ({ o with offset } : QueryOptions).page?.map Page.first
      = o.page?.map Page.first := QueryOptions.first_page?_congr rfl
  obtain rfl | ⟨rfl, hkind⟩ := h
  · cases d <;> rfl
  · cases kind with
    | select => exact absurd rfl hkind
    | insert => rfl
    | update | delete => exact congrArg (Extent.mk · o.order?) hfirst

theorem render_page_unread (h : d = .pgsql) (hkind : kind = .update ∨ kind = .delete)
    (number offset : Option Int) (orderBy : Option String) :
    d.render kind idField { o with number, offset, orderBy } = d.render kind idField o := by
  refine render_congr d kind ?_
  subst h
  obtain rfl | rfl := hkind <;> rfl

/-- Id fields show in numbered rows for which no order is given. -/
theorem render_idField_read {idField' : String} {field : Option String}
    (h : d.render kind idField' { o with idField := field } ≠ d.render kind idField o) :
    d = .mssql ∧ kind ≠ .insert ∧ 0 < o.number.getD 0 ∧ o.order? = none := by
  refine Classical.byContradiction fun hno => ?_
  refine h (render_congr d kind (extent_congr rfl rfl ?_))
  intro page hd hkind hpage
  have hnumber : 0 < o.number.getD 0 := by
    rcases Int.lt_or_le 0 (o.number.getD 0) with hn | hn
    · exact hn
    · rw [QueryOptions.page?_eq_none hn] at hpage
      cases hpage
  cases horder : o.order? with
  | none => exact absurd ⟨hd, hkind, hnumber, horder⟩ hno
  | some order => exact numberingOrder_congr horder horder

/-- The default one shows when no id field is given either. -/
theorem render_default_read {idField' : String}
    (h : d.render kind idField' o ≠ d.render kind idField o) :
    o.idField.bind Text.nonBlank? = none := by
  cases hfield : o.idField.bind Text.nonBlank? with
  | none => rfl
  | some field =>
    refine absurd (render_congr d kind (extent_congr rfl rfl ?_)) h
    intro page _ _ _
    exact numberingOrder_default hfield

end

/-- **What the options of a page act on.**  Number and offset act through a positive number, offset
through one that is positive as well; where a text has no place for them they do not act, and id
fields act on the order of numbered rows alone. -/
theorem render_paging_options (d : Dialect) (kind : QueryKind) (idField : String)
    (o : QueryOptions) :
    (∀ number number' offset offset', number.getD 0 ≤ 0 → number'.getD 0 ≤ 0 →
      d.render kind idField { o with number, offset }
        = d.render kind idField { o with number := number', offset := offset' }) ∧
    (∀ number offset offset', offset.getD 0 ≤ 0 → offset'.getD 0 ≤ 0 →
      d.render kind idField { o with number, offset }
        = d.render kind idField { o with number, offset := offset' }) ∧
    (kind = .insert ∨ d = .mysql ∧ kind ≠ .select → ∀ offset,
      d.render kind idField { o with offset } = d.render kind idField o) ∧
    (d = .pgsql → kind = .update ∨ kind = .delete → ∀ number offset orderBy,
      d.render kind idField { o with number, offset, orderBy } = d.render kind idField o) ∧
    (∀ idField' field,
      d.render kind idField' { o with idField := field } ≠ d.render kind idField o →
      d = .mssql ∧ kind ≠ .insert ∧ 0 < o.number.getD 0 ∧ o.order? = none) ∧
    ∀ idField', d.render kind idField' o ≠ d.render kind idField o →
      o.idField.bind Text.nonBlank? = none := by
  refine ⟨?_, ?_, ?_, ?_, ?_, ?_⟩
  · exact fun _ _ offset offset' h h' => render_not_paged d kind idField o offset offset' h h'
  · exact fun number _ _ h h' => render_first_page d kind idField o number h h'
  · exact render_offset_unread d kind idField o
  · exact render_page_unread d kind idField o
  · exact fun _ _ h => render_idField_read d kind idField o h
  · exact fun _ h => render_default_read d kind idField o h

/-- In SQL Server the default id field is read in a paged delete; a negative number is no page. -/
theorem render_paging_options_numbered :
    Dialect.render .mssql .delete "key" { table := some "t", number := some 5, orderBy := some " " }
      ≠ Dialect.render .mssql .delete "id"
        { table := some "t", number := some 5, orderBy := some " " } ∧
    QueryOptions.order? { table := some "t", number := some 5, orderBy := some " " } = none ∧
    Dialect.render .mssql .delete "id" { table := some "t", number := some (-5), offset := some 7 }
      = Dialect.render .mssql .delete "id" { table := some "t" } := by
  have hread : Dialect.render .mssql .delete "key"
        { table := some "t", number := some 5, orderBy := some " " }
      ≠ Dialect.render .mssql .delete "id"
        { table := some "t", number := some 5, orderBy := some " " } := by
    intro h
    have htext := Except.ok.inj h
    revert htext
    decide +kernel
  have h := render_paging_options .mssql .delete "id"
    { table := some "t", number := some 5, orderBy := some " " }
  have h' := render_paging_options .mssql .delete "id" { table := some "t" }
  exact ⟨hread, (h.2.2.2.2.1 "key" none hread).2.2.2, h'.1 _ _ _ _ (by decide) (by decide)⟩

end Dialect

end SqlGateway
