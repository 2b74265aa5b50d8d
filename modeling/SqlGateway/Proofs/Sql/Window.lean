import SqlGateway.Proofs.Dialect.Extent
import SqlGateway.Proofs.Sql.Paging

/-!
# Windows

The page that a select asks for is a window on the rows of its source: read off
the end of the text, for every count and every offset.  Windows at one offset
differ only if there are rows to make a difference.

    text of a page      = source ++ bound,  where the bound reads as the window of the page
    rows of n at k      = min n (rows - k)             in MySQL and PostgreSQL, and at offset 0
    rows of n at k      = min (n + 1) (rows + 1 - k)   in SQL Server, where 0 < k

SQL Server's windows end at the greatest row number there is.
-/

namespace SqlGateway

/-! ## Algorithm -/

/-- The bound on the rows of a page.  SQL Server has it on their numbers, from that of the row before
the page on. -/
def Page.window (d : Dialect) (p : Page) : Sql.Window :=
  match d with
  | .mysql | .pgsql => .limit p.offset.toNat p.count.toNat
  | .mssql =>
    if 0 < p.offset then
      .between p.offset.toNat (min (p.offset + p.count) Decimal.greatestInt64).toNat
    else .upTo p.count.toNat

/-- The rows of a query, of all those that its source has. -/
def QueryOptions.rowsOf {ρ : Type} (d : Dialect) (o : QueryOptions) (rows : List ρ) : List ρ :=
  match o.page? with
  | some page => (page.window d).rows rows
  | none => rows

/-! ## Text -/

theorem QueryOptions.page?_bounds {o : QueryOptions} {page : Page} (h : o.page? = some page) :
    0 < page.count ∧ page.offset = max 0 (o.offset.getD 0) := by
  unfold page? at h
  split at h
  · split at h
    · cases h
      exact ⟨by assumption, rfl⟩
    · cases h
  · cases h

theorem ofInt_toNat {i : Int} (h : 0 ≤ i) : Decimal.ofInt i = Decimal.ofNat i.toNat := by
  rw [← Sql.ofInt_natCast, Int.toNat_of_nonneg h]

namespace Dialect

theorem window?_rowBound {page : Page} (hcount : 0 < page.count) (hoffset : 0 ≤ page.offset) :
    Sql.window? .mssql ("a.rownum " ++ page.rowBound) = some (page.window .mssql) := by
  unfold Page.rowBound Page.window
  by_cases h : 0 < page.offset
  · have hbound : ("a.rownum BETWEEN " : String) = "a.rownum " ++ "BETWEEN " := rfl
    have hlast : 0 ≤ min (page.offset + page.count) Decimal.greatestInt64 := by
      have hgreatest : 0 ≤ Decimal.greatestInt64 := by decide
      omega
    have hread := Sql.window?_between page.offset.toNat
      (min (page.offset + page.count) Decimal.greatestInt64).toNat
    rw [← ofInt_toNat hoffset, ← ofInt_toNat hlast] at hread
    simp only [hbound, String.append_assoc] at hread
    simp only [if_pos h, String.append_assoc]
    exact hread
  · have hbound : ("a.rownum <= " : String) = "a.rownum " ++ "<= " := rfl
    have hread := Sql.window?_upTo page.count.toNat
    unfold Sql.pageText at hread
    rw [if_neg (Nat.lt_irrefl 0), ← ofInt_toNat (by omega)] at hread
    simp only [hbound, String.append_assoc] at hread
    simp only [if_neg h]
    exact hread

/-- A paged select is its source with the window of the page at its end. -/
theorem renderSelect_window (d : Dialect) (idField : String) {o : QueryOptions} {page : Page}
    (hpage : o.page? = some page) :
    ∃ bound, d.renderSelect idField o
        = (Sql.pageSource d .select idField o).map (· ++ bound) ∧
      Sql.window? d bound = some (page.window d) := by
  obtain ⟨hcount, hstart⟩ := QueryOptions.page?_bounds hpage
  have hoffset : 0 ≤ page.offset := by omega
  have hlimited : d ≠ .mssql → ∃ bound, d.renderSelect idField o
        = (Sql.pageSource d .select idField o).map (· ++ bound) ∧
      Sql.window? d bound = some (page.window d) := by
    intro hd
    have hsame : (o.paged page.count.toNat page.offset.toNat).page? = o.page? := by
      rw [Sql.page?_paged o (by omega), hpage, Int.toNat_of_nonneg hoffset,
        Int.toNat_of_nonneg (by omega)]
    have hrender : d.renderSelect idField (o.paged page.count.toNat page.offset.toNat)
        = d.renderSelect idField o :=
      renderSelect_congr d (extent_congr hsame rfl fun _ _ _ _ => rfl)
    have hlimit := Sql.renderSelect_limited d hd idField o
      (show 0 < page.count.toNat by omega) page.offset.toNat
    refine ⟨Sql.pageText d page.count.toNat page.offset.toNat, ?_, ?_⟩
    · rw [← hrender, hlimit]
      cases d with
      | mssql => exact absurd rfl hd
      | mysql | pgsql => rfl
    · rw [Sql.window?_pageText]
      cases d with
      | mssql => exact absurd rfl hd
      | mysql | pgsql => rfl
  cases d with
  | mysql => exact hlimited (by decide)
  | pgsql => exact hlimited (by decide)
  | mssql =>
    exact ⟨"a.rownum " ++ page.rowBound, Sql.renderSelect_numbered idField hpage,
      window?_rowBound hcount hoffset⟩

end Dialect

/-! ## Rows -/

namespace Page

variable {ρ : Type} {d : Dialect} {k : Int}

/-- How many rows of the source are in a window: in SQL Server, behind an offset, one more than were
asked for as long as there are so many and so great a number. -/
theorem length_window (n : Int) (hk : 0 ≤ k) (rows : List ρ) :
    (((Page.mk n k).window d).rows rows).length
      = if d = .mssql ∧ 0 < k then
          min (min (k + n) Decimal.greatestInt64 + 1 - k).toNat (rows.length + 1 - k.toNat)
        else min n.toNat (rows.length - k.toNat) := by
  have hgreatest : 0 ≤ Decimal.greatestInt64 := by decide
  have hlimit : ((rows.drop k.toNat).take n.toNat).length = min n.toNat (rows.length - k.toNat) := by
    rw [List.length_take, List.length_drop]
  cases d with
  | mysql | pgsql => exact hlimit
  | mssql =>
    by_cases h : 0 < k
    · have hwindow : (Page.mk n k).window .mssql
          = .between k.toNat (min (k + n) Decimal.greatestInt64).toNat := if_pos h
      rw [hwindow, if_pos ⟨rfl, h⟩, Sql.rows_between (by omega), List.length_take, List.length_drop]
      omega
    · have hwindow : (Page.mk n k).window .mssql = .upTo n.toNat := if_neg h
      rw [hwindow, if_neg fun hp => h hp.2, Sql.rows_upTo, List.length_take]
      omega

theorem length_window_le (n : Int) (hk : 0 ≤ k) (rows : List ρ) :
    (((Page.mk n k).window d).rows rows).length ≤ rows.length := by
  rw [length_window n hk]
  split <;> omega

/-- Of two windows at one offset, the one for more rows has more if there are rows to make a
difference. -/
theorem length_window_le_iff {m n : Int} (hm : 0 < m) (hn : 0 < n) (hk : 0 ≤ k) (rows : List ρ) :
    (((Page.mk m k).window d).rows rows).length ≤ (((Page.mk n k).window d).rows rows).length
      ↔ m ≤ n ∨ rows.length ≤ k + n ∨
        d = .mssql ∧ 0 < k ∧ Decimal.greatestInt64 ≤ k + n := by
  rw [length_window m hk, length_window n hk]
  by_cases h : d = .mssql ∧ 0 < k
  · obtain ⟨hd, hpos⟩ := h
    simp only [hd, hpos, true_and, if_true]
    omega
  · have hno : ¬ (d = .mssql ∧ 0 < k ∧ Decimal.greatestInt64 ≤ k + n) :=
      fun ⟨hd, hpos, _⟩ => h ⟨hd, hpos⟩
    simp only [if_neg h, hno, or_false]
    omega

theorem length_window_le_count_iff {m : Int} (hm : 0 < m) (hk : 0 ≤ k) (rows : List ρ) :
    (((Page.mk m k).window d).rows rows).length ≤ m
      ↔ d ≠ .mssql ∨ k = 0 ∨ rows.length < k + m ∨ Decimal.greatestInt64 < k + m := by
  rw [length_window m hk]
  by_cases h : d = .mssql ∧ 0 < k
  · obtain ⟨hd, hpos⟩ := h
    simp only [hd, hpos, true_and, if_true, ne_eq, not_true, false_or]
    omega
  · have hyes : d ≠ .mssql ∨ k = 0 := by
      by_contra hno
      rw [not_or, not_not] at hno
      exact h ⟨hno.1, by omega⟩
    simp only [if_neg h, ← or_assoc, hyes, true_or, iff_true]
    omega

end Page

end SqlGateway
