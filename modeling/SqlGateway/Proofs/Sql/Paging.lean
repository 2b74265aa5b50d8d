import SqlGateway.Proofs.Dialect.Causes
import SqlGateway.Proofs.Sql.Insertion

/-!
# Pages

A paged query is a source of rows and, at the end of its text, a bound on them.
MySQL and PostgreSQL skip rows and count the rest; SQL Server numbers the rows
from 1 and bounds the number on both sides.  Bounds are read off the text and
applied to any list of rows.

    the page of n rows at offset k   =   rows k+1 .. k+n   in MySQL and PostgreSQL, and at offset 0
    the page of n rows at offset k   =   rows k .. k+n     in SQL Server, where 0 < k

So pages of SQL Server have a row more than asked for, and each begins with the
last row of the page before it.
-/

namespace SqlGateway

/-! ## Algorithm -/

namespace QueryOptions

def paged (o : QueryOptions) (count offset : Nat) : QueryOptions :=
  { o with number := some count, offset := some offset }

def unpaged (o : QueryOptions) : QueryOptions :=
  { o with number := none, offset := none }

end QueryOptions

namespace Sql

/-- A bound on rows that come in an order. -/
inductive Window where
  | limit (skipped count : Nat)
  /-- Rows with a number up to `last`; the first row has number 1. -/
  | upTo (last : Nat)
  | between (first last : Nat)
  deriving DecidableEq

section

variable {ρ : Type}

/-- The rows whose number has the property. -/
def numbered (p : Nat → Bool) (rows : List ρ) : List ρ :=
  ((rows.zipIdx 1).filter fun row => p row.2).map Prod.fst

def Window.rows : Window → List ρ → List ρ
  | .limit skipped count, rows => (rows.drop skipped).take count
  | .upTo last, rows => numbered (fun i => decide (i ≤ last)) rows
  | .between first last, rows => numbered (fun i => decide (first ≤ i ∧ i ≤ last)) rows

end

/-- A whole number without a sign. -/
def natural? (d : Dialect) : Reader Nat := fun cs =>
  match next? d cs with
  | some (.number r, rest) =>
    if r.den = 1 ∧ 0 ≤ r.num then some (r.num.toNat, rest) else none
  | _ => none

/-- The window, when nothing but blanks follows it. -/
def ended? (cs : List Char) (w : Window) : Option Window :=
  if skipBlanks cs = [] then some w else none

def isAtMost (t : Token) : Bool := t = .symbol "<="

/-- `LIMIT count` or `LIMIT skipped,count`, in MySQL. -/
def limitWindow? (cs : List Char) : Option Window := do
  let cs ← expect? .mysql (Token.isKeyword "LIMIT") cs
  let (first, cs) ← natural? .mysql cs
  match expect? .mysql isComma cs with
  | none => ended? cs (.limit 0 first)
  | some cs => do
    let (count, cs) ← natural? .mysql cs
    ended? cs (.limit first count)

/-- `LIMIT count`, perhaps with `OFFSET skipped` behind it, in PostgreSQL. -/
def offsetWindow? (cs : List Char) : Option Window := do
  let cs ← expect? .pgsql (Token.isKeyword "LIMIT") cs
  let (count, cs) ← natural? .pgsql cs
  match expect? .pgsql (Token.isKeyword "OFFSET") cs with
  | none => ended? cs (.limit 0 count)
  | some cs => do
    let (skipped, cs) ← natural? .pgsql cs
    ended? cs (.limit skipped count)

/-- The column that the rows are numbered in. -/
def rownum? (cs : List Char) : Option (List Char) := do
  let cs ← expect? .mssql (Token.isKeyword "a") cs
  let cs ← expect? .mssql isDot cs
  expect? .mssql (Token.isKeyword "rownum") cs

/-- `a.rownum <= last` or `a.rownum BETWEEN first AND last`, both ends included, in SQL Server. -/
def numberWindow? (cs : List Char) : Option Window := do
  let cs ← rownum? cs
  match expect? .mssql isAtMost cs with
  | some cs => do
    let (last, cs) ← natural? .mssql cs
    ended? cs (.upTo last)
  | none => do
    let cs ← expect? .mssql (Token.isKeyword "BETWEEN") cs
    let (first, cs) ← natural? .mssql cs
    let cs ← expect? .mssql (Token.isKeyword "AND") cs
    let (last, cs) ← natural? .mssql cs
    ended? cs (.between first last)

/-- What the end of a paged query says about its rows. -/
def window? (d : Dialect) (s : String) : Option Window :=
  match d with
  | .mysql => limitWindow? s.toList
  | .pgsql => offsetWindow? s.toList
  | .mssql => numberWindow? s.toList

/-- The kinds of query whose pages have an offset. -/
def hasPages (d : Dialect) : QueryKind → Bool
  | .select => true
  | .update | .delete => d = .mssql
  | .insert => false

/-- A paged query up to the bound on its rows. -/
def pageSource (d : Dialect) (kind : QueryKind) (idField : String) (o : QueryOptions) :
    Except BuildError String :=
  match d, kind with
  | .mssql, .select => do
    let table ← o.tableName
    let what ← Dialect.selectList .mssql o table
    return "SELECT * FROM (" ++ Dialect.sentence (Dialect.selectHead .mssql o table
      (what ++ ", " ++ Dialect.rowNumberColumn idField o)) ++ ") AS a WHERE "
  | .mssql, .update => do
    let table ← o.tableName
    let fields ← o.someFields
    let sets ← Dialect.setList .mssql fields
    return Dialect.numberedRows .mssql idField o table ++ " UPDATE a SET " ++ sets ++ " WHERE "
  | .mssql, .delete => do
    let table ← o.tableName
    return Dialect.numberedRows .mssql idField o table ++ " DELETE FROM a WHERE "
  | _, _ => (d.render kind idField o.unpaged).map (· ++ " ")

/-- The bound on the rows of a page. -/
def pageText (d : Dialect) (count offset : Nat) : String :=
  match d with
  | .mysql =>
    if 0 < offset then "LIMIT " ++ Decimal.ofNat offset ++ "," ++ Decimal.ofNat count
    else "LIMIT " ++ Decimal.ofNat count
  | .pgsql =>
    if 0 < offset then "LIMIT " ++ Decimal.ofNat count ++ " OFFSET " ++ Decimal.ofNat offset
    else "LIMIT " ++ Decimal.ofNat count
  | .mssql =>
    if 0 < offset then
      "a.rownum BETWEEN " ++ Decimal.ofNat offset ++ " AND " ++ Decimal.ofNat (offset + count)
    else "a.rownum <= " ++ Decimal.ofNat count

def windowOf (d : Dialect) (count offset : Nat) : Window :=
  match d with
  | .mysql | .pgsql => .limit offset count
  | .mssql => if 0 < offset then .between offset (offset + count) else .upTo count

/-! ## The text of a page -/

theorem sentence_append (ps qs : List String) (hp : ps ≠ []) (hq : qs ≠ []) :
    Dialect.sentence (ps ++ qs) = Dialect.sentence ps ++ " " ++ Dialect.sentence qs := by
  obtain ⟨p, ps, rfl⟩ := List.exists_cons_of_ne_nil hp
  obtain ⟨q, qs, rfl⟩ := List.exists_cons_of_ne_nil hq
  apply String.toList_injective
  rw [List.cons_append, toList_sentence, spaced_append, String.toList_append,
    String.toList_append, toList_sentence, toList_sentence]
  simp [spaced]

theorem ofInt_natCast (n : Nat) : Decimal.ofInt n = Decimal.ofNat n := by
  rw [Decimal.ofInt, if_neg (by omega), Int.natAbs_natCast]

theorem page?_paged (o : QueryOptions) {n : Nat} (hn : 0 < n) (k : Nat) :
    (o.paged n k).page? = some ⟨n, k⟩ := by
  simp [QueryOptions.page?, QueryOptions.paged, Nat.pos_iff_ne_zero.1 hn]

theorem rowBound_paged {n k : Nat} (h : (k + n : Int) ≤ Decimal.greatestInt64) :
    "a.rownum " ++ Page.rowBound ⟨n, k⟩ = pageText .mssql n k := by
  have hsum : ((k : Int) + n) = ((k + n : Nat) : Int) := by omega
  unfold Page.rowBound pageText
  by_cases hk : 0 < k
  · have hk' : 0 < (k : Int) := by omega
    have hleast : min ((k : Int) + n) Decimal.greatestInt64 = ((k + n : Nat) : Int) := by omega
    simp only [if_pos hk, if_pos hk', hleast, ofInt_natCast, ← String.append_assoc]
    rfl
  · have hk' : ¬ 0 < (k : Int) := by omega
    simp only [if_neg hk, if_neg hk', ofInt_natCast, ← String.append_assoc]
    rfl

theorem limitClause_paged (d : Dialect) (hd : d ≠ .mssql) (o : QueryOptions) {n : Nat}
    (hn : 0 < n) (k : Nat) :
    d.limitClause (o.paged n k) ≠ [] ∧
      Dialect.sentence (d.limitClause (o.paged n k)) = pageText d n k := by
  have hone : ∀ s : String, Dialect.sentence [s] = s := by
    intro s
    simp [Dialect.sentence]
  unfold Dialect.limitClause
  rw [page?_paged o hn k]
  simp only [ofInt_natCast]
  have hoffset : " " ++ ("OFFSET " ++ Decimal.ofNat k) = " OFFSET " ++ Decimal.ofNat k := by
    rw [← String.append_assoc]
    rfl
  cases d with
  | mssql => exact absurd rfl hd
  | mysql => by_cases hk : 0 < k <;> simp [hk, pageText, hone]
  | pgsql => by_cases hk : 0 < k <;> simp [hk, pageText, Dialect.sentence, String.append_assoc, hoffset]

/-- A clause for the bound stands at the end of the query, which is otherwise the same. -/
theorem renderSelect_limited (d : Dialect) (hd : d ≠ .mssql) (idField : String)
    (o : QueryOptions) {n : Nat} (hn : 0 < n) (k : Nat) :
    d.renderSelect idField (o.paged n k)
      = ((d.renderSelect idField o.unpaged).map (· ++ " ")).map (· ++ pageText d n k) := by
  obtain ⟨hne, htext⟩ := limitClause_paged d hd o hn k
  have hnone : d.limitClause o.unpaged = [] := by cases d <;> rfl
  have htail : ∀ parts : List String, parts ≠ [] →
      Dialect.sentence (parts ++ d.limitClause (o.paged n k))
        = Dialect.sentence (parts ++ d.limitClause o.unpaged) ++ " " ++ pageText d n k := by
    intro parts hparts
    rw [sentence_append parts _ hparts hne, htext, hnone, List.append_nil]
  have hhead : ∀ table what, d.selectHead o table what ++ orderByClause o ≠ [] := by
    intro table what
    simp [Dialect.selectHead]
  unfold Dialect.renderSelect
  show (o.tableName).bind _ = ((o.tableName.bind _).map _).map _
  cases o.tableName with
  | error e => rfl
  | ok table =>
    show (d.selectList o table).bind _ = (((d.selectList o table).bind _).map _).map _
    cases d.selectList o table with
    | error e => rfl
    | ok what =>
      have hsentence := htail _ (hhead table what)
      cases d with
      | mssql => exact absurd rfl hd
      | mysql => exact congrArg Except.ok hsentence
      | pgsql => exact congrArg Except.ok hsentence

section

variable (idField : String) {o : QueryOptions} {page : Page}

/-- In SQL Server the source of a page is a query of its own, with a bound on its numbers. -/
theorem renderSelect_numbered (hpage : o.page? = some page) :
    Dialect.renderSelect .mssql idField o
      = (pageSource .mssql .select idField o).map (· ++ ("a.rownum " ++ page.rowBound)) := by
  have hsplit : (") AS a WHERE a.rownum " : String) = ") AS a WHERE " ++ "a.rownum " := rfl
  unfold Dialect.renderSelect pageSource
  show (o.tableName).bind _ = (o.tableName.bind _).map _
  cases o.tableName with
  | error e => rfl
  | ok table =>
    show (Dialect.selectList .mssql o table).bind _
      = ((Dialect.selectList .mssql o table).bind _).map _
    cases Dialect.selectList .mssql o table with
    | error e => rfl
    | ok what =>
      simp only [Except.bind, hpage, Except.map, pure, Except.pure, hsplit, String.append_assoc]

theorem renderUpdate_numbered (hpage : o.page? = some page) :
    Dialect.renderUpdate .mssql idField o
      = (pageSource .mssql .update idField o).map (· ++ ("a.rownum " ++ page.rowBound)) := by
  have hsplit : (" WHERE a.rownum " : String) = " WHERE " ++ "a.rownum " := rfl
  unfold Dialect.renderUpdate pageSource
  show (o.tableName).bind _ = (o.tableName.bind _).map _
  cases o.tableName with
  | error e => rfl
  | ok table =>
    show (o.someFields).bind _ = (o.someFields.bind _).map _
    cases o.someFields with
    | error e => rfl
    | ok fields =>
      show (Dialect.setList .mssql fields).bind _ = ((Dialect.setList .mssql fields).bind _).map _
      cases Dialect.setList .mssql fields with
      | error e => rfl
      | ok sets =>
        simp only [Except.bind, hpage, Except.map, pure, Except.pure, hsplit, String.append_assoc]

theorem renderDelete_numbered (hpage : o.page? = some page) :
    Dialect.renderDelete .mssql idField o
      = (pageSource .mssql .delete idField o).map (· ++ ("a.rownum " ++ page.rowBound)) := by
  have hsplit : (" DELETE FROM a WHERE a.rownum " : String)
      = " DELETE FROM a WHERE " ++ "a.rownum " := rfl
  unfold Dialect.renderDelete pageSource
  show (o.tableName).bind _ = (o.tableName.bind _).map _
  cases o.tableName with
  | error e => rfl
  | ok table =>
    simp only [Except.bind, hpage, Except.map, pure, Except.pure, hsplit, String.append_assoc]

end

theorem render_page (d : Dialect) {kind : QueryKind} (hkind : hasPages d kind = true)
    (idField : String) (o : QueryOptions) {n k : Nat} (hn : 0 < n)
    (h : (k + n : Int) ≤ Decimal.greatestInt64) :
    d.render kind idField (o.paged n k)
      = (pageSource d kind idField o).map (· ++ pageText d n k) := by
  have hpage := page?_paged o hn k
  cases d with
  | mysql =>
    cases kind with
    | select => exact renderSelect_limited .mysql (by decide) idField o hn k
    | update | delete | insert => cases hkind
  | pgsql =>
    cases kind with
    | select => exact renderSelect_limited .pgsql (by decide) idField o hn k
    | update | delete | insert => cases hkind
  | mssql =>
    rw [← rowBound_paged h]
    cases kind with
    | select => exact renderSelect_numbered idField hpage
    | update => exact renderUpdate_numbered idField hpage
    | delete => exact renderDelete_numbered idField hpage
    | insert => cases hkind

/-- What keeps a query from being written keeps each of its pages from it. -/
theorem pageSource_error (d : Dialect) {kind : QueryKind} (hkind : hasPages d kind = true)
    (idField : String) (o : QueryOptions) (e : BuildError) :
    pageSource d kind idField o = .error e ↔ d.render kind idField o.unpaged = .error e := by
  have hmap : ∀ r : Except BuildError String, r.map (· ++ " ") = .error e ↔ r = .error e := by
    intro r
    cases r <;> simp [Except.map]
  have hok : ∀ s t : String, (.ok s : Except BuildError String) = .error e
      ↔ (.ok t : Except BuildError String) = .error e := by
    intro s t
    simp
  cases d with
  | mysql => exact hmap _
  | pgsql => exact hmap _
  | mssql =>
    cases kind with
    | select =>
      refine bind_eq_error_congr fun table => ?_
      exact bind_eq_error_congr fun what => hok _ _
    | update =>
      refine bind_eq_error_congr fun table => ?_
      refine bind_eq_error_congr fun fields => ?_
      exact bind_eq_error_congr fun sets => hok _ _
    | delete => exact bind_eq_error_congr fun table => hok _ _
    | insert => cases hkind

/-! ## Reading the bound -/

theorem natural?_ofNat (d : Dialect) (n : Nat) (rest : List Char) (hr : Delimited rest) :
    natural? d ((Decimal.ofNat n).toList ++ rest) = some (n, rest) := by
  rw [natural?, next?_ofNat d n rest hr]
  simp

theorem natural?_space (d : Dialect) (cs : List Char) : natural? d (' ' :: cs) = natural? d cs := by
  rw [natural?, natural?, next?_space]

theorem natural?_last (d : Dialect) (n : Nat) :
    natural? d (Decimal.ofNat n).toList = some (n, []) := by
  have h := natural?_ofNat d n [] delimited_nil
  rwa [List.append_nil] at h

/-- A keyword that is written with a blank behind it. -/
theorem expect?_keyword (d : Dialect) (w : String) (rest : List Char)
    (hw : isWord w.toList = true) (hself : Token.isKeyword w (.word w) = true) :
    expect? d (Token.isKeyword w) (w.toList ++ ' ' :: rest) = some (' ' :: rest) := by
  rw [expect?_word d _ w.toList _ hw (endsWord_space rest), String.ofList_toList, if_pos hself]

theorem ended?_nil (w : Window) : ended? [] w = some w := rfl

theorem window?_mysql (n k : Nat) :
    window? .mysql (pageText .mysql n k) = some (windowOf .mysql n k) := by
  have hlimit : ∀ rest, expect? .mysql (Token.isKeyword "LIMIT") ("LIMIT ".toList ++ rest)
      = some (' ' :: rest) := fun rest => expect?_keyword .mysql "LIMIT" rest (by decide) (by decide)
  have hcount := natural?_last .mysql n
  unfold pageText window? windowOf limitWindow?
  rcases Nat.eq_zero_or_pos k with rfl | hk
  · have hend : expect? .mysql isComma [] = none := rfl
    simp only [Nat.lt_irrefl, if_false, String.toList_append, hlimit, natural?_space, hcount, hend,
      Option.bind_eq_bind, Option.bind_some, ended?_nil]
  · have hskipped := natural?_ofNat .mysql k (',' :: (Decimal.ofNat n).toList) (delimited_comma _)
    have hcomma : expect? .mysql isComma (',' :: (Decimal.ofNat n).toList)
        = some (Decimal.ofNat n).toList := expect?_mark .mysql isComma ',' _ (by decide)
    have htext : ("LIMIT " ++ Decimal.ofNat k ++ "," ++ Decimal.ofNat n).toList
        = "LIMIT ".toList ++ ((Decimal.ofNat k).toList ++ ',' :: (Decimal.ofNat n).toList) := by
      simp
    simp only [if_pos hk, htext, hlimit, natural?_space, hskipped, hcomma, hcount,
      Option.bind_eq_bind, Option.bind_some, ended?_nil]

theorem window?_pgsql (n k : Nat) :
    window? .pgsql (pageText .pgsql n k) = some (windowOf .pgsql n k) := by
  have hlimit : ∀ rest, expect? .pgsql (Token.isKeyword "LIMIT") ("LIMIT ".toList ++ rest)
      = some (' ' :: rest) := fun rest => expect?_keyword .pgsql "LIMIT" rest (by decide) (by decide)
  unfold pageText window? windowOf offsetWindow?
  rcases Nat.eq_zero_or_pos k with rfl | hk
  · have hend : expect? .pgsql (Token.isKeyword "OFFSET") [] = none := rfl
    have hcount := natural?_last .pgsql n
    simp only [Nat.lt_irrefl, if_false, String.toList_append, hlimit, natural?_space, hcount, hend,
      Option.bind_eq_bind, Option.bind_some, ended?_nil]
  · have hcount := natural?_ofNat .pgsql n (' ' :: ("OFFSET ".toList ++ (Decimal.ofNat k).toList))
      (delimited_cons ' ' _ (.inl rfl))
    have hoffset : expect? .pgsql (Token.isKeyword "OFFSET")
        ("OFFSET ".toList ++ (Decimal.ofNat k).toList) = some (' ' :: (Decimal.ofNat k).toList) :=
      expect?_keyword .pgsql "OFFSET" (Decimal.ofNat k).toList (by decide) (by decide)
    have hskipped := natural?_last .pgsql k
    have htext : ("LIMIT " ++ Decimal.ofNat n ++ " OFFSET " ++ Decimal.ofNat k).toList
        = "LIMIT ".toList ++ ((Decimal.ofNat n).toList
          ++ ' ' :: ("OFFSET ".toList ++ (Decimal.ofNat k).toList)) := by
      simp
    simp only [if_pos hk, htext, hlimit, natural?_space, hcount, expect?_space, hoffset, hskipped,
      Option.bind_eq_bind, Option.bind_some, ended?_nil]

theorem rownum?_text (rest : List Char) :
    rownum? ("a.rownum ".toList ++ rest) = some (' ' :: rest) := by
  have hname : expect? .mssql (Token.isKeyword "a") ("a.rownum ".toList ++ rest)
      = some (".rownum ".toList ++ rest) := by
    refine expect?_word .mssql _ ['a'] (".rownum ".toList ++ rest) (by decide) ?_
    intro c hc
    cases hc
    decide
  have hdot : expect? .mssql isDot (".rownum ".toList ++ rest)
      = some ("rownum ".toList ++ rest) := expect?_mark .mssql isDot '.' _ (by decide)
  have hcolumn : expect? .mssql (Token.isKeyword "rownum") ("rownum ".toList ++ rest)
      = some (' ' :: rest) := expect?_keyword .mssql "rownum" rest (by decide) (by decide)
  unfold rownum?
  simp only [hname, hdot, hcolumn, Option.bind_eq_bind, Option.bind_some]

theorem window?_upTo (n : Nat) :
    window? .mssql (pageText .mssql n 0) = some (.upTo n) := by
  have hatMost : expect? .mssql isAtMost ("<= ".toList ++ (Decimal.ofNat n).toList)
      = some (' ' :: (Decimal.ofNat n).toList) := by
    have hends : EndsSymbol (' ' :: (Decimal.ofNat n).toList) := by
      intro c hc
      cases hc
      exact .inl (by decide)
    have h := next?_symbol .mssql ['<', '='] (' ' :: (Decimal.ofNat n).toList) (by decide)
      (by intro c hc; cases hc; rfl) hends
    show expect? .mssql isAtMost (['<', '='] ++ ' ' :: (Decimal.ofNat n).toList) = _
    rw [expect?, h]
    rfl
  have hlast := natural?_last .mssql n
  have htext : ("a.rownum <= " ++ Decimal.ofNat n).toList
      = "a.rownum ".toList ++ ("<= ".toList ++ (Decimal.ofNat n).toList) := by
    simp
  unfold pageText window? numberWindow?
  simp only [Nat.lt_irrefl, if_false, htext, rownum?_text, expect?_space, hatMost, natural?_space,
    hlast, Option.bind_eq_bind, Option.bind_some, ended?_nil]

theorem window?_between (first last : Nat) :
    window? .mssql ("a.rownum BETWEEN " ++ Decimal.ofNat first ++ " AND " ++ Decimal.ofNat last)
      = some (.between first last) := by
  have hword : ∀ rest, next? .mssql ("BETWEEN ".toList ++ rest) = some (.word "BETWEEN", ' ' :: rest) :=
    fun rest => next?_keyword .mssql "BETWEEN" (' ' :: rest) (by decide) (endsWord_space rest)
  have hno : ∀ rest, expect? .mssql isAtMost ("BETWEEN ".toList ++ rest) = none := by
    intro rest
    rw [expect?, hword]
    rfl
  have hyes : ∀ rest, expect? .mssql (Token.isKeyword "BETWEEN") ("BETWEEN ".toList ++ rest)
      = some (' ' :: rest) := by
    intro rest
    rw [expect?, hword]
    rfl
  have hfirst := natural?_ofNat .mssql first
    (' ' :: ("AND ".toList ++ (Decimal.ofNat last).toList)) (delimited_cons ' ' _ (.inl rfl))
  have hand : expect? .mssql (Token.isKeyword "AND")
      ("AND ".toList ++ (Decimal.ofNat last).toList) = some (' ' :: (Decimal.ofNat last).toList) :=
    expect?_keyword .mssql "AND" (Decimal.ofNat last).toList (by decide) (by decide)
  have hlast := natural?_last .mssql last
  have htext : ("a.rownum BETWEEN " ++ Decimal.ofNat first ++ " AND " ++ Decimal.ofNat last).toList
      = "a.rownum ".toList ++ ("BETWEEN ".toList ++ ((Decimal.ofNat first).toList
        ++ ' ' :: ("AND ".toList ++ (Decimal.ofNat last).toList))) := by
    simp
  unfold window? numberWindow?
  simp only [htext, rownum?_text, expect?_space, hno, hyes, natural?_space, hfirst, hand, hlast,
    Option.bind_eq_bind, Option.bind_some, ended?_nil]

theorem window?_pageText (d : Dialect) (n k : Nat) :
    window? d (pageText d n k) = some (windowOf d n k) := by
  cases d with
  | mysql => exact window?_mysql n k
  | pgsql => exact window?_pgsql n k
  | mssql =>
    rcases Nat.eq_zero_or_pos k with rfl | hk
    · exact window?_upTo n
    · rw [windowOf, pageText, if_pos hk, if_pos hk]
      exact window?_between k (k + n)

/-! ## The rows of a page -/

section

variable {ρ : Type}

theorem filter_zipIdx_between (rows : List ρ) (start first last : Nat) :
    ((rows.zipIdx start).filter fun row => decide (first ≤ row.2 ∧ row.2 ≤ last)).map Prod.fst
      = (rows.drop (first - start)).take (last + 1 - max first start) := by
  induction rows generalizing start with
  | nil => simp
  | cons row rows ih =>
    rw [List.zipIdx_cons]
    by_cases hbelow : start < first
    · have hskip : first - start = first - (start + 1) + 1 := by omega
      have hmax : max first start = max first (start + 1) := by omega
      rw [List.filter_cons_of_neg (by simp; omega), ih, hskip, List.drop_succ_cons, hmax]
    · have hdrop : first - start = 0 := by omega
      have hdrop' : first - (start + 1) = 0 := by omega
      have hmax : max first start = start := by omega
      have hmax' : max first (start + 1) = start + 1 := by omega
      by_cases habove : start ≤ last
      · have htake : last + 1 - start = last - start + 1 := by omega
        rw [List.filter_cons_of_pos (by simp; omega), List.map_cons, ih, hdrop, hdrop', hmax, hmax',
          List.drop_zero, List.drop_zero, htake, List.take_succ_cons]
        simp
      · have htake : last + 1 - start = 0 := by omega
        have htake' : last + 1 - (start + 1) = 0 := by omega
        rw [List.filter_cons_of_neg (by simp; omega), ih, hmax, hmax', htake, htake',
          List.take_zero, List.take_zero]

theorem rows_between {first : Nat} (h : 0 < first) (last : Nat) (rows : List ρ) :
    (Window.between first last).rows rows = (rows.drop (first - 1)).take (last + 1 - first) := by
  have hmax : max first 1 = first := by omega
  rw [Window.rows, numbered, filter_zipIdx_between, hmax]

theorem rows_upTo (n : Nat) (rows : List ρ) : (Window.upTo n).rows rows = rows.take n := by
  have hsame : (fun row : ρ × Nat => decide (row.2 ≤ n))
      = fun row => decide (0 ≤ row.2 ∧ row.2 ≤ n) := by
    funext row
    simp
  rw [Window.rows, numbered, hsame, filter_zipIdx_between]
  simp

theorem flatMap_pages (rows : List ρ) (n m : Nat) :
    (List.range m).flatMap (fun i => (rows.drop (i * n)).take n) = rows.take (m * n) := by
  induction m with
  | zero => simp
  | succ m ih =>
    rw [List.range_succ, List.flatMap_append, ih, List.flatMap_singleton, Nat.succ_mul,
      List.take_add]

theorem getLast?_take_drop {rows : List ρ} {row : ρ} {i n : Nat}
    (h : rows[i + n]? = some row) : ((rows.drop i).take (n + 1)).getLast? = some row := by
  rw [List.take_add_one, List.getElem?_drop, h]
  simp

/-- Pages of `n` rows that follow each other without a gap and share no row. -/
structure ExactPages (d : Dialect) (n : Nat) (rows : List ρ) : Prop where
  page : ∀ k, (windowOf d n k).rows rows = (rows.drop k).take n
  length_le : ∀ k, ((windowOf d n k).rows rows).length ≤ n
  /-- The first `m` pages are the first `m * n` rows, each once and in order. -/
  pages : ∀ m, (List.range m).flatMap (fun i => (windowOf d n (i * n)).rows rows) = rows.take (m * n)

/-- Pages of which all but the first have a row too many, at their front. -/
structure OverlappingPages (d : Dialect) (n : Nat) (rows : List ρ) : Prop where
  first : (windowOf d n 0).rows rows = rows.take n
  later : ∀ k, 0 < k → (windowOf d n k).rows rows = (rows.drop (k - 1)).take (n + 1)
  /-- The last row of a full page is the first of the next one. -/
  shared : ∀ i row, rows[(i + 1) * n - 1]? = some row →
    ((windowOf d n (i * n)).rows rows).getLast? = some row ∧
      ((windowOf d n ((i + 1) * n)).rows rows).head? = some row

theorem exactPages (d : Dialect) (hd : d ≠ .mssql) (n : Nat) (rows : List ρ) :
    ExactPages d n rows := by
  have hpage : ∀ k, (windowOf d n k).rows rows = (rows.drop k).take n := by
    intro k
    cases d with
    | mssql => exact absurd rfl hd
    | mysql => rfl
    | pgsql => rfl
  constructor
  · exact hpage
  · intro k
    rw [hpage]
    exact List.length_take_le n _
  · intro m
    simp only [hpage]
    exact flatMap_pages rows n m

theorem overlappingPages {n : Nat} (hn : 0 < n) (rows : List ρ) :
    OverlappingPages .mssql n rows := by
  have hfirst : (windowOf .mssql n 0).rows rows = rows.take n := rows_upTo n rows
  have hlater : ∀ k, 0 < k → (windowOf .mssql n k).rows rows = (rows.drop (k - 1)).take (n + 1) := by
    intro k hk
    have hcount : k + n + 1 - k = n + 1 := by omega
    rw [windowOf, if_pos hk, rows_between hk, hcount]
  refine ⟨hfirst, hlater, ?_⟩
  intro i row hrow
  have hnext : 0 < (i + 1) * n := Nat.mul_pos (by omega) hn
  constructor
  · rcases Nat.eq_zero_or_pos i with rfl | hi
    · have hlast : rows[0 + (n - 1)]? = some row := by
        rw [← hrow]
        congr 1
        omega
      have h := getLast?_take_drop hlast
      rw [Nat.sub_add_cancel hn, List.drop_zero] at h
      rw [Nat.zero_mul, hfirst]
      exact h
    · have hk : 0 < i * n := Nat.mul_pos hi hn
      have hlast : rows[i * n - 1 + n]? = some row := by
        rw [← hrow, Nat.succ_mul]
        congr 1
        omega
      rw [hlater _ hk]
      exact getLast?_take_drop hlast
  · rw [hlater _ hnext, List.head?_take, if_neg (by omega), List.head?_drop, hrow]

end

/-- **Pages of a query.**  A page is the same source of rows with a bound on them at its end; the
bounds of MySQL and PostgreSQL make exact pages, those of SQL Server pages that overlap. -/
theorem render_paged (d : Dialect) (kind : QueryKind) (hkind : hasPages d kind = true)
    (idField : String) (o : QueryOptions) (n : Nat) (hn : 0 < n) :
    (∀ e, pageSource d kind idField o = .error e ↔ d.render kind idField o.unpaged = .error e) ∧
    (∀ k : Nat, (k + n : Int) ≤ Decimal.greatestInt64 → ∃ bound,
      d.render kind idField (o.paged n k) = (pageSource d kind idField o).map (· ++ bound) ∧
      window? d bound = some (windowOf d n k)) ∧
    ∀ (ρ : Type) (rows : List ρ),
      (d ≠ .mssql → ExactPages d n rows) ∧ (d = .mssql → OverlappingPages d n rows) := by
  refine ⟨pageSource_error d hkind idField o, ?_, ?_⟩
  · intro k hk
    exact ⟨pageText d n k, render_page d hkind idField o hn hk, window?_pageText d n k⟩
  · intro ρ rows
    refine ⟨fun hd => exactPages d hd n rows, ?_⟩
    rintro rfl
    exact overlappingPages hn rows

/-- The third page of five rows in SQL Server has six, from the tenth on. -/
theorem render_paged_numbered :
    hasPages .mssql .select = true ∧ 0 < 5 ∧ ((10 : Nat) + (5 : Nat) : Int) ≤ Decimal.greatestInt64 ∧
    (∃ bound, Dialect.render .mssql .select "id" (QueryOptions.paged { table := some "t" } 5 10)
        = (pageSource .mssql .select "id" { table := some "t" }).map (· ++ bound) ∧
      window? .mssql bound = some (.between 10 15)) ∧
    (Window.between 10 15).rows (List.range' 1 20) = [10, 11, 12, 13, 14, 15] := by
  have h := render_paged .mssql .select rfl "id" { table := some "t" } 5 (by decide)
  have hrows := ((h.2.2 Nat (List.range' 1 20)).2 rfl).later 10 (by decide)
  exact ⟨rfl, by decide, by decide, h.2.1 10 (by decide), hrows⟩

end Sql

end SqlGateway
