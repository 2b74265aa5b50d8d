import SqlGateway.Dialect.Render
import SqlGateway.Proofs.Sql.Literal

/-!
# Inserts read back

`insertion?` reads an insert of a dialect to its end: the table, the columns in
order and the literals of each row.  MySQL has a second form that sets the
columns of one row by name.  What `renderInsert` writes reads back as what it
was given, whatever the texts, names and octets in it are.

    renderInsert d o = .ok s  →  insertion? d s = (trim table, columns, literals)
    renderInsert d o = .error (.unevenRow i)   for the first row i with other columns
-/

namespace SqlGateway.Sql

structure Insertion where
  table : String
  columns : List String
  rows : List (List Literal)

/-! ## Algorithm -/

def isPriority (t : Token) : Bool :=
  t.isKeyword "LOW_PRIORITY" || t.isKeyword "DELAYED" || t.isKeyword "HIGH_PRIORITY"

/-- What follows the words before the table. -/
def insertWords? (d : Dialect) (cs : List Char) : Option (List Char) := do
  let cs ← expect? d (Token.isKeyword "INSERT") cs
  match d with
  | .mysql =>
    return skip d (Token.isKeyword "INTO") (skip d (Token.isKeyword "IGNORE") (skip d isPriority cs))
  | .mssql => return skip d (Token.isKeyword "INTO") cs
  | .pgsql => expect? d (Token.isKeyword "INTO") cs

def isEquals (t : Token) : Bool := t = .symbol "="

def assignment? (d : Dialect) : Reader (String × Literal) := fun cs => do
  let (column, cs) ← name? d cs
  let cs ← expect? d isEquals cs
  let (value, cs) ← literal? d cs
  return ((column, value), cs)

def assignedRow? (d : Dialect) : Reader (List (String × Literal)) :=
  sepBy? d isComma (assignment? d)

def row? (d : Dialect) : Reader (List Literal) :=
  enclosed? d (literal? d)

/-- `SET` and a value for each column. -/
def setForm? (d : Dialect) : Reader (List String × List (List Literal)) := fun cs => do
  let cs ← expect? d (Token.isKeyword "SET") cs
  let (pairs, rest) ← assignedRow? d cs
  return ((pairs.map (·.1), [pairs.map (·.2)]), rest)

/-- The columns, and `VALUES` with the rows. -/
def rowsForm? (d : Dialect) : Reader (List String × List (List Literal)) := fun cs => do
  let (columns, cs) ← enclosed? d (name? d) cs
  let cs ← expect? d (Token.isKeyword "VALUES") cs
  let (rows, rest) ← sepBy? d isComma (row? d) cs
  return ((columns, rows), rest)

def insertSource? (d : Dialect) : Reader (List String × List (List Literal)) := fun cs =>
  match d with
  | .mysql => (setForm? .mysql cs).orElse fun _ => rowsForm? .mysql cs
  | .mssql | .pgsql => rowsForm? d cs

/-- A whole insert, with nothing behind it. -/
def insertion? (d : Dialect) (s : String) : Option Insertion := do
  let cs ← insertWords? d s.toList
  let (table, cs) ← name? d cs
  let ((columns, rows), rest) ← insertSource? d cs
  if skipBlanks rest = [] then return ⟨table, columns, rows⟩ else none

/-- The rows that a query inserts; an assignment is a single row. -/
def insertedRows? : Fields → Option (List (List (String × Value)))
  | .assignments pairs => some [pairs]
  | .rows items => some items
  | .raw _ | .list _ => none

def columnsOf (row : List (String × Value)) : List String :=
  row.map (·.1)

/-! ## Words -/

/-- Each word after a blank. -/
def spaced (words : List String) : List Char :=
  words.flatMap fun w => ' ' :: w.toList

theorem toList_sentence (w : String) (words : List String) :
    (Dialect.sentence (w :: words)).toList = w.toList ++ spaced words := by
  rw [Dialect.sentence, String.toList_intercalate]
  induction words generalizing w with
  | nil => simp [spaced]
  | cons w' words ih =>
    rw [List.map_cons, List.map_cons, List.intercalate_cons_cons, ← List.map_cons, ih w']
    simp [spaced]

theorem spaced_append (xs ys : List String) : spaced (xs ++ ys) = spaced xs ++ spaced ys := by
  rw [spaced, List.flatMap_append]
  rfl

/-- A blank and then a name: what no keyword is. -/
def BeginsName (d : Dialect) (rest : List Char) : Prop :=
  (∃ cs, rest = ' ' :: cs) ∧ ∃ s after, next? d rest = some (.name s, after)

/-- `rest` goes on after a blank, and not with a word that `p` holds of. -/
structure Passes (d : Dialect) (p : Token → Bool) (rest : List Char) : Prop where
  space : ∃ cs, rest = ' ' :: cs
  other : expect? d p rest = none

theorem Passes.endsWord {d : Dialect} {p : Token → Bool} {rest : List Char}
    (h : Passes d p rest) : EndsWord rest := by
  obtain ⟨cs, rfl⟩ := h.space
  exact endsWord_space cs

theorem BeginsName.passes {d : Dialect} {rest : List Char} (h : BeginsName d rest)
    (p : Token → Bool) (hp : ∀ s, p (.name s) = false) : Passes d p rest := by
  obtain ⟨hspace, s, after, hnext⟩ := h
  refine ⟨hspace, ?_⟩
  rw [expect?, hnext]
  show (if p (.name s) then _ else _) = _
  rw [hp]
  rfl

theorem expect?_spaced (d : Dialect) (p : Token → Bool) (w : String) (rest : List Char)
    (hw : isWord w.toList = true) (hr : EndsWord rest) :
    expect? d p (spaced [w] ++ rest) = if p (.word w) then some rest else none := by
  have hw' : spaced [w] ++ rest = ' ' :: (w.toList ++ rest) := by simp [spaced]
  rw [hw', expect?_space, expect?_word d p w.toList rest hw hr, String.ofList_toList]

theorem skip_of_passes {d : Dialect} {p : Token → Bool} {rest : List Char}
    (h : Passes d p rest) : skip d p rest = rest := by
  rw [skip, h.other]
  rfl

theorem skip_spaced (d : Dialect) (p : Token → Bool) (w : String) (rest : List Char)
    (hw : isWord w.toList = true) (hp : p (.word w) = true) (hr : EndsWord rest) :
    skip d p (spaced [w] ++ rest) = rest := by
  rw [skip, expect?_spaced d p w rest hw hr, hp]
  rfl

theorem skip_flagged (d : Dialect) (p : Token → Bool) (flag : Option Bool) (w : String)
    (rest : List Char) (hw : isWord w.toList = true) (hp : p (.word w) = true)
    (hr : Passes d p rest) : skip d p (spaced (flagged flag w) ++ rest) = rest := by
  unfold flagged
  split
  · exact skip_spaced d p w rest hw hp hr.endsWord
  · exact skip_of_passes hr

theorem passes_flagged (d : Dialect) (p : Token → Bool) (flag : Option Bool) (w : String)
    (rest : List Char) (hw : isWord w.toList = true) (hp : p (.word w) = false)
    (hr : Passes d p rest) : Passes d p (spaced (flagged flag w) ++ rest) := by
  unfold flagged
  split
  · refine ⟨⟨w.toList ++ rest, by simp [spaced]⟩, ?_⟩
    rw [expect?_spaced d p w rest hw hr.endsWord, hp]
    rfl
  · exact hr

theorem endsWord_flagged (flag : Option Bool) (w : String) (rest : List Char)
    (hr : EndsWord rest) : EndsWord (spaced (flagged flag w) ++ rest) := by
  unfold flagged
  split
  · exact endsWord_space _
  · exact hr

/-- The optional words of MySQL in their order. -/
theorem skip_mysqlWords (o : QueryOptions) (rest : List Char) (hr : BeginsName .mysql rest) :
    skip .mysql (Token.isKeyword "INTO") (skip .mysql (Token.isKeyword "IGNORE")
      (skip .mysql isPriority
        (spaced (if o.lowPriority.getD false then ["LOW_PRIORITY"] else flagged o.delayed "DELAYED")
          ++ (spaced (flagged o.ignore "IGNORE") ++ (spaced (flagged o.into "INTO") ++ rest)))))
      = rest := by
  have hinto := hr.passes (Token.isKeyword "INTO") fun _ => rfl
  have hignore := passes_flagged .mysql (Token.isKeyword "IGNORE") o.into "INTO" rest
    (by decide) (by decide) (hr.passes _ fun _ => rfl)
  have hpriority := passes_flagged .mysql isPriority o.ignore "IGNORE" _ (by decide) (by decide)
    (passes_flagged .mysql isPriority o.into "INTO" rest (by decide) (by decide)
      (hr.passes _ fun _ => rfl))
  have hskip : skip .mysql isPriority
      (spaced (if o.lowPriority.getD false then ["LOW_PRIORITY"] else flagged o.delayed "DELAYED")
        ++ (spaced (flagged o.ignore "IGNORE") ++ (spaced (flagged o.into "INTO") ++ rest)))
      = spaced (flagged o.ignore "IGNORE") ++ (spaced (flagged o.into "INTO") ++ rest) := by
    split
    · exact skip_spaced .mysql _ _ _ (by decide) (by decide) hpriority.endsWord
    · exact skip_flagged .mysql _ _ _ _ (by decide) (by decide) hpriority
  rw [hskip, skip_flagged .mysql _ _ _ _ (by decide) (by decide) hignore,
    skip_flagged .mysql _ _ _ _ (by decide) (by decide) hinto]

theorem insertWords?_words (d : Dialect) (o : QueryOptions) (target : String)
    (source : List String) (hr : BeginsName d (spaced (target :: source))) :
    insertWords? d (Dialect.sentence (d.insertWords o ++ [target] ++ source)).toList
      = some (spaced (target :: source)) := by
  have hinsert : ∀ rest, EndsWord rest →
      expect? d (Token.isKeyword "INSERT") ("INSERT".toList ++ rest) = some rest := by
    intro rest hrest
    rw [expect?_word d _ "INSERT".toList rest (by decide) hrest, String.ofList_toList]
    rfl
  have hends : EndsWord (spaced (target :: source)) := endsWord_space _
  rw [List.append_assoc, List.singleton_append]
  unfold Dialect.insertWords insertWords?
  cases d with
  | mysql =>
    have hwords := skip_mysqlWords o _ hr
    rw [List.append_assoc, List.append_assoc, List.append_assoc, List.singleton_append,
      toList_sentence, spaced_append, spaced_append, spaced_append, hinsert]
    · show some _ = some _
      rw [hwords]
    · split
      · exact endsWord_space _
      · exact endsWord_flagged _ _ _ (endsWord_flagged _ _ _ (endsWord_flagged _ _ _ hends))
  | mssql =>
    have hwords := skip_flagged .mssql (Token.isKeyword "INTO") o.into "INTO" _ (by decide)
      (by decide) (hr.passes _ fun _ => rfl)
    rw [List.append_assoc, List.singleton_append, toList_sentence, spaced_append, hinsert]
    · show some _ = some _
      rw [hwords]
    · exact endsWord_flagged _ _ _ hends
  | pgsql =>
    have hinto := expect?_spaced .pgsql (Token.isKeyword "INTO") "INTO" _ (by decide) hends
    have hsplit : "INSERT INTO".toList = "INSERT".toList ++ spaced ["INTO"] := by decide
    have hends' : EndsWord (spaced ["INTO"] ++ spaced (target :: source)) := endsWord_space _
    rw [List.singleton_append, toList_sentence, hsplit, List.append_assoc, hinsert _ hends']
    exact hinto

/-! ## Rows and columns -/

theorem row?_rowValues (d : Dialect) (row : List (String × Value)) (rest : List Char) :
    row? d ((d.rowValues row).toList ++ rest)
      = some (row.map fun cell => meaning d cell.2, rest) := by
  have htext : (d.rowValues row).toList ++ rest
      = '(' :: ([',', ' '].intercalate (row.map fun cell => (d.literal cell.2).toList)
        ++ ')' :: rest) := by
    simp [Dialect.rowValues, String.toList_append, String.toList_intercalate, Function.comp_def]
  rw [htext, row?]
  refine enclosed?_intercalate (glue_comma_space delimited_comma (literal?_space d))
    delimited_closing (literal?_closing d) rest ?_
  rw [List.forall₂_map_left_iff, List.forall₂_map_right_iff, List.forall₂_same]
  intro cell _ rest hr
  exact literal?_literal d cell.2 rest hr

theorem row?_space (d : Dialect) (cs : List Char) : row? d (' ' :: cs) = row? d cs := by
  rw [row?, enclosed?, enclosed?, expect?_space]

theorem columns_read (d : Dialect) (columns : List String) (rest : List Char) :
    enclosed? d (name? d)
        (("(" ++ ", ".intercalate (columns.map d.quoteIdentifier) ++ ")").toList ++ rest)
      = some (columns, rest) := by
  have htext : ("(" ++ ", ".intercalate (columns.map d.quoteIdentifier) ++ ")").toList ++ rest
      = '(' :: ([',', ' '].intercalate (columns.map fun c => (d.quoteIdentifier c).toList)
        ++ ')' :: rest) := by
    simp [String.toList_append, String.toList_intercalate, Function.comp_def]
  rw [htext]
  refine enclosed?_intercalate
    (glue_comma_space (fun rest => endsName_mark d ',' rest (by simp)) (name?_space d))
    (fun rest => endsName_mark d ')' rest (by simp)) (name?_closing d) rest ?_
  rw [List.forall₂_map_right_iff, List.forall₂_same]
  intro c _ rest hr
  exact name?_quoteIdentifier d c rest hr

/-- The columns and the rows as characters, each after a blank. -/
theorem spaced_rows (d : Dialect) (columns : List String) (rows : List (List (String × Value))) :
    spaced ["(" ++ ", ".intercalate (columns.map d.quoteIdentifier) ++ ")",
        "VALUES " ++ ", ".intercalate (rows.map d.rowValues)]
      = ' ' :: (("(" ++ ", ".intercalate (columns.map d.quoteIdentifier) ++ ")").toList
        ++ spaced ["VALUES"]
        ++ ' ' :: [',', ' '].intercalate (rows.map fun row => (d.rowValues row).toList)) := by
  simp [spaced, String.toList_append, String.toList_intercalate, Function.comp_def]

theorem rows_read (d : Dialect) (rows : List (List (String × Value))) (hne : rows ≠ []) :
    sepBy? d isComma (row? d)
        (' ' :: [',', ' '].intercalate (rows.map fun row => (d.rowValues row).toList))
      = some (rows.map fun row => row.map fun cell => meaning d cell.2, []) := by
  rw [← List.append_nil ([',', ' '].intercalate _)]
  refine sepBy?_space_intercalate (glue_comma_space delimited_comma (row?_space d)) (row?_space d)
    [] delimited_nil rfl ?_ (by simpa using hne)
  rw [List.forall₂_map_left_iff, List.forall₂_map_right_iff, List.forall₂_same]
  intro row _ rest _
  exact row?_rowValues d row rest

theorem rowsForm?_rows (d : Dialect) (columns : List String)
    (rows : List (List (String × Value))) (hne : rows ≠ []) :
    rowsForm? d (spaced
        ["(" ++ ", ".intercalate (columns.map d.quoteIdentifier) ++ ")",
          "VALUES " ++ ", ".intercalate (rows.map d.rowValues)])
      = some ((columns, rows.map fun row => row.map fun cell => meaning d cell.2), []) := by
  have hrows := rows_read d rows hne
  rw [spaced_rows, List.append_assoc]
  generalize hrest : ' ' :: [',', ' '].intercalate (rows.map fun row => (d.rowValues row).toList)
    = rest at hrows ⊢
  have hends : EndsWord rest := by
    rw [← hrest]
    exact endsWord_space _
  have hvalues : expect? d (Token.isKeyword "VALUES") (spaced ["VALUES"] ++ rest) = some rest := by
    rw [expect?_spaced d _ "VALUES" rest (by decide) hends]
    rfl
  have hskip : ∀ cs, enclosed? d (name? d) (' ' :: cs) = enclosed? d (name? d) cs := by
    intro cs
    rw [enclosed?, enclosed?, expect?_space]
  unfold rowsForm?
  rw [hskip, columns_read]
  show (expect? d _ _).bind _ = _
  rw [hvalues]
  show (sepBy? d _ _ _).bind _ = _
  rw [hrows]
  rfl

theorem spaced_opening (w : String) (ws : List String) :
    ∃ rest, spaced (("(" ++ w) :: ws) = ' ' :: '(' :: rest :=
  ⟨w.toList ++ spaced ws, by simp [spaced, String.toList_append]⟩

theorem insertSource?_rows (d : Dialect) (columns : List String)
    (rows : List (List (String × Value))) (hne : rows ≠ []) :
    insertSource? d (spaced
        ["(" ++ ", ".intercalate (columns.map d.quoteIdentifier) ++ ")",
          "VALUES " ++ ", ".intercalate (rows.map d.rowValues)])
      = some ((columns, rows.map fun row => row.map fun cell => meaning d cell.2), []) := by
  have hform := rowsForm?_rows d columns rows hne
  cases d with
  | mysql =>
    rw [String.append_assoc] at hform ⊢
    obtain ⟨rest, hrest⟩ := spaced_opening
      (", ".intercalate (columns.map (Dialect.quoteIdentifier .mysql)) ++ ")")
      ["VALUES " ++ ", ".intercalate (rows.map (Dialect.rowValues .mysql))]
    have hset : setForm? .mysql (' ' :: '(' :: rest) = none := by
      unfold setForm?
      rw [expect?_space, expect?_mark .mysql _ _ _ (by decide)]
      rfl
    rw [hrest] at hform ⊢
    rw [insertSource?, hset, hform]
    rfl
  | mssql => exact hform
  | pgsql => exact hform

/-! ## Assignments -/

theorem assignment?_space (d : Dialect) (cs : List Char) :
    assignment? d (' ' :: cs) = assignment? d cs := by
  rw [assignment?, assignment?, name?_space]

theorem next?_equals (d : Dialect) (v : Value) (rest : List Char) (hr : Delimited rest) :
    next? d ('=' :: ((d.literal v).toList ++ rest))
      = some (.symbol "=", (d.literal v).toList ++ rest) := by
  refine next?_symbol d ['='] _ ?_ ?_ (endsSymbol_literal d v rest hr)
  · cases d <;> decide
  · intro c hc
    cases hc
    cases (d.literal v).toList ++ rest <;> rfl

theorem assignment?_assignment (d : Dialect) (pair : String × Value) (rest : List Char)
    (hr : Delimited rest) :
    assignment? d ((d.assignment pair).toList ++ rest)
      = some ((pair.1, meaning d pair.2), rest) := by
  have hequals := next?_equals d pair.2 rest hr
  have htext : (d.assignment pair).toList ++ rest = (d.quoteIdentifier pair.1).toList
      ++ '=' :: ((d.literal pair.2).toList ++ rest) := by
    simp [Dialect.assignment, String.toList_append]
  have hname : EndsName d ('=' :: ((d.literal pair.2).toList ++ rest)) := by
    constructor
    · cases d <;> simp [nameQuote]
    · rw [expect?, hequals]
      rfl
  unfold assignment?
  rw [htext, name?_quoteIdentifier d _ _ hname]
  show (expect? d _ _).bind _ = _
  rw [expect?, hequals]
  show (literal? d _).bind _ = _
  rw [literal?_literal d pair.2 rest hr]
  rfl

theorem insertSource?_assignments (pairs : List (String × Value)) (hne : pairs ≠ []) :
    insertSource? .mysql (spaced ["SET " ++ Dialect.assignments .mysql pairs])
      = some ((columnsOf pairs, [pairs.map fun cell => meaning .mysql cell.2]), []) := by
  have hpairs : assignedRow? .mysql (' ' :: ([',', ' '].intercalate
      (pairs.map fun pair => (Dialect.assignment .mysql pair).toList) ++ []))
      = some (pairs.map fun pair => (pair.1, meaning .mysql pair.2), []) := by
    refine sepBy?_space_intercalate (glue_comma_space delimited_comma (assignment?_space .mysql))
      (assignment?_space .mysql) [] delimited_nil rfl ?_ (by simpa using hne)
    rw [List.forall₂_map_left_iff, List.forall₂_map_right_iff, List.forall₂_same]
    intro pair _ rest hr
    exact assignment?_assignment .mysql pair rest hr
  have htext : spaced ["SET " ++ Dialect.assignments .mysql pairs]
      = spaced ["SET"] ++ ' ' :: ([',', ' '].intercalate
        (pairs.map fun pair => (Dialect.assignment .mysql pair).toList) ++ []) := by
    simp [spaced, Dialect.assignments, String.toList_append, String.toList_intercalate,
      Function.comp_def]
  have hset : setForm? .mysql (spaced ["SET " ++ Dialect.assignments .mysql pairs])
      = some ((columnsOf pairs, [pairs.map fun cell => meaning .mysql cell.2]), []) := by
    unfold setForm?
    rw [htext, expect?_spaced .mysql _ "SET" _ (by decide) (endsWord_space _)]
    show (assignedRow? .mysql _).bind _ = _
    rw [hpairs]
    simp [columnsOf, Function.comp_def]
  rw [insertSource?, hset]
  rfl

/-! ## Whole inserts -/

theorem endsName_opening (d : Dialect) (w : String) (ws : List String) :
    EndsName d (spaced (("(" ++ w) :: ws)) := by
  obtain ⟨rest, hrest⟩ := spaced_opening w ws
  rw [hrest]
  apply endsName_space
  rw [expect?_mark d _ _ _ (by decide)]
  rfl

theorem endsName_set (d : Dialect) (w : String) : EndsName d (spaced ["SET " ++ w]) := by
  have htext : spaced ["SET " ++ w] = ' ' :: ("SET".toList ++ ' ' :: w.toList) := by
    simp [spaced, String.toList_append]
  rw [htext]
  apply endsName_space
  rw [expect?_word d _ "SET".toList _ (by decide) (endsWord_space _)]
  rfl

theorem unevenRow?_of_same {columns : List String} {rows : List (List (String × Value))}
    (h : ∀ row ∈ rows, columnsOf row = columns) : Dialect.unevenRow? columns rows = none := by
  rw [Dialect.unevenRow?, List.findIdx?_eq_none_iff]
  intro row hrow
  have := h row hrow
  simpa [columnsOf] using this

/-- The first row with other columns is the one that is found. -/
theorem unevenRow?_of_differs {columns : List String} {rows : List (List (String × Value))}
    (h : ∃ row ∈ rows, columnsOf row ≠ columns) :
    ∃ i row, rows[i]? = some row ∧ columnsOf row ≠ columns ∧
      (∀ j < i, ∀ row', rows[j]? = some row' → columnsOf row' = columns) ∧
      Dialect.unevenRow? columns rows = some i := by
  cases hu : Dialect.unevenRow? columns rows with
  | none =>
    obtain ⟨row, hrow, hne⟩ := h
    have := List.findIdx?_eq_none_iff.1 hu row hrow
    exact absurd (by simpa [columnsOf] using this) hne
  | some i =>
    obtain ⟨hi, hp, hbefore⟩ := List.findIdx?_eq_some_iff_getElem.1 hu
    refine ⟨i, rows[i], List.getElem?_eq_getElem hi, by simpa [columnsOf] using hp, ?_, rfl⟩
    intro j hj row' hrow'
    obtain ⟨hlt, rfl⟩ := List.getElem?_eq_some_iff.1 hrow'
    simpa [columnsOf] using hbefore j hj

theorem insertValues_same (d : Dialect) (first : List (String × Value))
    (more : List (List (String × Value))) (h : ∀ row ∈ more, columnsOf row = columnsOf first) :
    d.insertValues (first :: more) = .ok
      ["(" ++ ", ".intercalate ((columnsOf first).map d.quoteIdentifier) ++ ")",
        "VALUES " ++ ", ".intercalate ((first :: more).map d.rowValues)] := by
  have hsame : ∀ row ∈ first :: more, columnsOf row = columnsOf first := by
    intro row hrow
    rcases List.mem_cons.1 hrow with rfl | hrow
    · rfl
    · exact h row hrow
  have hnone : Dialect.unevenRow? (first.map (·.1)) (first :: more) = none :=
    unevenRow?_of_same hsame
  unfold Dialect.insertValues
  simp only [hnone]
  rfl

/-- The source of rows that have the same columns, with what it says. -/
theorem insertSource_reads (d : Dialect) {fields : Fields} {first : List (String × Value)}
    {more : List (List (String × Value))} (hne : fields.isEmpty = false)
    (hrows : insertedRows? fields = some (first :: more))
    (hsame : ∀ row ∈ more, columnsOf row = columnsOf first) :
    ∃ source, d.insertSource fields = .ok source ∧ EndsName d (spaced source) ∧
      insertSource? d (spaced source) = some ((columnsOf first,
        (first :: more).map fun row => row.map fun cell => meaning d cell.2), []) := by
  have hvalues : ∃ source, d.insertValues (first :: more) = .ok source ∧
      EndsName d (spaced source) ∧ insertSource? d (spaced source) = some ((columnsOf first,
        (first :: more).map fun row => row.map fun cell => meaning d cell.2), []) := by
    refine ⟨_, insertValues_same d first more hsame, ?_, ?_⟩
    · rw [String.append_assoc]
      exact endsName_opening d _ _
    · exact insertSource?_rows d (columnsOf first) (first :: more) (by simp)
  cases fields with
  | raw sql => cases hrows
  | list items => cases hrows
  | rows items =>
    cases hrows
    exact hvalues
  | assignments pairs =>
    cases hrows
    cases d with
    | mysql =>
      refine ⟨_, rfl, endsName_set .mysql _, insertSource?_assignments first ?_⟩
      rintro rfl
      cases hne
    | mssql => exact hvalues
    | pgsql => exact hvalues

theorem insertSource_uneven (d : Dialect) {fields : Fields} {first : List (String × Value)}
    {more : List (List (String × Value))} (hrows : insertedRows? fields = some (first :: more))
    {i : Nat} (hi : Dialect.unevenRow? (columnsOf first) (first :: more) = some i)
    (hdiffers : ∃ row ∈ more, columnsOf row ≠ columnsOf first) :
    d.insertSource fields = .error (.unevenRow i) := by
  have hi' : Dialect.unevenRow? (first.map (·.1)) (first :: more) = some i := hi
  cases fields with
  | raw sql => cases hrows
  | list items => cases hrows
  | rows items =>
    cases hrows
    show d.insertValues (first :: more) = _
    unfold Dialect.insertValues
    simp only [hi']
  | assignments pairs =>
    cases hrows
    obtain ⟨row, hrow, -⟩ := hdiffers
    cases hrow

theorem forall₂_denotes (d : Dialect) (rows : List (List (String × Value))) :
    List.Forall₂ (List.Forall₂ fun cell l => Denotes d cell.2 l) rows
      (rows.map fun row => row.map fun cell => meaning d cell.2) := by
  rw [List.forall₂_map_right_iff, List.forall₂_same]
  intro row _
  rw [List.forall₂_map_right_iff, List.forall₂_same]
  intro cell _
  exact denotes_meaning d cell.2

theorem name?_spaced (d : Dialect) (table : String) (source : List String)
    (h : EndsName d (spaced source)) :
    name? d (spaced (d.quoteIdentifier table :: source)) = some (table, spaced source) := by
  have htext : spaced (d.quoteIdentifier table :: source)
      = ' ' :: ((d.quoteIdentifier table).toList ++ spaced source) := rfl
  rw [htext, name?_space, name?_quoteIdentifier d _ _ h]

section

variable (d : Dialect) (o : QueryOptions) (table : String) (fields : Fields)
  (first : List (String × Value)) (more : List (List (String × Value)))

theorem renderInsert_eq (ht : o.table = some table) (hb : Text.isBlankText table = false)
    (hf : o.what = some fields) (hne : fields.isEmpty = false) :
    d.renderInsert o = (d.insertSource fields).map fun source =>
      Dialect.sentence (d.insertWords o ++ [d.quoteIdentifier (Text.trim table)] ++ source) := by
  have htable : o.tableName = .ok (Text.trim table) := by
    unfold QueryOptions.tableName Text.nonBlank?
    simp [ht, hb]
  have hfields : o.someFields = .ok fields := by
    unfold QueryOptions.someFields
    simp [hf, hne]
  unfold Dialect.renderInsert
  rw [htable, hfields]
  show (d.insertSource fields).bind _ = _
  cases d.insertSource fields <;> rfl

/-- Rows of one shape are written and read back; of other rows the first that differs is named. -/
theorem renderInsert_reads (ht : o.table = some table) (hb : Text.isBlankText table = false)
    (hf : o.what = some fields) (hne : fields.isEmpty = false)
    (hrows : insertedRows? fields = some (first :: more)) :
    ((∀ row ∈ more, columnsOf row = columnsOf first) →
      ∃ s rows, d.renderInsert o = .ok s ∧
        insertion? d s = some ⟨Text.trim table, columnsOf first, rows⟩ ∧
        List.Forall₂ (List.Forall₂ fun cell l => Denotes d cell.2 l) (first :: more) rows) ∧
    ((∃ row ∈ more, columnsOf row ≠ columnsOf first) →
      ∃ i row, (first :: more)[i]? = some row ∧ columnsOf row ≠ columnsOf first ∧
        (∀ j < i, ∀ row', (first :: more)[j]? = some row' → columnsOf row' = columnsOf first) ∧
        d.renderInsert o = .error (.unevenRow i)) := by
  have hrender := renderInsert_eq d o table fields ht hb hf hne
  constructor
  · intro hsame
    obtain ⟨source, hsource, hends, hreads⟩ := insertSource_reads d hne hrows hsame
    rw [hsource] at hrender
    refine ⟨_, _, hrender, ?_, forall₂_denotes d (first :: more)⟩
    have hname := name?_spaced d (Text.trim table) source hends
    have hwords := insertWords?_words d o (d.quoteIdentifier (Text.trim table)) source
      ⟨⟨_, rfl⟩, next?_of_name? hname⟩
    unfold insertion?
    rw [hwords]
    show (name? d _).bind _ = _
    rw [hname]
    show (insertSource? d _).bind _ = _
    rw [hreads]
    rfl
  · intro hdiffers
    obtain ⟨row, hrow, hne'⟩ := hdiffers
    obtain ⟨i, row', hget, hcolumns, hbefore, hi⟩ :=
      unevenRow?_of_differs ⟨row, List.mem_cons_of_mem first hrow, hne'⟩
    refine ⟨i, row', hget, hcolumns, hbefore, ?_⟩
    rw [hrender, insertSource_uneven d hrows hi ⟨row, hrow, hne'⟩]
    rfl

end

/-- Quotes, a backslash, a nested list and a dotted name in MySQL; rows of two shapes. -/
theorem renderInsert_reads_quoted :
    (∃ s rows,
      Dialect.renderInsert .mysql
        { table := some " a.b ",
          what := some (.rows [[("x`", .text "it's \\")], [("x`", .list [.list [.int (-1)]])]]) }
        = .ok s ∧
      insertion? .mysql s = some ⟨"a.b", ["x`"], rows⟩ ∧
      List.Forall₂ (List.Forall₂ fun cell l => Denotes .mysql cell.2 l)
        [[("x`", .text "it's \\")], [("x`", .list [.list [.int (-1)]])]] rows) ∧
    ∃ i row,
      [[("x", Value.null)], [("y", .null)]][i]? = some row ∧ columnsOf row ≠ ["x"] ∧
      (∀ j < i, ∀ row', [[("x", Value.null)], [("y", .null)]][j]? = some row' →
        columnsOf row' = ["x"]) ∧
      Dialect.renderInsert .pgsql
        { table := some "t", what := some (.rows [[("x", .null)], [("y", .null)]]) }
        = .error (.unevenRow i) := by
  have htrim : Text.trim " a.b " = "a.b" := by decide
  constructor
  · rw [← htrim]
    refine (renderInsert_reads .mysql _ " a.b " _ [("x`", .text "it's \\")]
      [[("x`", .list [.list [.int (-1)]])]] rfl (by decide) rfl rfl rfl).1 ?_
    intro row hrow
    rw [List.mem_singleton] at hrow
    subst hrow
    rfl
  · refine (renderInsert_reads .pgsql _ "t" _ [("x", .null)] [[("y", .null)]] rfl (by decide) rfl
      rfl rfl).2 ?_
    exact ⟨_, List.mem_singleton_self _, by decide⟩

end SqlGateway.Sql
