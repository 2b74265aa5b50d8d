import SqlGateway.Proofs.Sql.Number
import SqlGateway.Proofs.Sql.Phrase

/-!
# Literals in query texts

`literal?` reads a literal off the front of a query text, parenthesised lists
to any depth.  `Denotes d v l` says that a server of the dialect `d` takes the
literal `l` for the value `v`: a number for a truth value where there are no
truth literals, `NULL` for what is no number, and for a double any number that
rounds to it.

    literal? d (d.literal v ++ rest) = (l, rest)  with  Denotes d v l
-/

namespace SqlGateway.Sql

open SqlGateway.Decimal (Binary)

inductive Literal where
  | null
  | truth (b : Bool)
  | number (r : Rat)
  | text (s : String)
  | bytes (b : List UInt8)
  | list (items : List Literal)

/-! ## Algorithm -/

/-- A keyword that is a literal. -/
def keyword? (d : Dialect) (t : Token) : Option Literal :=
  if t.isKeyword "NULL" then some .null
  else if d = .mssql then none
  else if t.isKeyword "TRUE" then some (.truth true)
  else if t.isKeyword "FALSE" then some (.truth false)
  else none

/-- A token that is a literal by itself. -/
def scalar? (d : Dialect) (t : Token) : Option Literal :=
  match t with
  | .text s => some (.text s)
  | .bytes b => some (.bytes b)
  | .number r => some (.number r)
  | .word _ => keyword? d t
  | _ => none

/-- A literal whose lists are nested less than `depth` deep. -/
def literalWithin? (d : Dialect) : Nat → Reader Literal
  | 0, _ => none
  | depth + 1, cs =>
    match next? d cs with
    | none => none
    | some (t, rest) =>
      if isOpening t then
        (enclosed? d (literalWithin? d depth) cs).map fun (items, rest) => (.list items, rest)
      else (scalar? d t).map fun l => (l, rest)

/-- Each list has its parentheses, so no text nests them deeper than it is long. -/
def literal? (d : Dialect) : Reader Literal := fun cs =>
  literalWithin? d ((skipBlanks cs).length + 1) cs

/-! ## Meaning -/

/-- Octets as PostgreSQL reads them from a text, after `\x`. -/
def octetsText? (s : String) : Option (List UInt8) :=
  (Text.dropStart? ['\\', 'x'] s.toList).bind Text.Hex.decodeChars?

inductive Denotes (d : Dialect) : Value → Literal → Prop where
  | null : Denotes d .null .null
  | truth (b : Bool) (hd : d = .pgsql) : Denotes d (.bool b) (.truth b)
  | bit (b : Bool) (hd : d ≠ .pgsql) : Denotes d (.bool b) (.number (if b then 1 else 0))
  | int (i : Int) : Denotes d (.int i) (.number i)
  | uint (n : Nat) : Denotes d (.uint n) (.number n)
  | float (x : Float) (r : Rat) (hx : (Binary.ofFloat x).Nearest r) :
      Denotes d (.float x) (.number r)
  | noNumber (x : Float) (hx : (Binary.ofFloat x).isFinite = false) : Denotes d (.float x) .null
  | text (s : String) : Denotes d (.text s) (.text s)
  | bytes (b : List UInt8) (hd : d ≠ .pgsql) : Denotes d (.bytes b) (.bytes b)
  | octets (b : List UInt8) (s : String) (hd : d = .pgsql) (hs : octetsText? s = some b) :
      Denotes d (.bytes b) (.text s)
  | date (day : Date) : Denotes d (.date day) (.text day.text)
  | time (t : Time) : Denotes d (.time t) (.text t.text)
  | datetime (t : DateTime) : Denotes d (.datetime t) (.text t.text)
  | json (j : Json) : Denotes d (.json j) (.text j.compact)
  | list (vs : List Value) (ls : List Literal) (h : List.Forall₂ (Denotes d) vs ls) :
      Denotes d (.list vs) (.list ls)

def octetsText (b : List UInt8) : String :=
  "\\x" ++ Text.Hex.encode .upper b

mutual

/-- The literal that is written for a value. -/
def meaning (d : Dialect) : Value → Literal
  | .null => .null
  | .bool b => if d = .pgsql then .truth b else .number (if b then 1 else 0)
  | .int i => .number i
  | .uint n => .number n
  | .float x =>
    if (Binary.ofFloat x).isFinite then .number (Binary.ofFloat x).decimal else .null
  | .text s => .text s
  | .bytes b => if d = .pgsql then .text (octetsText b) else .bytes b
  | .date day => .text day.text
  | .time t => .text t.text
  | .datetime t => .text t.text
  | .json j => .text j.compact
  | .list vs => .list (meanings d vs)

def meanings (d : Dialect) : List Value → List Literal
  | [] => []
  | v :: vs => meaning d v :: meanings d vs

end

mutual

/-- How deep lists are nested, a single value counting 1. -/
def nesting : Value → Nat
  | .list vs => nestingOf vs + 1
  | _ => 1

def nestingOf : List Value → Nat
  | [] => 0
  | v :: vs => max (nesting v) (nestingOf vs)

end

/-! ## Octets -/

theorem digit?_encode (b : List UInt8) :
    ∀ c ∈ (Text.Hex.encode .upper b).toList, (Text.Hex.digit? c).isSome = true := by
  intro c hc
  rw [Text.Hex.encode, String.toList_ofList, List.mem_flatMap] at hc
  obtain ⟨x, -, hx⟩ := hc
  have hlt := x.toNat_lt
  have hdigit : ∀ n, n < 16 → (Text.Hex.digit? (Text.Hex.digit .upper n)).isSome = true := by
    intro n hn
    rw [Text.Hex.digit?_digit .upper n hn]
    rfl
  rcases List.mem_cons.1 hx with rfl | hx
  · exact hdigit _ (by omega)
  · rw [List.mem_singleton] at hx
    subst hx
    exact hdigit _ (by omega)

theorem doubledChars_of_notMem (q : Char) (cs : List Char) (h : q ∉ cs) :
    Text.doubledChars q cs = cs := by
  induction cs with
  | nil => rfl
  | cons c cs ih =>
    have hc : c ≠ q := fun he => h (by simp [he])
    have hcs := ih fun hm => h (List.mem_cons_of_mem c hm)
    rw [Text.doubledChars] at hcs ⊢
    rw [List.flatMap_cons, hcs, if_neg hc]
    rfl

theorem quote_notMem_encode (b : List UInt8) :
    '\x27' ∉ (Text.Hex.encode .upper b).toList := by
  intro h
  exact absurd (digit?_encode b _ h) (by decide)

theorem octets?_encode (b : List UInt8) :
    octets? (Text.Hex.encode .upper b).toList = some (.bytes b) := by
  have h : Text.Hex.decodeChars? (Text.Hex.encode .upper b).toList = some b :=
    Text.Hex.decode?_encode .upper b
  rw [octets?, h, Option.map_some]

theorem octetsText?_octetsText (b : List UInt8) : octetsText? (octetsText b) = some b := by
  have h : Text.Hex.decodeChars? (Text.Hex.encode .upper b).toList = some b :=
    Text.Hex.decode?_encode .upper b
  have hdrop : Text.dropStart? ['\\', 'x'] (octetsText b).toList
      = some (Text.Hex.encode .upper b).toList := by
    rw [Text.dropStart?_eq_some_iff, octetsText, String.toList_append]
    rfl
  rw [octetsText?, hdrop, Option.bind_some, h]

theorem bytesLiteral_pgsql (b : List UInt8) :
    Dialect.bytesLiteral .pgsql b = Dialect.quoteText .pgsql (octetsText b) := by
  have hq : '\x27' ∉ (octetsText b).toList := by
    rw [octetsText, String.toList_append]
    intro h
    rcases List.mem_append.1 h with h | h
    · exact absurd h (by decide)
    · exact quote_notMem_encode b h
  apply String.toList_injective
  show _ = (Text.enclosed '\x27' (octetsText b)).toList
  rw [Text.toList_enclosed, doubledChars_of_notMem _ _ hq]
  simp [Dialect.bytesLiteral, octetsText, String.toList_append]

theorem next?_octets_mysql (b : List UInt8) (rest : List Char) (hr : Delimited rest) :
    next? .mysql ((Dialect.bytesLiteral .mysql b).toList ++ rest) = some (.bytes b, rest) := by
  have hquote : rest.head? ≠ some '\x27' := fun h =>
    absurd (hr '\x27' h) (by decide)
  have hread := quoted?_doubledChars '\x27' (Text.Hex.encode .upper b).toList rest hquote
  rw [doubledChars_of_notMem _ _ (quote_notMem_encode b)] at hread
  have htext : (Dialect.bytesLiteral .mysql b).toList ++ rest
      = 'X' :: '\x27' :: ((Text.Hex.encode .upper b).toList ++ '\x27' :: rest) := by
    simp [Dialect.bytesLiteral, String.toList_append]
  have hlex : ∀ cs, next? .mysql ('X' :: '\x27' :: cs)
      = wordlike? .mysql ('X' :: '\x27' :: cs) := by
    intro cs
    rfl
  rw [htext, hlex, wordlike?]
  simp [hread, octets?_encode]

theorem next?_octets_mssql (b : List UInt8) (rest : List Char) (hr : Delimited rest) :
    next? .mssql ((Dialect.bytesLiteral .mssql b).toList ++ rest) = some (.bytes b, rest) := by
  obtain ⟨ht, hd⟩ := takeWhile_append_of_head (digit?_encode b)
    (hr.head_ne (fun c => (Text.Hex.digit? c).isSome) (by decide) (by decide) (by decide))
  have htext : (Dialect.bytesLiteral .mssql b).toList ++ rest
      = '0' :: 'x' :: ((Text.Hex.encode .upper b).toList ++ rest) := by
    simp [Dialect.bytesLiteral, String.toList_append]
  have hlex : ∀ cs, next? .mssql ('0' :: 'x' :: cs) = numeric? .mssql ('0' :: 'x' :: cs) := by
    intro cs
    rfl
  rw [htext, hlex, numeric?, ht, hd, octets?_encode, Option.map_some]

/-! ## Single values -/

theorem Delimited.head_ne_quote {rest : List Char} (h : Delimited rest) :
    rest.head? ≠ some '\x27' := by
  intro hq
  exact absurd (h '\x27' hq) (by decide)

/-- The token of a value that is no list, and what it says. -/
theorem next?_literal (d : Dialect) (v : Value) (rest : List Char) (hr : Delimited rest)
    (hv : v.isList = false) :
    ∃ t, next? d ((d.literal v).toList ++ rest) = some (t, rest) ∧
      isOpening t = false ∧ scalar? d t = some (meaning d v) := by
  have hq := hr.head_ne_quote
  have hnull : ∀ d : Dialect, scalar? d (.word "NULL") = some .null := fun d => rfl
  cases v with
  | null => exact ⟨_, next?_keyword d "NULL" rest (by decide) hr.endsWord, rfl, hnull d⟩
  | bool b =>
    have h1 : ∀ d : Dialect, next? d ("1".toList ++ rest) = some (.number 1, rest) := by
      intro d
      have h := next?_ofNat d 1 rest hr
      rwa [Nat.cast_one] at h
    have h0 : ∀ d : Dialect, next? d ("0".toList ++ rest) = some (.number 0, rest) := by
      intro d
      have h := next?_ofNat d 0 rest hr
      rwa [Nat.cast_zero] at h
    cases d with
    | mysql => cases b; exacts [⟨_, h0 _, rfl, rfl⟩, ⟨_, h1 _, rfl, rfl⟩]
    | mssql => cases b; exacts [⟨_, h0 _, rfl, rfl⟩, ⟨_, h1 _, rfl, rfl⟩]
    | pgsql =>
      cases b with
      | false => exact ⟨_, next?_keyword .pgsql "FALSE" rest (by decide) hr.endsWord, rfl, rfl⟩
      | true => exact ⟨_, next?_keyword .pgsql "TRUE" rest (by decide) hr.endsWord, rfl, rfl⟩
  | int i => exact ⟨_, next?_ofInt d i rest hr, rfl, rfl⟩
  | uint n => exact ⟨_, next?_ofNat d n rest hr, rfl, rfl⟩
  | float x =>
    unfold Dialect.literal meaning
    split
    · next hx => exact ⟨_, next?_write d x rest hx hr, rfl, rfl⟩
    · exact ⟨_, next?_keyword d "NULL" rest (by decide) hr.endsWord, rfl, hnull d⟩
  | text s => exact ⟨_, next?_quoteText d s rest hq, rfl, rfl⟩
  | bytes b =>
    cases d with
    | mysql => exact ⟨_, next?_octets_mysql b rest hr, rfl, rfl⟩
    | mssql => exact ⟨_, next?_octets_mssql b rest hr, rfl, rfl⟩
    | pgsql =>
      refine ⟨.text (octetsText b), ?_, rfl, rfl⟩
      show next? .pgsql ((Dialect.bytesLiteral .pgsql b).toList ++ rest) = _
      rw [bytesLiteral_pgsql]
      exact next?_quoteText .pgsql (octetsText b) rest hq
  | date day => exact ⟨_, next?_quoteText d day.text rest hq, rfl, rfl⟩
  | time t => exact ⟨_, next?_quoteText d t.text rest hq, rfl, rfl⟩
  | datetime t => exact ⟨_, next?_quoteText d t.text rest hq, rfl, rfl⟩
  | json j => exact ⟨_, next?_quoteText d j.compact rest hq, rfl, rfl⟩
  | list vs => exact absurd hv (by simp [Value.isList])

/-! ## Lists -/

theorem literalWithin?_space (d : Dialect) (depth : Nat) (cs : List Char) :
    literalWithin? d depth (' ' :: cs) = literalWithin? d depth cs := by
  cases depth with
  | zero => rfl
  | succ depth =>
    have henclosed : enclosed? d (literalWithin? d depth) (' ' :: cs)
        = enclosed? d (literalWithin? d depth) cs := by
      rw [enclosed?, enclosed?, expect?_space]
    rw [literalWithin?, literalWithin?, next?_space, henclosed]

theorem literalWithin?_closing (d : Dialect) (depth : Nat) (rest : List Char) :
    literalWithin? d depth (')' :: rest) = none := by
  cases depth with
  | zero => rfl
  | succ depth =>
    rw [literalWithin?, next?_mark d ')' rest (by decide)]
    rfl

theorem toList_literal_list (d : Dialect) (vs : List Value) (rest : List Char) :
    (d.literal (.list vs)).toList ++ rest
      = '(' :: ([','].intercalate ((d.literalItems vs).map String.toList) ++ ')' :: rest) := by
  simp [Dialect.literal, String.toList_append, String.toList_intercalate]

theorem nesting_pos (v : Value) : 0 < nesting v := by
  cases v with
  | list vs =>
    rw [nesting]
    omega
  | _ => exact Nat.one_pos

theorem literalWithin?_scalar (d : Dialect) (v : Value) (hv : v.isList = false) (depth : Nat)
    (rest : List Char) (hr : Delimited rest) :
    literalWithin? d (depth + 1) ((d.literal v).toList ++ rest) = some (meaning d v, rest) := by
  obtain ⟨t, ht, hopen, hs⟩ := next?_literal d v rest hr hv
  rw [literalWithin?, ht]
  show (if isOpening t then _ else _) = _
  rw [hopen, hs]
  rfl

mutual

theorem literalWithin?_literal (d : Dialect) (v : Value) (depth : Nat) (hdepth : nesting v ≤ depth)
    (rest : List Char) (hr : Delimited rest) :
    literalWithin? d depth ((d.literal v).toList ++ rest) = some (meaning d v, rest) := by
  have hpos := nesting_pos v
  obtain ⟨depth, rfl⟩ : ∃ n, depth = n + 1 := ⟨depth - 1, by omega⟩
  cases v with
  | list vs =>
    rw [nesting] at hdepth
    have hitems := literalWithin?_literals d vs depth (by omega)
    rw [toList_literal_list, literalWithin?, next?_mark d '(' _ (by decide)]
    show (enclosed? d (literalWithin? d depth) _).map _ = _
    rw [enclosed?_intercalate (glue_comma delimited_comma) delimited_closing
      (literalWithin?_closing d depth) rest hitems, meaning]
    rfl
  | _ => exact literalWithin?_scalar d _ rfl depth rest hr

theorem literalWithin?_literals (d : Dialect) (vs : List Value) (depth : Nat)
    (hdepth : nestingOf vs ≤ depth) :
    List.Forall₂ (fun l s => ∀ rest, Delimited rest →
        literalWithin? d depth (s ++ rest) = some (l, rest))
      (meanings d vs) ((d.literalItems vs).map String.toList) := by
  cases vs with
  | nil => exact .nil
  | cons v vs =>
    rw [nestingOf] at hdepth
    refine .cons ?_ ?_
    · intro rest hr
      exact literalWithin?_literal d v depth (by omega) rest hr
    · exact literalWithin?_literals d vs depth (by omega)

end

mutual

theorem nesting_le_length (d : Dialect) (v : Value) :
    nesting v ≤ (d.literal v).toList.length + 1 := by
  cases v with
  | list vs =>
    have hitems := nestingOf_le_length d vs
    have htext := toList_literal_list d vs []
    rw [List.append_nil] at htext
    rw [htext, nesting]
    simp only [List.length_cons, List.length_append]
    omega
  | _ => exact Nat.succ_le_succ (Nat.zero_le _)

theorem nestingOf_le_length (d : Dialect) (vs : List Value) :
    nestingOf vs ≤ ([','].intercalate ((d.literalItems vs).map String.toList)).length + 1 := by
  cases vs with
  | nil => exact Nat.zero_le _
  | cons v vs =>
    have hv := nesting_le_length d v
    have hvs := nestingOf_le_length d vs
    rw [nestingOf, Dialect.literalItems, List.map_cons]
    cases hvs' : (d.literalItems vs).map String.toList with
    | nil =>
      rw [hvs', List.intercalate_nil] at hvs
      simp only [List.intercalate_singleton, List.length_nil] at hvs ⊢
      omega
    | cons s ss =>
      rw [hvs'] at hvs
      rw [List.intercalate_cons_cons]
      simp only [List.length_append] at hvs ⊢
      omega

end

theorem literal?_literal (d : Dialect) (v : Value) (rest : List Char) (hr : Delimited rest) :
    literal? d ((d.literal v).toList ++ rest) = some (meaning d v, rest) := by
  refine literalWithin?_literal d v _ ?_ rest hr
  have hlen := nesting_le_length d v
  cases v with
  | list vs =>
    have hopen : skipBlanks ((d.literal (.list vs)).toList ++ rest)
        = (d.literal (.list vs)).toList ++ rest := by
      rw [toList_literal_list]
      exact List.dropWhile_cons_of_neg (by decide)
    rw [hopen, List.length_append]
    omega
  | _ => exact Nat.succ_le_succ (Nat.zero_le _)

theorem literal?_space (d : Dialect) (cs : List Char) : literal? d (' ' :: cs) = literal? d cs := by
  rw [literal?, literal?, skipBlanks_space, literalWithin?_space]

theorem literal?_closing (d : Dialect) (rest : List Char) : literal? d (')' :: rest) = none :=
  literalWithin?_closing d _ rest

/-- No operator runs into a literal. -/
theorem endsSymbol_literal (d : Dialect) (v : Value) (rest : List Char) (hr : Delimited rest) :
    EndsSymbol ((d.literal v).toList ++ rest) := by
  cases hv : v.isList with
  | false =>
    obtain ⟨t, ht, -, hs⟩ := next?_literal d v rest hr hv
    refine endsSymbol_of_next? ht ?_
    rintro w rfl
    cases hs
  | true =>
    cases v with
    | list vs =>
      rw [toList_literal_list]
      exact endsSymbol_of_next? (next?_mark d '(' _ (by decide)) fun w h => by cases h
    | _ => cases hv

mutual

theorem denotes_meaning (d : Dialect) (v : Value) : Denotes d v (meaning d v) := by
  cases v with
  | null => exact .null
  | bool b =>
    unfold meaning
    split
    · next hd => exact .truth b hd
    · next hd => exact .bit b hd
  | int i => exact .int i
  | uint n => exact .uint n
  | float x =>
    unfold meaning
    split
    · next hx => exact .float x _ (Binary.nearest_decimal hx)
    · next hx => exact .noNumber x (by simpa using hx)
  | text s => exact .text s
  | bytes b =>
    unfold meaning
    split
    · next hd => exact .octets b _ hd (octetsText?_octetsText b)
    · next hd => exact .bytes b hd
  | date day => exact .date day
  | time t => exact .time t
  | datetime t => exact .datetime t
  | json j => exact .json j
  | list vs => exact .list vs _ (denotes_meanings d vs)

theorem denotes_meanings (d : Dialect) (vs : List Value) :
    List.Forall₂ (Denotes d) vs (meanings d vs) := by
  cases vs with
  | nil => exact .nil
  | cons v vs => exact .cons (denotes_meaning d v) (denotes_meanings d vs)

end

end SqlGateway.Sql
