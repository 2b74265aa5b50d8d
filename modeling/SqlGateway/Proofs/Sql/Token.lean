import Mathlib
import SqlGateway.Dialect.Basic

/-!
# Tokens of query texts

How a server of each dialect takes a query text apart.  `next? d cs` is the
token that `cs` begins with, blanks skipped, and what follows it.  A quote
character written twice inside quotes stands for itself; MySQL also reads
backslash escapes in texts, and octets as `X'…'`; SQL Server reads octets as
`0x…`.  A text with a comment in it is not read.

    next? d (quoted name ++ rest) = (.name name, rest)   unless rest goes on with a quote
-/

namespace SqlGateway.Sql

inductive Token where
  /-- A quoted name, or one part of a dotted one. -/
  | name (s : String)
  | text (s : String)
  | bytes (b : List UInt8)
  | number (r : Rat)
  | word (s : String)
  /-- Characters of an operator, with no blank between them. -/
  | symbol (s : String)
  /-- A parenthesis, a comma or a dot. -/
  | mark (c : Char)
  deriving DecidableEq

/-- A keyword counts in any letter case. -/
def Token.isKeyword (keyword : String) : Token → Bool
  | .word s => Text.sameFolded s keyword
  | _ => false

/-! ## Algorithm -/

def nameQuote : Dialect → Char
  | .mysql => '\x60'
  | .mssql | .pgsql => '\x22'

def isQuote (c : Char) : Bool :=
  c = '\x22' || c = '\x27' || c = '\x60'

def isMark (c : Char) : Bool :=
  c = '(' || c = ')' || c = ',' || c = '.'

/-- Letters, digits, the underscore, and everything beyond ASCII. -/
def isWordChar (c : Char) : Bool :=
  c.isAlphanum || c = '_' || decide (128 ≤ c.toNat)

def isSymbolChar (c : Char) : Bool :=
  !(isWordChar c || isQuote c || isMark c || c.isWhitespace)

/-- What a backslash and `c` stand for in a MySQL text. -/
def unescaped (c : Char) : List Char :=
  if c = '0' then ['\x00']
  else if c = 'b' then ['\x08']
  else if c = 'n' then ['\n']
  else if c = 'r' then ['\r']
  else if c = 't' then ['\t']
  else if c = 'Z' then ['\x1a']
  else if c = '%' ∨ c = '_' then ['\\', c]
  else [c]

/-- What stands between the quotes, for a text after its opening quote `q`, and what follows. -/
def quoted? (q : Char) (escapes : Bool) : List Char → Option (List Char × List Char)
  | [] => none
  | [c] => if c = q then some ([], []) else none
  | c :: e :: rest =>
    if c = q then
      if e = q then (quoted? q escapes rest).map fun (s, rest) => (q :: s, rest)
      else some ([], e :: rest)
    else if c = '\\' ∧ escapes = true then
      (quoted? q escapes rest).map fun (s, rest) => (unescaped e ++ s, rest)
    else (quoted? q escapes (e :: rest)).map fun (s, rest) => (c :: s, rest)

/-- The number without a sign that `cs` begins with, and what follows it. -/
def magnitude (cs : List Char) : Rat × List Char :=
  let whole := cs.takeWhile Decimal.isDigit
  match cs.dropWhile Decimal.isDigit with
  | '.' :: rest =>
    let places := rest.takeWhile Decimal.isDigit
    (Decimal.ofDigits (whole ++ places) / 10 ^ places.length, rest.dropWhile Decimal.isDigit)
  | rest => (Decimal.ofDigits whole, rest)

/-- A minus sign counts as a number's only when a digit follows. -/
def startsNumber : List Char → Bool
  | '-' :: c :: _ => Decimal.isDigit c
  | c :: _ => Decimal.isDigit c
  | [] => false

def number : List Char → Rat × List Char
  | '-' :: cs => ((-(magnitude cs).1, (magnitude cs).2))
  | cs => magnitude cs

def octets? (digits : List Char) : Option Token :=
  (Text.Hex.decodeChars? digits).map .bytes

/-- A number, or octets after `0x`. -/
def numeric? (d : Dialect) (cs : List Char) : Option (Token × List Char) :=
  match d, cs with
  | .mssql, '0' :: 'x' :: rest =>
    (octets? (rest.takeWhile fun c => (Text.Hex.digit? c).isSome)).map fun t =>
      (t, rest.dropWhile fun c => (Text.Hex.digit? c).isSome)
  | _, cs => some (.number (number cs).1, (number cs).2)

/-- A word, or octets between quotes after an `X`. -/
def wordlike? (d : Dialect) (cs : List Char) : Option (Token × List Char) :=
  match d, cs with
  | .mysql, 'X' :: '\x27' :: rest => do
    let (digits, rest) ← quoted? '\x27' false rest
    return (← octets? digits, rest)
  | _, cs => some (.word (.ofList (cs.takeWhile isWordChar)), cs.dropWhile isWordChar)

/-- The characters of an operator up to a number or to anything else. -/
def symbolRun : List Char → List Char × List Char
  | [] => ([], [])
  | c :: cs =>
    if isSymbolChar c && !startsNumber (c :: cs) then (c :: (symbolRun cs).1, (symbolRun cs).2)
    else ([], c :: cs)

/-- Two characters that begin a comment, or the one that does in MySQL. -/
def hasComment (d : Dialect) (cs : List Char) : Bool :=
  Text.containsChars ['-', '-'] cs || Text.containsChars ['/', '*'] cs
    || (d = .mysql && cs.contains '#')

def operator? (d : Dialect) (cs : List Char) : Option (Token × List Char) :=
  if hasComment d (symbolRun cs).1 then none
  else some (.symbol (.ofList (symbolRun cs).1), (symbolRun cs).2)

/-- The token at the very start of `cs`. -/
def lexeme? (d : Dialect) : List Char → Option (Token × List Char)
  | [] => none
  | c :: cs =>
    if c = '\x27' then
      (quoted? c (d = .mysql) cs).map fun (s, rest) => (.text (.ofList s), rest)
    else if c = nameQuote d then
      (quoted? c false cs).map fun (s, rest) => (.name (.ofList s), rest)
    else if isMark c then some (.mark c, cs)
    else if startsNumber (c :: cs) then numeric? d (c :: cs)
    else if isWordChar c then wordlike? d (c :: cs)
    else if isSymbolChar c then operator? d (c :: cs)
    else none

def skipBlanks (cs : List Char) : List Char :=
  cs.dropWhile Char.isWhitespace

def next? (d : Dialect) (cs : List Char) : Option (Token × List Char) :=
  lexeme? d (skipBlanks cs)

/-! ## Lemmas -/

/-- Nothing follows, or a blank, a comma or a closing parenthesis does. -/
def Delimited (rest : List Char) : Prop :=
  ∀ c ∈ rest.head?, c = ' ' ∨ c = ',' ∨ c = ')'

theorem delimited_nil : Delimited [] := by
  simp [Delimited]

theorem delimited_cons (c : Char) (rest : List Char) (h : c = ' ' ∨ c = ',' ∨ c = ')') :
    Delimited (c :: rest) := by
  simpa [Delimited] using h

theorem delimited_comma (rest : List Char) : Delimited (',' :: rest) :=
  delimited_cons ',' rest (by simp)

theorem delimited_closing (rest : List Char) : Delimited (')' :: rest) :=
  delimited_cons ')' rest (by simp)

/-- What no delimiter is, does not come next. -/
theorem Delimited.head_ne {rest : List Char} (h : Delimited rest) (p : Char → Bool)
    (hs : p ' ' = false) (hc : p ',' = false) (hp : p ')' = false) :
    ∀ c ∈ rest.head?, p c = false := by
  intro c hm
  rcases h c hm with rfl | rfl | rfl
  · exact hs
  · exact hc
  · exact hp

theorem takeWhile_append_of_head {p : Char → Bool} {xs rest : List Char}
    (hx : ∀ c ∈ xs, p c = true) (hr : ∀ c ∈ rest.head?, p c = false) :
    (xs ++ rest).takeWhile p = xs ∧ (xs ++ rest).dropWhile p = rest := by
  rw [List.takeWhile_append_of_pos hx, List.dropWhile_append_of_pos hx]
  cases rest with
  | nil => simp
  | cons c rest =>
    have hc := hr c rfl
    simp [hc]

theorem skipBlanks_space (cs : List Char) : skipBlanks (' ' :: cs) = skipBlanks cs := by
  simp [skipBlanks, Char.isWhitespace]

theorem quoted?_close (q : Char) (escapes : Bool) (rest : List Char) (h : rest.head? ≠ some q) :
    quoted? q escapes (q :: rest) = some ([], rest) := by
  cases rest with
  | nil => simp [quoted?]
  | cons e rest =>
    have he : e ≠ q := fun hq => h (by simp [hq])
    simp [quoted?, he]

theorem quoted?_cons (q c : Char) (escapes : Bool) (cs : List Char) (hq : c ≠ q)
    (hb : ¬ (c = '\\' ∧ escapes = true)) :
    quoted? q escapes (c :: cs) = (quoted? q escapes cs).map fun (s, rest) => (c :: s, rest) := by
  cases cs with
  | nil => simp [quoted?, hq]
  | cons e rest => rw [quoted?, if_neg hq, if_neg hb]

theorem quoted?_doubledChars (q : Char) (s rest : List Char) (h : rest.head? ≠ some q) :
    quoted? q false (Text.doubledChars q s ++ q :: rest) = some (s, rest) := by
  induction s with
  | nil => exact quoted?_close q false rest h
  | cons c s ih =>
    simp only [Text.doubledChars, List.flatMap_cons, List.append_assoc] at ih ⊢
    by_cases hc : c = q
    · subst hc
      simp [quoted?, ih]
    · rw [if_neg hc, List.singleton_append, quoted?_cons q c false _ hc (by simp), ih]
      rfl

/-- A backslash is doubled before the quotes are, so both come back. -/
theorem quoted?_escaped (s rest : List Char) (h : rest.head? ≠ some '\x27') :
    quoted? '\x27' true
      (Text.doubledChars '\x27' (Text.doubledChars '\\' s) ++ '\x27' :: rest) = some (s, rest) := by
  induction s with
  | nil => exact quoted?_close _ true rest h
  | cons c s ih =>
    simp only [Text.doubledChars, List.flatMap_cons, List.flatMap_append, List.append_assoc]
      at ih ⊢
    by_cases hb : c = '\\'
    · subst hb
      simp [quoted?, ih, unescaped]
    · rw [if_neg hb]
      by_cases hc : c = '\x27'
      · subst hc
        simp [quoted?, ih]
      · simp only [List.flatMap_cons, List.flatMap_nil, hc, if_false, List.append_nil,
          List.singleton_append]
        rw [quoted?_cons _ c true _ hc (by simp [hb]), ih]
        rfl

end SqlGateway.Sql
