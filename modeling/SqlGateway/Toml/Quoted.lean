import SqlGateway.Text.Hex

/-!
# TOML strings

Four forms: basic strings with escapes and literal ones without, each on one
line or on several.  In the long forms a line break is one line feed however
it is written, the first one after the opening is dropped, and up to two
quotes may stand before the closing three.

    string? cs = some (s, rest)   where rest follows the closing quotes
-/

namespace SqlGateway.Toml

/-- A character that may stand in a string or a comment: no control but the tab. -/
def isPlain (c : Char) : Bool :=
  c = '\t' || (decide (0x20 ≤ c.toNat) && c != '\x7f')

def isSpace (c : Char) : Bool :=
  c = ' ' || c = '\t'

/-- The character of a code point written in hexadecimal. -/
def codePoint? (digits : List Char) : Option Char := do
  let n ← Text.Hex.toNat? digits
  if n.isValidChar then some (Char.ofNat n) else none

def escaped? (c : Char) : Option Char :=
  match c with
  | 'b' => some '\x08'
  | 't' => some '\t'
  | 'n' => some '\n'
  | 'f' => some '\x0c'
  | 'r' => some '\r'
  | '\x22' => some '\x22'
  | '\\' => some '\\'
  | _ => none

def cons? (c : Char) (r : Option (List Char × List Char)) : Option (List Char × List Char) :=
  r.map fun (cs, rest) => (c :: cs, rest)

/-- A basic string after its opening quote. -/
def basic? : List Char → Option (List Char × List Char)
  | [] => none
  | '\x22' :: rest => some ([], rest)
  | '\\' :: 'u' :: a :: b :: c :: d :: rest => do
    cons? (← codePoint? [a, b, c, d]) (basic? rest)
  | '\\' :: 'U' :: a :: b :: c :: d :: e :: f :: g :: h :: rest => do
    cons? (← codePoint? [a, b, c, d, e, f, g, h]) (basic? rest)
  | '\\' :: c :: rest => do cons? (← escaped? c) (basic? rest)
  | c :: rest => if isPlain c && c != '\\' then cons? c (basic? rest) else none

/-- A literal string after its opening quote. -/
def literal? : List Char → Option (List Char × List Char)
  | [] => none
  | '\x27' :: rest => some ([], rest)
  | c :: rest => if isPlain c then cons? c (literal? rest) else none

/-- Spaces and then a line break: what a backslash may join lines over. -/
def startsWithBreak (cs : List Char) : Bool :=
  match cs.dropWhile isSpace with
  | '\n' :: _ => true
  | '\r' :: '\n' :: _ => true
  | _ => false

/-- A long basic string after its opening.  While `joining`, spaces and line breaks are dropped. -/
def longBasic? (joining : Bool) : List Char → Option (List Char × List Char)
  | [] => none
  | '\r' :: '\n' :: rest =>
    if joining then longBasic? true rest else cons? '\n' (longBasic? false rest)
  | '\n' :: rest =>
    if joining then longBasic? true rest else cons? '\n' (longBasic? false rest)
  | '\x22' :: '\x22' :: '\x22' :: '\x22' :: '\x22' :: rest => some (['\x22', '\x22'], rest)
  | '\x22' :: '\x22' :: '\x22' :: '\x22' :: rest => some (['\x22'], rest)
  | '\x22' :: '\x22' :: '\x22' :: rest => some ([], rest)
  | '\\' :: 'u' :: a :: b :: c :: d :: rest => do
    cons? (← codePoint? [a, b, c, d]) (longBasic? false rest)
  | '\\' :: 'U' :: a :: b :: c :: d :: e :: f :: g :: h :: rest => do
    cons? (← codePoint? [a, b, c, d, e, f, g, h]) (longBasic? false rest)
  | '\\' :: c :: rest =>
    match escaped? c with
    | some e => cons? e (longBasic? false rest)
    | none => if startsWithBreak (c :: rest) then longBasic? true (c :: rest) else none
  | c :: rest =>
    if joining && isSpace c then longBasic? true rest
    else if isPlain c && c != '\\' then cons? c (longBasic? false rest)
    else none

/-- A long literal string after its opening. -/
def longLiteral? : List Char → Option (List Char × List Char)
  | [] => none
  | '\r' :: '\n' :: rest => cons? '\n' (longLiteral? rest)
  | '\x27' :: '\x27' :: '\x27' :: '\x27' :: '\x27' :: rest => some (['\x27', '\x27'], rest)
  | '\x27' :: '\x27' :: '\x27' :: '\x27' :: rest => some (['\x27'], rest)
  | '\x27' :: '\x27' :: '\x27' :: rest => some ([], rest)
  | c :: rest => if isPlain c || c = '\n' then cons? c (longLiteral? rest) else none

def dropBreak : List Char → List Char
  | '\n' :: rest => rest
  | '\r' :: '\n' :: rest => rest
  | cs => cs

/-- A string of one line, as keys may be. -/
def shortString? : List Char → Option (String × List Char)
  | '\x22' :: rest => (basic? rest).map fun (cs, rest) => (.ofList cs, rest)
  | '\x27' :: rest => (literal? rest).map fun (cs, rest) => (.ofList cs, rest)
  | _ => none

def string? : List Char → Option (String × List Char)
  | '\x22' :: '\x22' :: '\x22' :: rest =>
    (longBasic? false (dropBreak rest)).map fun (cs, rest) => (.ofList cs, rest)
  | '\x27' :: '\x27' :: '\x27' :: rest =>
    (longLiteral? (dropBreak rest)).map fun (cs, rest) => (.ofList cs, rest)
  | cs => shortString? cs

end SqlGateway.Toml
