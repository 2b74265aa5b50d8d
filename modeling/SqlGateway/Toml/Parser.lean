import SqlGateway.Toml.Quoted
import SqlGateway.Toml.Scalar
import SqlGateway.Toml.Tree

/-!
# Reading TOML documents

A document is read line by line.  A line opens a table or gives a value to a
key; values in brackets and long strings may go on over several lines.

    parse? s = some entries   iff   s is a TOML 1.0 document; a byte order mark is skipped
-/

namespace SqlGateway.Toml

def isBareKey (c : Char) : Bool :=
  c.isAlphanum || c = '-' || c = '_'

def skipSpace (cs : List Char) : List Char :=
  cs.dropWhile isSpace

def simpleKey? (cs : List Char) : Option (String × List Char) :=
  let bare := cs.takeWhile isBareKey
  if bare.isEmpty then shortString? cs else some (.ofList bare, cs.dropWhile isBareKey)

/-- Keys with dots between them, spaces around each; `fuel` bounds their number. -/
def keys? : Nat → List Char → Option (List String × List Char)
  | 0, _ => none
  | fuel + 1, cs => do
    let (key, rest) ← simpleKey? (skipSpace cs)
    match skipSpace rest with
    | '.' :: rest =>
      let (more, rest) ← keys? fuel rest
      return (key :: more, rest)
    | rest => return ([key], rest)

/-- How many keys a name may have, and how many arrays and inline tables may stand inside each
other. -/
def limit : Nat := 79

/-- A name: the keys before the last, and the last. -/
def name? (cs : List Char) : Option ((List String × String) × List Char) := do
  let (keys, rest) ← keys? limit cs
  match keys.getLast? with
  | some last => return ((keys.dropLast, last), rest)
  | none => none

/-- What follows a comment, up to its line break. -/
def skipComment : List Char → List Char
  | '#' :: rest => rest.dropWhile isPlain
  | cs => cs

/-- Spaces, comments and line breaks inside brackets. -/
def skipBlank : Nat → List Char → List Char
  | 0, cs => cs
  | fuel + 1, cs =>
    match skipComment (skipSpace cs) with
    | '\n' :: rest => skipBlank fuel rest
    | '\r' :: '\n' :: rest => skipBlank fuel rest
    | rest => rest

mutual

/-- Every call takes one of `fuel`; twice the length of the text is enough. -/
def value? (fuel depth : Nat) (cs : List Char) : Option (Toml × List Char) :=
  match fuel with
  | 0 => none
  | fuel + 1 =>
    match cs with
    | '\x22' :: _ | '\x27' :: _ => (string? cs).map fun (s, rest) => (.string s, rest)
    | '[' :: rest =>
      match depth with
      | 0 => none
      | depth + 1 => (items? fuel depth rest).map fun (items, rest) => (.array items, rest)
    | '\x7b' :: rest =>
      match depth with
      | 0 => none
      | depth + 1 =>
        match skipSpace rest with
        | '\x7d' :: rest => some (.table [], rest)
        | rest => (entries? fuel depth {} rest).map fun (t, rest) =>
          (.table (finishedEntries t.entries), rest)
    | 't' :: 'r' :: 'u' :: 'e' :: rest => some (.bool true, rest)
    | 'f' :: 'a' :: 'l' :: 's' :: 'e' :: rest => some (.bool false, rest)
    | cs => scalar? cs

/-- Items to the closing bracket; a comma may follow the last. -/
def items? (fuel depth : Nat) (cs : List Char) : Option (List Toml × List Char) :=
  match fuel with
  | 0 => none
  | fuel + 1 =>
    match skipBlank cs.length cs with
    | ']' :: rest => some ([], rest)
    | cs => do
      let (item, rest) ← value? fuel depth cs
      match skipBlank rest.length rest with
      | ']' :: rest => return ([item], rest)
      | ',' :: rest =>
        let (items, rest) ← items? fuel depth rest
        return (item :: items, rest)
      | _ => none

/-- Entries of an inline table to its closing brace. -/
def entries? (fuel depth : Nat) (t : Table) (cs : List Char) : Option (Table × List Char) :=
  match fuel with
  | 0 => none
  | fuel + 1 => do
    let ((path, key), rest) ← name? cs
    let rest ← drop? '=' rest
    let (value, rest) ← value? fuel depth (skipSpace rest)
    let t ← t.assign? path key value
    match skipSpace rest with
    | '\x7d' :: rest => return (t, rest)
    | ',' :: rest => entries? fuel depth t rest
    | _ => none

end

/-- The document so far, and the table that its last header opened. -/
structure Progress where
  root : Table := {}
  section_ : List String := []

/-- Reads the line break, or the end of the text, after a line. -/
def endLine? (cs : List Char) : Option (List Char) :=
  match skipComment (skipSpace cs) with
  | [] => some []
  | '\n' :: rest => some rest
  | '\r' :: '\n' :: rest => some rest
  | _ => none

/-- A header after its opening brackets. -/
def header? (closing : List Char) (openAt : List String → String → Table → Option Table)
    (p : Progress) (cs : List Char) : Option (Progress × List Char) := do
  let ((path, key), rest) ← name? cs
  let root ← openAt path key p.root
  guard (rest.take closing.length = closing)
  return (⟨root, path ++ [key]⟩, rest.drop closing.length)

def assignment? (p : Progress) (cs : List Char) : Option (Progress × List Char) := do
  let ((path, key), rest) ← name? cs
  let rest ← drop? '=' rest
  let (value, rest) ← value? (2 * rest.length + 2) limit (skipSpace rest)
  let root ← p.root.change? false (Table.assign? path key value) p.section_
  return ({ p with root }, rest)

/-- Reads a line, but not its end. -/
def line? (p : Progress) (cs : List Char) : Option (Progress × List Char) :=
  match skipSpace cs with
  | [] => some (p, [])
  | '#' :: rest => some (p, '#' :: rest)
  | '\n' :: rest => some (p, '\n' :: rest)
  | '\r' :: rest => some (p, '\r' :: rest)
  | '[' :: '[' :: rest => header? [']', ']'] Table.openItem? p rest
  | '[' :: rest => header? [']'] Table.openTable? p rest
  | cs => assignment? p cs

/-- Reads lines to the end of the text; `fuel` bounds their number. -/
def lines? : Nat → Progress → List Char → Option Progress
  | 0, _, _ => none
  | _ + 1, p, [] => some p
  | fuel + 1, p, cs => do
    let (p, rest) ← line? p cs
    let rest ← endLine? rest
    lines? fuel p rest

/-- A byte order mark in front says nothing. -/
def skipMark : List Char → List Char
  | '\ufeff' :: rest => rest
  | cs => cs

def parse? (s : String) : Option (Keyed Toml) := do
  let cs := skipMark s.toList
  let p ← lines? (cs.length + 1) {} cs
  return finishedEntries p.root.entries

end SqlGateway.Toml
