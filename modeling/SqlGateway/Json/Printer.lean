import SqlGateway.Json.Basic
import SqlGateway.Decimal.Layout
import SqlGateway.Decimal.Signed
import SqlGateway.Text.Quoted

/-!
# JSON as text

`compact` writes without blanks.  Strings escape the quote, the backslash and
the control characters below the space; doubles are written with the fewest
digits that read back.  `pretty` puts each item and member on a line of its own.
`inspect` shows a value to a person, with the kind of each part.

    compact (.object [(k, v), …]) = { quoted k : compact v , … }
-/

namespace SqlGateway.Json

def escapeChar (c : Char) : List Char :=
  if c = '\x22' then ['\\', '\x22']
  else if c = '\\' then ['\\', '\\']
  else if c = '\x08' then ['\\', 'b']
  else if c = '\t' then ['\\', 't']
  else if c = '\n' then ['\\', 'n']
  else if c = '\x0c' then ['\\', 'f']
  else if c = '\r' then ['\\', 'r']
  else if c.toNat < 0x20 then
    ['\\', 'u', '0', '0', Text.Hex.digit .lower (c.toNat / 16), Text.Hex.digit .lower (c.toNat % 16)]
  else [c]

def quoted (s : String) : List Char :=
  '\x22' :: s.toList.flatMap escapeChar ++ ['\x22']

/-- A double that is no number has no text of its own. -/
def Number.text : Number → String
  | .int i => Decimal.ofInt i
  | .float x => if (Decimal.Binary.ofFloat x).isFinite then Decimal.write .interchange x else "null"

mutual

def chars : Json → List Char
  | .null => ['n', 'u', 'l', 'l']
  | .bool true => ['t', 'r', 'u', 'e']
  | .bool false => ['f', 'a', 'l', 's', 'e']
  | .number n => n.text.toList
  | .string s => quoted s
  | .array [] => ['[', ']']
  | .array (x :: xs) => '[' :: chars x ++ itemChars xs ++ [']']
  | .object [] => ['\x7b', '\x7d']
  | .object ((k, v) :: ms) => '\x7b' :: quoted k ++ ':' :: chars v ++ memberChars ms ++ ['\x7d']

/-- Each item after a comma. -/
def itemChars : List Json → List Char
  | [] => []
  | x :: xs => ',' :: chars x ++ itemChars xs

/-- Each member after a comma. -/
def memberChars : List (String × Json) → List Char
  | [] => []
  | (k, v) :: ms => ',' :: quoted k ++ ':' :: chars v ++ memberChars ms

end

def compact (j : Json) : String :=
  .ofList (chars j)

/-- The lines of a bracketed list, if it has any, two columns in from the brackets. -/
def block (depth : Nat) (opening closing : String) (lines : List String) : String :=
  let margin (n : Nat) : String := .ofList (List.replicate (2 * n) ' ')
  if lines.isEmpty then opening ++ closing
  else opening ++ "\n" ++ ",\n".intercalate (lines.map fun l => margin (depth + 1) ++ l) ++ "\n"
    ++ margin depth ++ closing

mutual

def prettyAt (depth : Nat) : Json → String
  | .array items => block depth "[" "]" (prettyItems depth items)
  | .object members => block depth "\x7b" "\x7d" (prettyMembers depth members)
  | j => j.compact

def prettyItems (depth : Nat) : List Json → List String
  | [] => []
  | x :: xs => prettyAt (depth + 1) x :: prettyItems depth xs

def prettyMembers (depth : Nat) : List (String × Json) → List String
  | [] => []
  | (k, v) :: ms =>
    (.ofList (quoted k) ++ ": " ++ prettyAt (depth + 1) v) :: prettyMembers depth ms

end

def pretty (j : Json) : String :=
  prettyAt 0 j

mutual

def inspect : Json → String
  | .null => "Null"
  | .bool b => if b then "Bool(true)" else "Bool(false)"
  | .number n => "Number(" ++ n.text ++ ")"
  | .string s => "String(" ++ Text.inspect s ++ ")"
  | .array items => "Array [" ++ ", ".intercalate (inspectItems items) ++ "]"
  | .object members => "Object \x7b" ++ ", ".intercalate (inspectMembers members) ++ "\x7d"

def inspectItems : List Json → List String
  | [] => []
  | x :: xs => inspect x :: inspectItems xs

def inspectMembers : List (String × Json) → List String
  | [] => []
  | (k, v) :: ms => (Text.inspect k ++ ": " ++ inspect v) :: inspectMembers ms

end

end SqlGateway.Json
