import SqlGateway.Text.Hex
import SqlGateway.Text.Printable

/-!
# Quoting

Two ways to put a text between quotes.  `doubled` is that of query texts: the
quote character is written twice inside.  `inspect` is that of diagnostics:
backslash escapes, and code points for characters that do not show.

    enclosed q s = q, s with every q twice, q
-/

namespace SqlGateway.Text

def doubledChars (q : Char) (cs : List Char) : List Char :=
  cs.flatMap fun c => if c = q then [q, q] else [c]

/-- Every `q` written twice. -/
def doubled (q : Char) (s : String) : String :=
  .ofList (doubledChars q s.toList)

/-- Between two `q`, every inner `q` written twice. -/
def enclosed (q : Char) (s : String) : String :=
  .ofList (q :: doubledChars q s.toList ++ [q])

def inspectChar (c : Char) : List Char :=
  if c = '\x00' then ['\\', '0']
  else if c = '\t' then ['\\', 't']
  else if c = '\r' then ['\\', 'r']
  else if c = '\n' then ['\\', 'n']
  else if c = '\\' then ['\\', '\\']
  else if c = '\x22' then ['\\', '\x22']
  else if isShown c then [c]
  else ['\\', 'u', '\x7b'] ++ Nat.toDigits 16 c.toNat ++ ['\x7d']

/-- The text between double quotes, as a diagnostic shows it. -/
def inspect (s : String) : String :=
  .ofList ('\x22' :: s.toList.flatMap inspectChar ++ ['\x22'])

/-! ## Lemmas -/

theorem toList_enclosed (q : Char) (s : String) :
    (enclosed q s).toList = q :: doubledChars q s.toList ++ [q] := by
  simp [enclosed]

end SqlGateway.Text
