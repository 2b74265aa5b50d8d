/-!
# Pieces of a text

Searching, cutting and folding of `String`s, each by way of its characters.

    splitAt c s = the pieces of s between the c's, at least one piece
-/

namespace SqlGateway.Text

/-- The pieces between the occurrences of `c`; there is one more of them than of `c`. -/
def splitChars (c : Char) : List Char → List (List Char)
  | [] => [[]]
  | x :: xs =>
    if x = c then [] :: splitChars c xs
    else match splitChars c xs with
      | [] => [[x]]
      | p :: ps => (x :: p) :: ps

def splitAt (c : Char) (s : String) : List String :=
  (splitChars c s.toList).map String.ofList

/-- `needle` begins `cs`: what follows it there. -/
def dropStart? : (needle cs : List Char) → Option (List Char)
  | [], cs => some cs
  | _ :: _, [] => none
  | n :: ns, c :: cs => if n = c then dropStart? ns cs else none

def startsWith (needle s : String) : Bool :=
  (dropStart? needle.toList s.toList).isSome

/-- `needle` occurs somewhere in `cs`. -/
def containsChars (needle : List Char) : List Char → Bool
  | [] => needle.isEmpty
  | c :: cs => (dropStart? needle (c :: cs)).isSome || containsChars needle cs

def contains (needle s : String) : Bool :=
  containsChars needle.toList s.toList

/-- The first occurrence of `needle` replaced. -/
def replaceFirstChars (needle text : List Char) : List Char → List Char
  | [] => if needle.isEmpty then text else []
  | c :: cs =>
    match dropStart? needle (c :: cs) with
    | some rest => text ++ rest
    | none => c :: replaceFirstChars needle text cs

def replaceFirst (needle text s : String) : String :=
  .ofList (replaceFirstChars needle.toList text.toList s.toList)

/-- Equal when the letters A to Z count as a to z. -/
def sameFolded (s t : String) : Bool :=
  s.toList.map Char.toLower == t.toList.map Char.toLower

/-- Each line after the first moved `by_` characters to the right. -/
def indentFollowing (by_ : Nat) (s : String) : String :=
  .ofList (s.toList.flatMap fun c =>
    if c = '\n' then '\n' :: List.replicate by_ ' ' else [c])

/-- Zeros on the left up to `width` digits. -/
def padded (width n : Nat) : String :=
  let ds := Nat.toDigits 10 n
  .ofList (List.replicate (width - ds.length) '0' ++ ds)

/-! ## Lemmas -/

theorem splitChars_ne_nil (c : Char) (cs : List Char) : splitChars c cs ≠ [] := by
  cases cs with
  | nil => simp [splitChars]
  | cons x xs =>
    simp only [splitChars]
    split
    · simp
    · split <;> simp

theorem dropStart?_eq_some_iff {n cs r : List Char} : dropStart? n cs = some r ↔ cs = n ++ r := by
  induction n generalizing cs with
  | nil => simp [dropStart?, eq_comm]
  | cons a n ih =>
    cases cs with
    | nil => simp [dropStart?]
    | cons c cs =>
      by_cases h : a = c
      · simp [dropStart?, h, ih]
      · simp [dropStart?, h, Ne.symm h]

/-- What begins with `needle` has it there first. -/
theorem replaceFirst_append (needle text s : String) :
    replaceFirst needle text (needle ++ s) = text ++ s := by
  have hstart : dropStart? needle.toList (needle ++ s).toList = some s.toList :=
    dropStart?_eq_some_iff.2 String.toList_append
  have hchars : replaceFirstChars needle.toList text.toList (needle ++ s).toList
      = text.toList ++ s.toList := by
    cases hcs : (needle ++ s).toList with
    | nil =>
      rw [hcs, dropStart?_eq_some_iff, eq_comm, List.append_eq_nil_iff] at hstart
      simp [replaceFirstChars, hstart.1, hstart.2]
    | cons c cs =>
      rw [hcs] at hstart
      simp [replaceFirstChars, hstart]
  apply String.toList_injective
  rw [replaceFirst, String.toList_ofList, hchars, String.toList_append]

end SqlGateway.Text
