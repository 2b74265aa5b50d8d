import SqlGateway.Proofs.Sql.Spelling

/-!
# Quoting and its readers

A quoted text ends at the first quote that is not written twice.  `quotedName?`
reads a quoted name at the very start of a text, with a dot and no blank between
two parts, and accepts exactly what is written for a list of parts.  Every value
comes back from its literal and every name from its quoted form, whatever quotes,
backslashes and dots are in them, and what follows is left as it is.

    literal? d (literal d v ++ rest)             = (meaning d v, rest)
    quotedName? d (quoteIdentifier d s ++ rest)  = (nameParts d s, rest)
-/

namespace SqlGateway.Sql

/-! ## Algorithm -/

/-- A quoted name without dots, or one part of a dotted one. -/
def quotedPart? (d : Dialect) : Reader String
  | [] => none
  | c :: cs =>
    if c = nameQuote d then (quoted? c false cs).map fun (s, rest) => (.ofList s, rest) else none

/-- At most `bound` parts. -/
def quotedNameWithin? (d : Dialect) : Nat → Reader (List String)
  | 0, _ => none
  | bound + 1, cs =>
    match quotedPart? d cs with
    | none => none
    | some (p, '.' :: rest) =>
      (quotedNameWithin? d bound rest).map fun (ps, rest) => (p :: ps, rest)
    | some (p, rest) => some ([p], rest)

/-- The parts of a quoted name; there are never more of them than characters. -/
def quotedName? (d : Dialect) : Reader (List String) := fun cs =>
  quotedNameWithin? d cs.length cs

/-- Each part between quotes, with dots between them. -/
def writtenName (d : Dialect) (parts : List String) : List Char :=
  ['.'].intercalate (parts.map fun p => (Text.enclosed (nameQuote d) p).toList)

/-- What can follow a quoted name: neither a dot nor a quote. -/
def EndsQuoted (d : Dialect) (rest : List Char) : Prop :=
  ∀ c ∈ rest.head?, c ≠ '.' ∧ c ≠ nameQuote d

/-! ## One part -/

/-- What is between quotes was written with its quotes doubled. -/
theorem eq_of_quoted? {q : Char} {cs s rest : List Char}
    (h : quoted? q false cs = some (s, rest)) :
    cs = Text.doubledChars q s ++ q :: rest ∧ rest.head? ≠ some q := by
  fun_induction quoted? q false cs generalizing s with
  | case1 => cases h
  | case2 =>
    cases h
    exact ⟨rfl, by simp⟩
  | case3 => cases h
  | case4 more ih =>
    obtain ⟨⟨s', rest'⟩, hr, he⟩ := Option.map_eq_some_iff.1 h
    cases he
    obtain ⟨rfl, hhead⟩ := ih hr
    exact ⟨by simp [Text.doubledChars], hhead⟩
  | case5 e more hne =>
    cases h
    exact ⟨rfl, by simpa using hne⟩
  | case6 c e more hne hescape => exact absurd hescape.2 (by simp)
  | case7 c e more hne hescape ih =>
    obtain ⟨⟨s', rest'⟩, hr, he⟩ := Option.map_eq_some_iff.1 h
    cases he
    obtain ⟨hcs, hhead⟩ := ih hr
    exact ⟨by rw [hcs]; simp [Text.doubledChars, hne], hhead⟩

theorem toList_enclosed_append (d : Dialect) (p : String) (rest : List Char) :
    (Text.enclosed (nameQuote d) p).toList ++ rest
      = nameQuote d :: (Text.doubledChars (nameQuote d) p.toList ++ nameQuote d :: rest) := by
  simp [Text.toList_enclosed]

theorem quotedPart?_enclosed (d : Dialect) (p : String) (rest : List Char)
    (h : rest.head? ≠ some (nameQuote d)) :
    quotedPart? d ((Text.enclosed (nameQuote d) p).toList ++ rest) = some (p, rest) := by
  rw [toList_enclosed_append, quotedPart?, if_pos rfl, quoted?_doubledChars _ _ _ h]
  simp

theorem eq_of_quotedPart? {d : Dialect} {cs rest : List Char} {p : String}
    (h : quotedPart? d cs = some (p, rest)) :
    cs = (Text.enclosed (nameQuote d) p).toList ++ rest ∧ rest.head? ≠ some (nameQuote d) := by
  cases cs with
  | nil => cases h
  | cons c cs =>
    rw [quotedPart?] at h
    split at h
    · next hc =>
      obtain ⟨⟨s, rest'⟩, hr, he⟩ := Option.map_eq_some_iff.1 h
      cases he
      subst hc
      obtain ⟨rfl, hhead⟩ := eq_of_quoted? hr
      exact ⟨by rw [toList_enclosed_append, String.toList_ofList], hhead⟩
    · cases h

/-! ## Names -/

theorem writtenName_singleton (d : Dialect) (p : String) :
    writtenName d [p] = (Text.enclosed (nameQuote d) p).toList :=
  List.intercalate_singleton

theorem writtenName_cons (d : Dialect) (p : String) {parts : List String} (hne : parts ≠ []) :
    writtenName d (p :: parts)
      = (Text.enclosed (nameQuote d) p).toList ++ '.' :: writtenName d parts := by
  obtain ⟨p', parts, rfl⟩ := List.exists_cons_of_ne_nil hne
  unfold writtenName
  rw [List.map_cons, List.map_cons, List.intercalate_cons_cons]
  simp

theorem length_le_writtenName (d : Dialect) (parts : List String) :
    parts.length ≤ (writtenName d parts).length := by
  induction parts with
  | nil => exact Nat.zero_le _
  | cons p parts ih =>
    by_cases hne : parts = []
    · subst hne
      rw [writtenName_singleton, Text.toList_enclosed]
      simp
    · rw [writtenName_cons d p hne, List.length_append, List.length_cons, List.length_cons]
      omega

/-- What is read was written part by part, and the name ends there. -/
theorem eq_of_quotedNameWithin? {d : Dialect} {bound : Nat} {cs rest : List Char}
    {parts : List String} (h : quotedNameWithin? d bound cs = some (parts, rest)) :
    parts ≠ [] ∧ cs = writtenName d parts ++ rest ∧ EndsQuoted d rest := by
  induction bound generalizing cs parts with
  | zero => cases h
  | succ bound ih =>
    rw [quotedNameWithin?] at h
    split at h
    · cases h
    · next p after hp =>
      obtain ⟨⟨ps, rest'⟩, hr, he⟩ := Option.map_eq_some_iff.1 h
      cases he
      obtain ⟨hne, rfl, hends⟩ := ih hr
      obtain ⟨rfl, -⟩ := eq_of_quotedPart? hp
      refine ⟨List.cons_ne_nil p ps, ?_, hends⟩
      rw [writtenName_cons d p hne, List.append_assoc, List.cons_append]
    · next p after hdot hp =>
      cases h
      obtain ⟨rfl, hhead⟩ := eq_of_quotedPart? hp
      refine ⟨List.cons_ne_nil p [], by rw [writtenName_singleton], fun c hc => ⟨?_, ?_⟩⟩
      · rintro rfl
        obtain ⟨more, rfl⟩ := List.head?_eq_some_iff.1 hc
        exact hdot more rfl
      · rintro rfl
        exact hhead hc

theorem quotedNameWithin?_writtenName (d : Dialect) {parts : List String} (hne : parts ≠ [])
    {rest : List Char} (hr : EndsQuoted d rest) (bound : Nat) (hb : parts.length ≤ bound) :
    quotedNameWithin? d bound (writtenName d parts ++ rest) = some (parts, rest) := by
  induction parts generalizing bound with
  | nil => exact absurd rfl hne
  | cons p parts ih =>
    obtain ⟨bound, rfl⟩ : ∃ n, bound = n + 1 := ⟨bound - 1, by simp at hb; omega⟩
    by_cases hparts : parts = []
    · subst hparts
      have hpart := quotedPart?_enclosed d p rest fun hq => (hr _ hq).2 rfl
      rw [writtenName_singleton, quotedNameWithin?, hpart]
      split
      · next heq => cases heq
      · next more heq =>
        cases heq
        exact absurd rfl (hr '.' rfl).1
      · next heq =>
        cases heq
        rfl
    · have hdot : nameQuote d ≠ '.' := by cases d <;> decide
      have hpart := quotedPart?_enclosed d p ('.' :: (writtenName d parts ++ rest))
        (by simpa using hdot.symm)
      have hrest := ih hparts bound (by simpa using hb)
      rw [writtenName_cons d p hparts, List.append_assoc, List.cons_append, quotedNameWithin?,
        hpart]
      simp only [hrest, Option.map_some]

/-- The reader accepts what is written for parts, up to where the name ends, and nothing else. -/
theorem quotedName?_eq_some_iff {d : Dialect} {cs rest : List Char} {parts : List String} :
    quotedName? d cs = some (parts, rest) ↔
      parts ≠ [] ∧ cs = writtenName d parts ++ rest ∧ EndsQuoted d rest := by
  refine ⟨eq_of_quotedNameWithin?, ?_⟩
  rintro ⟨hne, rfl, hends⟩
  refine quotedNameWithin?_writtenName d hne hends _ ?_
  have hlength := length_le_writtenName d parts
  rw [List.length_append]
  omega

theorem toList_quoteIdentifier (d : Dialect) (s : String) :
    (d.quoteIdentifier s).toList = writtenName d (nameParts d s) := by
  cases d with
  | mssql => exact (writtenName_singleton .mssql s).symm
  | mysql =>
    rw [Dialect.quoteIdentifier, String.toList_intercalate, List.map_map]
    rfl
  | pgsql =>
    rw [Dialect.quoteIdentifier, String.toList_intercalate, List.map_map]
    rfl

theorem quotedName?_quoteIdentifier (d : Dialect) (s : String) {rest : List Char}
    (hr : EndsQuoted d rest) :
    quotedName? d ((d.quoteIdentifier s).toList ++ rest) = some (nameParts d s, rest) := by
  rw [toList_quoteIdentifier]
  exact quotedName?_eq_some_iff.2 ⟨nameParts_ne_nil d s, rfl, hr⟩

/-- The parts of a name joined by dots are the name. -/
theorem nameParts_inj {d : Dialect} {s t : String} (h : nameParts d s = nameParts d t) : s = t := by
  cases d with
  | mssql => exact (List.cons.inj h).1
  | mysql =>
    have hsplit : Text.splitAt '.' s = Text.splitAt '.' t := h
    rw [← intercalate_splitAt '.' s, hsplit, intercalate_splitAt]
  | pgsql =>
    have hsplit : Text.splitAt '.' s = Text.splitAt '.' t := h
    rw [← intercalate_splitAt '.' s, hsplit, intercalate_splitAt]

theorem quoteIdentifier_inj {d : Dialect} {s t : String}
    (h : d.quoteIdentifier s = d.quoteIdentifier t) : s = t := by
  have hends : EndsQuoted d [] := nofun
  have hs := quotedName?_quoteIdentifier d s hends
  rw [h, quotedName?_quoteIdentifier d t hends] at hs
  exact nameParts_inj (Prod.mk.inj (Option.some.inj hs)).1.symm

/-! ## Literals and names -/

/-- **What is quoted reads back.**  A literal and a quoted name end where they were written to end,
and say what they were written for. -/
theorem quoted_reads_back (d : Dialect) :
    (∀ v rest, Delimited rest →
      literal? d ((d.literal v).toList ++ rest) = some (meaning d v, rest) ∧
        Denotes d v (meaning d v)) ∧
    (∀ s rest, EndsQuoted d rest →
      quotedName? d ((d.quoteIdentifier s).toList ++ rest) = some (nameParts d s, rest)) ∧
    Function.Injective d.quoteIdentifier := by
  refine ⟨fun v rest hr => ?_, fun s rest hr => ?_, fun s t h => ?_⟩
  · exact ⟨literal?_literal d v rest hr, denotes_meaning d v⟩
  · exact quotedName?_quoteIdentifier d s hr
  · exact quoteIdentifier_inj h

/-- Octets in a list within a list, a quote and a backslash in a text, a quote in a dotted name. -/
theorem quoted_reads_back_nested :
    (Delimited [',', '1'] ∧
      literal? .mysql "('it''s \\\\',(X'FF')),1".toList
        = some (.list [.text "it's \\", .list [.bytes [255]]], [',', '1'])) ∧
    (EndsQuoted .mysql [' '] ∧
      quotedName? .mysql "\x60a\x60\x60b\x60.\x60c\x60 ".toList
        = some (["a\x60b", "c"], [' '])) := by
  obtain ⟨hliteral, hname, -⟩ := quoted_reads_back .mysql
  have hcomma : Delimited [',', '1'] := delimited_comma ['1']
  have hspace : EndsQuoted .mysql [' '] := by simp [EndsQuoted, nameQuote]
  exact ⟨⟨hcomma, (hliteral (.list [.text "it's \\", .list [.bytes [255]]]) _ hcomma).1⟩,
    hspace, hname "a\x60b.c" _ hspace⟩

end SqlGateway.Sql
