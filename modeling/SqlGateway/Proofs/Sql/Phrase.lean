import SqlGateway.Proofs.Sql.Token

/-!
# Phrases of query texts

A reader takes a phrase off the front of a query text and gives what it says
and what follows it.  `sepBy?` reads phrases with a separator between them,
`enclosed?` a list of them in parentheses and `name?` a quoted name, whose
parts a dot separates in MySQL and PostgreSQL.

    name? d (quoteIdentifier d s ++ rest) = (s, rest)   unless rest goes on with a quote or a dot
-/

namespace SqlGateway.Sql

abbrev Reader (α : Type) : Type :=
  List Char → Option (α × List Char)

/-! ## Algorithm -/

/-- What follows the first token, when `p` holds of that token. -/
def expect? (d : Dialect) (p : Token → Bool) (cs : List Char) : Option (List Char) :=
  match next? d cs with
  | some (t, rest) => if p t then some rest else none
  | none => none

/-- Reads on behind the first token when `p` holds of it, else where `cs` begins. -/
def skip (d : Dialect) (p : Token → Bool) (cs : List Char) : List Char :=
  (expect? d p cs).getD cs

def isComma (t : Token) : Bool := t = .mark ','

def isDot (t : Token) : Bool := t = .mark '.'

def isOpening (t : Token) : Bool := t = .mark '('

def isClosing (t : Token) : Bool := t = .mark ')'

section

variable {α : Type} (d : Dialect) (sep : Token → Bool) (item : Reader α)

/-- At most `bound` phrases. -/
def sepByWithin? : Nat → Reader (List α)
  | 0, _ => none
  | bound + 1, cs =>
    match item cs with
    | none => none
    | some (a, rest) =>
      match expect? d sep rest with
      | none => some ([a], rest)
      | some after => (sepByWithin? bound after).map fun (as, rest) => (a :: as, rest)

/-- One phrase or more; there are never more of them than characters. -/
def sepBy? : Reader (List α) := fun cs =>
  sepByWithin? d sep item (cs.length + 1) cs

/-- Phrases between parentheses with commas between them, perhaps none. -/
def enclosed? : Reader (List α) := fun cs =>
  match expect? d isOpening cs with
  | none => none
  | some inner =>
    match sepBy? d isComma item inner with
    | some (as, rest) => (expect? d isClosing rest).map fun after => (as, after)
    | none => (expect? d isClosing inner).map fun after => ([], after)

end

/-- A word that does not begin with a digit. -/
def isWord (w : List Char) : Bool :=
  !w.isEmpty && w.all isWordChar && !startsNumber w

/-- An operator without the marks of a comment. -/
def isSymbol (d : Dialect) (w : List Char) : Bool :=
  !w.isEmpty && w.all isSymbolChar && !hasComment d w

def part? (d : Dialect) : Reader String := fun cs =>
  match next? d cs with
  | some (.name s, rest) => some (s, rest)
  | _ => none

def name? (d : Dialect) : Reader String := fun cs =>
  match d with
  | .mssql => part? d cs
  | .mysql | .pgsql =>
    (sepBy? d isDot (part? d) (skipBlanks cs)).map fun (parts, rest) =>
      (".".intercalate parts, rest)

/-! ## Tokens -/

theorem next?_space (d : Dialect) (cs : List Char) : next? d (' ' :: cs) = next? d cs := by
  rw [next?, next?, skipBlanks_space]

theorem next?_mark (d : Dialect) (c : Char) (rest : List Char) (h : isMark c = true) :
    next? d (c :: rest) = some (.mark c, rest) := by
  have hc : c = '(' ∨ c = ')' ∨ c = ',' ∨ c = '.' := by
    simpa [isMark, or_assoc] using h
  rcases hc with rfl | rfl | rfl | rfl <;> cases d <;> rfl

/-- A quote opens a name or a text and is no blank. -/
theorem next?_quoted (d : Dialect) (s : String) (rest : List Char)
    (h : rest.head? ≠ some (nameQuote d)) :
    next? d ((Text.enclosed (nameQuote d) s).toList ++ rest) = some (.name s, rest) := by
  rw [Text.toList_enclosed, List.cons_append, List.cons_append, List.append_assoc,
    List.singleton_append]
  have hw : (nameQuote d).isWhitespace = false := by cases d <;> decide
  have hq : nameQuote d ≠ '\x27' := by cases d <;> decide
  rw [next?, skipBlanks, List.dropWhile_cons_of_neg (by simp [hw]), lexeme?, if_neg hq,
    if_pos rfl, quoted?_doubledChars _ _ _ h]
  simp

theorem next?_quoteText (d : Dialect) (s : String) (rest : List Char)
    (h : rest.head? ≠ some '\x27') :
    next? d ((d.quoteText s).toList ++ rest) = some (.text s, rest) := by
  have hopen : ∀ cs, next? d ('\x27' :: cs)
      = (quoted? '\x27' (d = .mysql) cs).map fun p => (.text (.ofList p.1), p.2) := by
    intro cs
    rw [next?, skipBlanks, List.dropWhile_cons_of_neg (by decide), lexeme?, if_pos rfl]
  have hplain : ∀ d : Dialect, d ≠ .mysql → (quoted? '\x27' (d = .mysql)
      (Text.doubledChars '\x27' s.toList ++ '\x27' :: rest)) = some (s.toList, rest) := by
    intro d hd
    rw [decide_eq_false hd]
    exact quoted?_doubledChars _ _ _ h
  unfold Dialect.quoteText
  cases d with
  | mysql =>
    rw [Text.toList_enclosed, List.cons_append, List.cons_append, List.append_assoc,
      List.singleton_append, hopen, Text.doubled, String.toList_ofList]
    have hs := quoted?_escaped s.toList rest h
    simp [hs]
  | mssql =>
    rw [Text.toList_enclosed, List.cons_append, List.cons_append, List.append_assoc,
      List.singleton_append, hopen, hplain _ (by decide)]
    simp
  | pgsql =>
    rw [Text.toList_enclosed, List.cons_append, List.cons_append, List.append_assoc,
      List.singleton_append, hopen, hplain _ (by decide)]
    simp

/-- What can follow a word: nothing that goes on with it, and no quote, which would make octets
of an `X`. -/
def EndsWord (rest : List Char) : Prop :=
  ∀ c ∈ rest.head?, isWordChar c = false ∧ c ≠ '\x27'

theorem Delimited.endsWord {rest : List Char} (h : Delimited rest) : EndsWord rest := by
  intro c hc
  rcases h c hc with rfl | rfl | rfl <;> exact ⟨by decide, by decide⟩

theorem endsWord_space (rest : List Char) : EndsWord (' ' :: rest) :=
  (delimited_cons ' ' rest (.inl rfl)).endsWord

theorem isWord_iff {w : List Char} :
    isWord w = true ↔ w ≠ [] ∧ (∀ c ∈ w, isWordChar c = true) ∧ startsNumber w = false := by
  simp [isWord, and_assoc]

/-- Blanks, quotes, marks and the minus sign are no characters of a word. -/
theorem isWordChar_ne (c : Char) (h : isWordChar c = true) :
    c.isWhitespace = false ∧ c ≠ '\x27' ∧ c ≠ '\x22' ∧ c ≠ '\x60' ∧ isMark c = false ∧ c ≠ '-' := by
  have hne : ∀ e : Char, isWordChar e = false → c ≠ e := by
    rintro e he rfl
    rw [h] at he
    cases he
  refine ⟨?_, hne _ (by decide), hne _ (by decide), hne _ (by decide), ?_, hne _ (by decide)⟩
  · simp [Char.isWhitespace, hne ' ' (by decide), hne '\t' (by decide), hne '\r' (by decide),
      hne '\n' (by decide)]
  · simp [isMark, hne '(' (by decide), hne ')' (by decide), hne ',' (by decide),
      hne '.' (by decide)]

theorem wordlike?_of_endsWord (d : Dialect) (w rest : List Char) (hw : isWord w = true)
    (hr : EndsWord rest) : wordlike? d (w ++ rest) = some (.word (.ofList w), rest) := by
  obtain ⟨hne, hch, -⟩ := isWord_iff.1 hw
  obtain ⟨ht, hd⟩ := takeWhile_append_of_head hch fun c hc => (hr c hc).1
  unfold wordlike?
  split
  · next after he =>
    exfalso
    match w with
    | [] => exact hne rfl
    | [_] =>
      have hrest : rest = '\x27' :: after := (List.cons.inj he).2
      exact (hr '\x27' (by rw [hrest]; rfl)).2 rfl
    | _ :: c :: _ =>
      have hq : c = '\x27' := (List.cons.inj (List.cons.inj he).2).1
      exact (isWordChar_ne c (hch c (by simp))).2.1 hq
  · rw [ht, hd]

theorem next?_word (d : Dialect) (w rest : List Char) (hw : isWord w = true) (hr : EndsWord rest) :
    next? d (w ++ rest) = some (.word (.ofList w), rest) := by
  have hlike := wordlike?_of_endsWord d w rest hw hr
  obtain ⟨hne, hch, hs⟩ := isWord_iff.1 hw
  cases w with
  | nil => exact absurd rfl hne
  | cons c w =>
    obtain ⟨h1, h2, h3, h4, h5, h6⟩ := isWordChar_ne c (hch c (by simp))
    have hq : c ≠ nameQuote d := by cases d <;> assumption
    have hs : startsNumber (c :: (w ++ rest)) = false := by
      cases w <;> cases rest <;> simpa [startsNumber, h6] using hs
    rw [List.cons_append] at hlike ⊢
    rw [next?, skipBlanks, List.dropWhile_cons_of_neg (by simp [h1]), lexeme?, if_neg h2, if_neg hq,
      h5, hs, if_neg (by simp), if_neg (by simp), if_pos (hch c (by simp)), hlike]

theorem next?_keyword (d : Dialect) (w : String) (rest : List Char) (hw : isWord w.toList = true)
    (hr : EndsWord rest) : next? d (w.toList ++ rest) = some (.word w, rest) := by
  rw [next?_word d w.toList rest hw hr, String.ofList_toList]

/-- An operator ends where a blank, a quote, a mark, a word or a number begins. -/
def EndsSymbol (rest : List Char) : Prop :=
  ∀ c ∈ rest.head?, isSymbolChar c = false ∨ startsNumber rest = true

theorem isSymbol_iff {d : Dialect} {w : List Char} :
    isSymbol d w = true ↔
      w ≠ [] ∧ (∀ c ∈ w, isSymbolChar c = true) ∧ hasComment d w = false := by
  simp [isSymbol, and_assoc]

theorem isSymbolChar_ne (c : Char) (h : isSymbolChar c = true) :
    isWordChar c = false ∧ isQuote c = false ∧ isMark c = false ∧ c.isWhitespace = false := by
  unfold isSymbolChar at h
  simpa [and_assoc] using h

theorem isDigit_isWordChar (c : Char) (h : Decimal.isDigit c = true) : isWordChar c = true := by
  simp only [Decimal.isDigit, Bool.and_eq_true, decide_eq_true_eq] at h
  have hc : c.isAlphanum = true := by
    simp only [Char.isAlphanum, Char.isDigit, Bool.or_eq_true, Bool.and_eq_true, decide_eq_true_eq]
    exact .inr ⟨h.1, h.2⟩
  simp [isWordChar, hc]

/-- Within an operator no number begins, unless at its last character. -/
theorem symbolRun_append (w rest : List Char) (hw : ∀ c ∈ w, isSymbolChar c = true)
    (hlast : ∀ c ∈ w.getLast?, startsNumber (c :: rest) = false) (hr : EndsSymbol rest) :
    symbolRun (w ++ rest) = (w, rest) := by
  induction w with
  | nil =>
    rw [List.nil_append]
    cases rest with
    | nil => rfl
    | cons c rest =>
      rw [symbolRun, if_neg]
      rcases hr c rfl with h | h <;> simp [h]
  | cons c w ih =>
    have hc := hw c (by simp)
    have hnum : startsNumber (c :: (w ++ rest)) = false := by
      cases w with
      | nil => exact hlast c rfl
      | cons e w =>
        have hdigit : ∀ x, isSymbolChar x = true → Decimal.isDigit x = false := by
          intro x hx
          by_contra hd
          have := isDigit_isWordChar x (by simpa using hd)
          rw [(isSymbolChar_ne x hx).1] at this
          cases this
        have he := hdigit e (hw e (by simp))
        by_cases hm : c = '-'
        · subst hm
          simp [startsNumber, he]
        · simp [startsNumber, hm, hdigit c hc]
    have hlast' : ∀ e ∈ w.getLast?, startsNumber (e :: rest) = false := by
      cases w with
      | nil => simp
      | cons e w =>
        intro x hx
        exact hlast x (by rw [List.getLast?_cons_cons]; exact hx)
    rw [List.cons_append, symbolRun, hc, hnum, ih (fun e he => hw e (by simp [he])) hlast']
    simp

theorem next?_symbol (d : Dialect) (w rest : List Char) (hw : isSymbol d w = true)
    (hlast : ∀ c ∈ w.getLast?, startsNumber (c :: rest) = false) (hr : EndsSymbol rest) :
    next? d (w ++ rest) = some (.symbol (.ofList w), rest) := by
  obtain ⟨hne, hch, hplain⟩ := isSymbol_iff.1 hw
  have hrun := symbolRun_append w rest hch hlast hr
  cases w with
  | nil => exact absurd rfl hne
  | cons c w =>
    obtain ⟨h1, h2, h3, h4⟩ := isSymbolChar_ne c (hch c (by simp))
    have h5 : c ≠ '\x27' ∧ c ≠ '\x22' ∧ c ≠ '\x60' := by
      refine ⟨?_, ?_, ?_⟩ <;> (rintro rfl; exact absurd h2 (by decide))
    have hq : c ≠ nameQuote d := by cases d; exacts [h5.2.2, h5.2.1, h5.2.1]
    have hs : startsNumber (c :: (w ++ rest)) = false := by
      by_contra hn
      rw [List.cons_append, symbolRun] at hrun
      simp [hn] at hrun
    rw [List.cons_append] at hrun ⊢
    rw [next?, skipBlanks, List.dropWhile_cons_of_neg (by simp [h4]), lexeme?, if_neg h5.1,
      if_neg hq, h3, hs, h1, hch c (by simp)]
    simp [operator?, hrun, hplain]

/-- What reads as another token than an operator goes on no operator before it. -/
theorem endsSymbol_of_next? {d : Dialect} {cs rest : List Char} {t : Token}
    (h : next? d cs = some (t, rest)) (ht : ∀ w, t ≠ .symbol w) : EndsSymbol cs := by
  intro c hc
  obtain ⟨cs', rfl⟩ : ∃ cs', cs = c :: cs' := by
    cases cs with
    | nil => cases hc
    | cons e cs' => exact ⟨cs', by cases hc; rfl⟩
  by_contra hno
  rw [not_or, Bool.not_eq_false, Bool.not_eq_true] at hno
  obtain ⟨h1, h2, h3, h4⟩ := isSymbolChar_ne c hno.1
  have h5 : c ≠ '\x27' ∧ c ≠ '\x22' ∧ c ≠ '\x60' := by
    refine ⟨?_, ?_, ?_⟩ <;> (rintro rfl; exact absurd h2 (by decide))
  have hq : c ≠ nameQuote d := by cases d; exacts [h5.2.2, h5.2.1, h5.2.1]
  rw [next?, skipBlanks, List.dropWhile_cons_of_neg (by simp [h4]), lexeme?, if_neg h5.1,
    if_neg hq, h3, hno.2, h1, hno.1] at h
  simp only [Bool.false_eq_true, if_false, if_true, operator?] at h
  split at h
  · cases h
  · cases h
    exact ht _ rfl

/-! ## Phrases -/

theorem expect?_space (d : Dialect) (p : Token → Bool) (cs : List Char) :
    expect? d p (' ' :: cs) = expect? d p cs := by
  rw [expect?, expect?, next?_space]

theorem expect?_mark (d : Dialect) (p : Token → Bool) (c : Char) (rest : List Char)
    (h : isMark c = true) : expect? d p (c :: rest) = if p (.mark c) then some rest else none := by
  rw [expect?, next?_mark d c rest h]

theorem expect?_word (d : Dialect) (p : Token → Bool) (w rest : List Char) (hw : isWord w = true)
    (hr : EndsWord rest) :
    expect? d p (w ++ rest) = if p (.word (.ofList w)) then some rest else none := by
  rw [expect?, next?_word d w rest hw hr]

section

variable {α : Type} {d : Dialect} {sep : Token → Bool} {item : Reader α}

theorem length_intercalate_ge (glue : List Char) (hg : glue ≠ []) (ss : List (List Char)) :
    ss.length ≤ (glue.intercalate ss).length + 1 := by
  have hpos : 0 < glue.length := List.length_pos_of_ne_nil hg
  induction ss with
  | nil => simp
  | cons s ss ih =>
    cases ss with
    | nil => simp
    | cons s' ss =>
      rw [List.intercalate_cons_cons]
      simp only [List.length_cons, List.length_append] at ih ⊢
      omega

/-- What the separator looks like in a text, and what may follow an item: the separator, or else
what follows the last of them. -/
structure Glue (d : Dialect) (sep : Token → Bool) (item : Reader α) (glue : List Char)
    (Follows : List Char → Prop) : Prop where
  nonempty : glue ≠ []
  follows : ∀ rest, Follows (glue ++ rest)
  reads : ∀ rest, ∃ after, expect? d sep (glue ++ rest) = some after ∧ item after = item rest

theorem sepByWithin?_congr {after rest : List Char} (h : item after = item rest) (bound : Nat) :
    sepByWithin? d sep item bound after = sepByWithin? d sep item bound rest := by
  cases bound with
  | zero => rfl
  | succ bound => rw [sepByWithin?, sepByWithin?, h]

theorem sepByWithin?_intercalate {glue : List Char} {Follows : List Char → Prop}
    (hg : Glue d sep item glue Follows) (rest : List Char) (hrest : Follows rest)
    (hstop : expect? d sep rest = none) {as : List α} {ss : List (List Char)}
    (h : List.Forall₂ (fun a s => ∀ rest, Follows rest → item (s ++ rest) = some (a, rest)) as ss)
    (hne : as ≠ []) (bound : Nat) (hb : ss.length ≤ bound) :
    sepByWithin? d sep item bound (glue.intercalate ss ++ rest) = some (as, rest) := by
  induction h generalizing bound with
  | nil => exact absurd rfl hne
  | @cons a s as ss hs hss ih =>
    obtain ⟨bound, rfl⟩ : ∃ n, bound = n + 1 := ⟨bound - 1, by simp at hb; omega⟩
    cases hss with
    | nil => simp [sepByWithin?, hs rest hrest, hstop]
    | @cons a' s' as ss hs' hss =>
      obtain ⟨after, he, hafter⟩ := hg.reads (glue.intercalate (s' :: ss) ++ rest)
      have hih := ih (by simp) bound (by simpa using hb)
      rw [List.intercalate_cons_cons, List.append_assoc, List.append_assoc, sepByWithin?,
        hs _ (hg.follows _)]
      simp only [he, sepByWithin?_congr hafter, hih, Option.map_some]

/-- Texts that each read back as their item read back together, with the separator between. -/
theorem sepBy?_intercalate {glue : List Char} {Follows : List Char → Prop}
    (hg : Glue d sep item glue Follows) (rest : List Char) (hrest : Follows rest)
    (hstop : expect? d sep rest = none) {as : List α} {ss : List (List Char)}
    (h : List.Forall₂ (fun a s => ∀ rest, Follows rest → item (s ++ rest) = some (a, rest)) as ss)
    (hne : as ≠ []) : sepBy? d sep item (glue.intercalate ss ++ rest) = some (as, rest) := by
  refine sepByWithin?_intercalate hg rest hrest hstop h hne _ ?_
  have := length_intercalate_ge glue hg.nonempty ss
  rw [List.length_append]
  omega

/-- The same behind a blank, which the first item skips. -/
theorem sepBy?_space_intercalate {glue : List Char} {Follows : List Char → Prop}
    (hg : Glue d sep item glue Follows) (hspace : ∀ cs, item (' ' :: cs) = item cs)
    (rest : List Char) (hrest : Follows rest) (hstop : expect? d sep rest = none) {as : List α}
    {ss : List (List Char)}
    (h : List.Forall₂ (fun a s => ∀ rest, Follows rest → item (s ++ rest) = some (a, rest)) as ss)
    (hne : as ≠ []) : sepBy? d sep item (' ' :: (glue.intercalate ss ++ rest)) = some (as, rest) := by
  rw [sepBy?, sepByWithin?_congr (hspace _)]
  refine sepByWithin?_intercalate hg rest hrest hstop h hne _ ?_
  have := length_intercalate_ge glue hg.nonempty ss
  rw [List.length_cons, List.length_append]
  omega

theorem glue_comma {Follows : List Char → Prop} (hf : ∀ rest, Follows (',' :: rest)) :
    Glue d isComma item [','] Follows where
  nonempty := by simp
  follows rest := hf rest
  reads rest := ⟨rest, by rw [List.singleton_append, expect?_mark d _ _ _ (by decide)]; rfl, rfl⟩

theorem glue_comma_space {Follows : List Char → Prop} (hf : ∀ rest, Follows (',' :: rest))
    (hspace : ∀ cs, item (' ' :: cs) = item cs) : Glue d isComma item [',', ' '] Follows where
  nonempty := by simp
  follows rest := hf (' ' :: rest)
  reads rest := ⟨' ' :: rest, by
    rw [List.cons_append, List.singleton_append, expect?_mark d _ _ _ (by decide)]; rfl,
    hspace rest⟩

theorem enclosed?_intercalate {glue : List Char} {Follows : List Char → Prop}
    (hg : Glue d isComma item glue Follows) (hf : ∀ rest, Follows (')' :: rest))
    (hclosing : ∀ rest, item (')' :: rest) = none) (rest : List Char) {as : List α}
    {ss : List (List Char)}
    (h : List.Forall₂ (fun a s => ∀ rest, Follows rest → item (s ++ rest) = some (a, rest)) as ss) :
    enclosed? d item ('(' :: (glue.intercalate ss ++ ')' :: rest)) = some (as, rest) := by
  have hopen : ∀ cs, expect? d isOpening ('(' :: cs) = some cs := fun cs =>
    expect?_mark d isOpening '(' cs (by decide)
  have hclose : expect? d isClosing (')' :: rest) = some rest :=
    expect?_mark d isClosing ')' rest (by decide)
  have hstop : expect? d isComma (')' :: rest) = none :=
    expect?_mark d isComma ')' rest (by decide)
  unfold enclosed?
  simp only [hopen]
  by_cases hne : as = []
  · subst hne
    cases h
    have hnone : sepBy? d isComma item (')' :: rest) = none := by
      rw [sepBy?, sepByWithin?, hclosing]
    simp only [List.intercalate_nil, List.nil_append, hnone, hclose, Option.map_some]
  · rw [sepBy?_intercalate hg _ (hf rest) hstop h hne]
    simp only [hclose, Option.map_some]

end

/-! ## Names -/

theorem intercalate_splitChars (c : Char) (cs : List Char) :
    [c].intercalate (Text.splitChars c cs) = cs := by
  induction cs with
  | nil => simp [Text.splitChars]
  | cons x xs ih =>
    have hne := Text.splitChars_ne_nil c xs
    unfold Text.splitChars
    split
    · next hx =>
      obtain ⟨p, ps, hp⟩ := List.exists_cons_of_ne_nil hne
      rw [hp] at ih ⊢
      rw [List.intercalate_cons_cons, ih, hx]
      rfl
    · split
      · next h => exact absurd h hne
      · next p ps hp =>
        rw [hp] at ih
        cases ps with
        | nil => simpa using ih
        | cons p' ps =>
          rw [List.intercalate_cons_cons] at ih ⊢
          simpa using ih

theorem intercalate_splitAt (c : Char) (s : String) :
    (String.singleton c).intercalate (Text.splitAt c s) = s := by
  apply String.toList_injective
  rw [String.toList_intercalate, Text.splitAt, List.map_map]
  have hid : String.toList ∘ String.ofList = id := by
    funext cs
    exact String.toList_ofList
  rw [hid, List.map_id, String.toList_singleton, intercalate_splitChars]

theorem splitAt_ne_nil (c : Char) (s : String) : Text.splitAt c s ≠ [] := by
  unfold Text.splitAt
  simpa using Text.splitChars_ne_nil c s.toList

theorem part?_enclosed (d : Dialect) (s : String) (rest : List Char)
    (h : rest.head? ≠ some (nameQuote d)) :
    part? d ((Text.enclosed (nameQuote d) s).toList ++ rest) = some (s, rest) := by
  rw [part?, next?_quoted d s rest h]

theorem glue_dot (d : Dialect) :
    Glue d isDot (part? d) ['.'] fun rest => rest.head? ≠ some (nameQuote d) where
  nonempty := by simp
  follows rest := by cases d <;> simp [nameQuote]
  reads rest := ⟨rest, by rw [List.singleton_append, expect?_mark d _ _ _ (by decide)]; rfl, rfl⟩

/-- What can follow a name: no quote at once, and no dot. -/
structure EndsName (d : Dialect) (rest : List Char) : Prop where
  head : rest.head? ≠ some (nameQuote d)
  noDot : expect? d isDot rest = none

theorem sepBy?_parts (d : Dialect) (s : String) (rest : List Char) (h : EndsName d rest) :
    sepBy? d isDot (part? d)
        ((".".intercalate ((Text.splitAt '.' s).map (Text.enclosed (nameQuote d)))).toList ++ rest)
      = some (Text.splitAt '.' s, rest) := by
  rw [String.toList_intercalate, List.map_map]
  refine sepBy?_intercalate (glue_dot d) rest h.head h.noDot ?_ ?_
  · rw [List.forall₂_map_right_iff, List.forall₂_same]
    intro p _ rest hr
    exact part?_enclosed d p rest hr
  · exact splitAt_ne_nil '.' s

theorem endsName_mark (d : Dialect) (c : Char) (rest : List Char) (hc : c = ',' ∨ c = ')' ∨ c = '(') :
    EndsName d (c :: rest) := by
  have hmark : isMark c = true := by rcases hc with rfl | rfl | rfl <;> decide
  constructor
  · rcases hc with rfl | rfl | rfl <;> cases d <;> simp [nameQuote]
  · rw [expect?_mark d _ _ _ hmark]
    rcases hc with rfl | rfl | rfl <;> rfl

theorem endsName_space {d : Dialect} {rest : List Char} (h : expect? d isDot rest = none) :
    EndsName d (' ' :: rest) := by
  constructor
  · cases d <;> simp [nameQuote]
  · rw [expect?_space, h]

theorem name?_space (d : Dialect) (cs : List Char) : name? d (' ' :: cs) = name? d cs := by
  cases d with
  | mssql => rw [name?, name?, part?, part?, next?_space]
  | mysql => rw [name?, name?, skipBlanks_space]
  | pgsql => rw [name?, name?, skipBlanks_space]

theorem name?_closing (d : Dialect) (rest : List Char) : name? d (')' :: rest) = none := by
  cases d <;> rfl

theorem next?_skipBlanks (d : Dialect) (cs : List Char) : next? d (skipBlanks cs) = next? d cs := by
  unfold next? skipBlanks
  rw [List.dropWhile_idempotent]

/-- What reads as a name begins with one of its parts. -/
theorem next?_of_name? {d : Dialect} {cs rest : List Char} {s : String}
    (h : name? d cs = some (s, rest)) : ∃ p after, next? d cs = some (.name p, after) := by
  have hpart : ∀ {cs r}, part? d cs = some r → ∃ p after, next? d cs = some (.name p, after) := by
    intro cs r hr
    unfold part? at hr
    split at hr
    · next p after hp => exact ⟨p, after, hp⟩
    · cases hr
  have hparts : ∀ {r}, sepBy? d isDot (part? d) (skipBlanks cs) = some r →
      ∃ p after, next? d cs = some (.name p, after) := by
    intro r hr
    rw [sepBy?, sepByWithin?] at hr
    split at hr
    · cases hr
    · next p after hp =>
      rw [← next?_skipBlanks]
      exact hpart hp
  cases d with
  | mssql => exact hpart h
  | mysql =>
    obtain ⟨r, hr, -⟩ := Option.map_eq_some_iff.1 h
    exact hparts hr
  | pgsql =>
    obtain ⟨r, hr, -⟩ := Option.map_eq_some_iff.1 h
    exact hparts hr

theorem intercalate_enclosed_head (q : Char) (ps : List String) (hne : ps ≠ []) :
    ∃ cs, (".".intercalate (ps.map (Text.enclosed q))).toList = q :: cs := by
  obtain ⟨p, ps, rfl⟩ := List.exists_cons_of_ne_nil hne
  rw [String.toList_intercalate, List.map_cons, List.map_cons]
  cases (ps.map (Text.enclosed q)).map String.toList with
  | nil =>
    rw [List.intercalate_singleton, Text.toList_enclosed]
    exact ⟨_, rfl⟩
  | cons s ss =>
    rw [List.intercalate_cons_cons, Text.toList_enclosed]
    exact ⟨_, rfl⟩

theorem quoteIdentifier_head (d : Dialect) (s : String) :
    ∃ cs, (d.quoteIdentifier s).toList = nameQuote d :: cs := by
  cases d with
  | mysql => exact intercalate_enclosed_head '\x60' _ (splitAt_ne_nil '.' s)
  | mssql => exact ⟨_, by rw [Dialect.quoteIdentifier, Text.toList_enclosed]; rfl⟩
  | pgsql => exact intercalate_enclosed_head '\x22' _ (splitAt_ne_nil '.' s)

theorem skipBlanks_quoteIdentifier (d : Dialect) (s : String) (rest : List Char) :
    skipBlanks ((d.quoteIdentifier s).toList ++ rest) = (d.quoteIdentifier s).toList ++ rest := by
  obtain ⟨cs, hcs⟩ := quoteIdentifier_head d s
  have hq : (nameQuote d).isWhitespace = false := by cases d <;> decide
  rw [hcs, List.cons_append, skipBlanks, List.dropWhile_cons_of_neg (by simp [hq])]

/-- The parts of a dotted name come back joined. -/
theorem name?_quoteIdentifier (d : Dialect) (s : String) (rest : List Char) (h : EndsName d rest) :
    name? d ((d.quoteIdentifier s).toList ++ rest) = some (s, rest) := by
  have hjoin : ".".intercalate (Text.splitAt '.' s) = s := intercalate_splitAt '.' s
  have hparts := sepBy?_parts d s rest h
  have hskip := skipBlanks_quoteIdentifier d s rest
  cases d with
  | mssql => exact part?_enclosed .mssql s rest h.head
  | mysql =>
    rw [name?, hskip]
    simp only [nameQuote] at hparts
    simp only [Dialect.quoteIdentifier, hparts, Option.map_some, hjoin]
  | pgsql =>
    rw [name?, hskip]
    simp only [nameQuote] at hparts
    simp only [Dialect.quoteIdentifier, hparts, Option.map_some, hjoin]

end SqlGateway.Sql
