import SqlGateway.Proofs.Sql.Expression
import SqlGateway.Proofs.Sql.Scan

/-!
# Comparisons as tokens

The tokens of a comparison that is written by its parts: those of the name, of
the operator and of the literal.  Whatever the value holds, no connective and no
bracket of it comes to the surface, so the comparison is one atom.

    term with value v  =  name tokens ++ operator tokens ++ literal tokens,  an atom
-/

namespace SqlGateway.Sql

open Expression (parts? nest? nesting? isAnd isLoose isBracket)

/-! ## Atomic tokens -/

/-- Tokens that no connective divides. -/
def Atomic (d : Dialect) (ts : List Token) : Prop :=
  ∀ sep : Token → Bool, (∀ t, sep t = true → isAnd d t = true ∨ isLoose d t = true) →
    parts? d sep [] ts = some [ts]

/-- A token that divides nothing and is no bracket. -/
def isInert (d : Dialect) (t : Token) : Bool :=
  !isBracket t && !isAnd d t && !isLoose d t

/-- Separators are among the connectives. -/
theorem not_sep {d : Dialect} {sep : Token → Bool}
    (hsep : ∀ t, sep t = true → isAnd d t = true ∨ isLoose d t = true) {t : Token}
    (hand : isAnd d t = false) (hloose : isLoose d t = false) : sep t = false := by
  cases hs : sep t with
  | false => rfl
  | true =>
    have h := hsep t hs
    rw [hand, hloose] at h
    rcases h with h | h <;> cases h

theorem atomic_nil (d : Dialect) : Atomic d [] :=
  fun _ _ => rfl

theorem Atomic.append {d : Dialect} {ts us : List Token} (h : Atomic d ts) (h' : Atomic d us) :
    Atomic d (ts ++ us) :=
  fun sep hsep => Expression.parts?_append_whole (h sep hsep) (h' sep hsep)

theorem atomic_of_inert {d : Dialect} {ts : List Token} (h : ∀ t ∈ ts, isInert d t = true) :
    Atomic d ts := by
  intro sep hsep
  induction ts with
  | nil => rfl
  | cons t ts ih =>
    have ht := h t List.mem_cons_self
    simp only [isInert, Bool.and_eq_true, Bool.not_eq_true'] at ht
    obtain ⟨⟨hbracket, hand⟩, hloose⟩ := ht
    exact Expression.parts?_step (by simp [not_sep hsep hand hloose])
      (Expression.nest?_of_not_bracket d hbracket)
      (ih fun u hu => h u (List.mem_cons_of_mem t hu))

theorem Atomic.nesting? {d : Dialect} {ts : List Token} (h : Atomic d ts) :
    nesting? d [] ts = some [] := by
  have hwhole := h (isLoose d) fun _ ht => .inr ht
  refine Expression.nesting?_of_parts? (fun t ht => ?_) hwhole
  exact Expression.nest?_of_not_bracket d (Expression.isBracket_of_isLoose ht)

theorem Atomic.enclosed {d : Dialect} {ts : List Token} (h : Atomic d ts) :
    Atomic d (.mark '(' :: (ts ++ [.mark ')'])) := by
  intro sep hsep
  have hopen := not_sep hsep (by cases d <;> rfl : isAnd d (.mark '(') = false)
    (by cases d <;> rfl)
  exact Expression.parts?_enclosed hopen h.nesting?

/-! ## Names -/

theorem token?_enclosed (d : Dialect) (s : String) (rest : List Char)
    (h : rest.head? ≠ some (nameQuote d)) :
    token? d ((Text.enclosed (nameQuote d) s).toList ++ rest) = some (.name s, rest) :=
  token?_of_next? (next?_quoted d s rest h) rfl (by simp) (by simp)

theorem token?_mark (d : Dialect) (c : Char) (rest : List Char) (h : isMark c = true) :
    token? d (c :: rest) = some (.mark c, rest) :=
  token?_of_next? (next?_mark d c rest h) rfl (by simp) (by simp)

/-- The parts of a name with dots between them. -/
def nameTokens : List String → List Token
  | [] => []
  | p :: ps => .name p :: ps.flatMap fun p => [.mark '.', .name p]

theorem nameQuote_head_ne {d : Dialect} {rest : List Char} (h : Delimited rest) :
    rest.head? ≠ some (nameQuote d) := by
  intro hq
  have hbad := h _ hq
  cases d <;> exact absurd hbad (by decide)

theorem spells_parts (d : Dialect) {parts : List String} (hne : parts ≠ []) :
    Spells d (['.'].intercalate (parts.map fun p => (Text.enclosed (nameQuote d) p).toList))
      (nameTokens parts) := by
  intro more hm
  induction parts with
  | nil => exact absurd rfl hne
  | cons p parts ih =>
    cases parts with
    | nil =>
      rw [List.map_cons, List.map_nil, List.intercalate_singleton,
        tokens?_cons (token?_enclosed d p more (nameQuote_head_ne hm))]
      rfl
    | cons p' parts =>
      have hdot : nameQuote d ≠ '.' := by cases d <;> decide
      have hrest := ih (by simp)
      rw [List.map_cons] at hrest
      rw [List.map_cons, List.map_cons, List.intercalate_cons_cons, List.append_assoc,
        List.append_assoc, List.singleton_append,
        tokens?_cons (token?_enclosed d p _ (by simp [hdot.symm])),
        tokens?_cons (token?_mark d '.' _ (by decide)), hrest, Option.map_map, Option.map_map]
      rfl

theorem atomic_name (d : Dialect) (p : String) : Atomic d [.name p] := by
  refine atomic_of_inert fun t ht => ?_
  rw [List.mem_singleton.1 ht]
  cases d <;> rfl

theorem atomic_dotted (d : Dialect) (p : String) : Atomic d [.mark '.', .name p] := by
  intro sep hsep
  have hdot := not_sep hsep (by cases d <;> rfl : isAnd d (.mark '.') = false) (by cases d <;> rfl)
  have hname : parts? d sep [.dot] [.name p] = some [[.name p]] := by
    rw [parts?, if_neg (by simp)]
    rfl
  exact Expression.parts?_step (by simp [hdot]) rfl hname

theorem atomic_nameTokens (d : Dialect) (parts : List String) : Atomic d (nameTokens parts) := by
  cases parts with
  | nil => exact atomic_nil d
  | cons p parts =>
    have hrest : Atomic d (parts.flatMap fun p => [.mark '.', .name p]) := by
      induction parts with
      | nil => exact atomic_nil d
      | cons p' parts ih => exact (atomic_dotted d p').append ih
    exact (atomic_name d p).append hrest

/-- The parts that a dialect takes a name for. -/
def nameParts (d : Dialect) (s : String) : List String :=
  if d = .mssql then [s] else Text.splitAt '.' s

theorem nameParts_ne_nil (d : Dialect) (s : String) : nameParts d s ≠ [] := by
  unfold nameParts
  split
  · simp
  · exact splitAt_ne_nil '.' s

theorem spells_quoteIdentifier (d : Dialect) (s : String) :
    Spells d (d.quoteIdentifier s).toList (nameTokens (nameParts d s)) := by
  have hsplit := splitAt_ne_nil '.' s
  cases d with
  | mssql =>
    have h := spells_parts .mssql (List.cons_ne_nil s [])
    rwa [List.map_cons, List.map_nil, List.intercalate_singleton] at h
  | mysql =>
    have h := spells_parts .mysql hsplit
    rw [Dialect.quoteIdentifier, String.toList_intercalate, List.map_map]
    exact h
  | pgsql =>
    have h := spells_parts .pgsql hsplit
    rw [Dialect.quoteIdentifier, String.toList_intercalate, List.map_map]
    exact h

/-! ## Literals -/

/-- Keywords that are connectives or brackets, or stand before an escaped text. -/
def isReserved (k : String) : Bool :=
  ["AND", "OR", "XOR", "CASE", "END", "BETWEEN", "E"].any fun r => Text.sameFolded k r

theorem inert_of_isKeyword (d : Dialect) {t : Token} {k : String} (h : t.isKeyword k = true)
    (hk : isReserved k = false) : isInert d t = true ∧ t ≠ .word "E" ∧ t ≠ .word "e" := by
  simp only [isReserved, List.any_cons, List.any_nil, Bool.or_eq_false_iff] at hk
  obtain ⟨hand, hor, hxor, hcase, hend, hbetween, he, -⟩ := hk
  have hbracket := Expression.isBracket_of_isKeyword h ⟨hcase, hend, hbetween⟩
  rw [← Expression.isKeyword_eq h] at hand hor hxor he
  refine ⟨?_, ?_, ?_⟩
  · cases t with
    | word w => simp [isInert, hbracket, isAnd, isLoose, Expression.isOr, Expression.isXor, hand, hor, hxor]
    | _ => cases h
  · rintro rfl
    cases he
  · rintro rfl
    cases he

theorem inert_of_scalar? {d : Dialect} {t : Token} {l : Literal} (h : scalar? d t = some l) :
    isInert d t = true ∧ (∀ w, t ≠ .symbol w) ∧ t ≠ .word "E" ∧ t ≠ .word "e" := by
  cases t with
  | word w =>
    have hkey : keyword? d (.word w) = some l := h
    have hkeyword : ∀ k, (Token.word w).isKeyword k = true → isReserved k = false →
        isInert d (.word w) = true ∧ (∀ w', Token.word w ≠ .symbol w') ∧
          Token.word w ≠ .word "E" ∧ Token.word w ≠ .word "e" := by
      intro k hk hr
      obtain ⟨hinert, he⟩ := inert_of_isKeyword d hk hr
      exact ⟨hinert, by simp, he⟩
    unfold keyword? at hkey
    split at hkey
    · next hk => exact hkeyword "NULL" hk (by decide)
    · split at hkey
      · cases hkey
      · split at hkey
        · next hk => exact hkeyword "TRUE" hk (by decide)
        · split at hkey
          · next hk => exact hkeyword "FALSE" hk (by decide)
          · cases hkey
  | name s => cases h
  | symbol s => cases h
  | mark c => cases h
  | text s => exact ⟨by cases d <;> rfl, by simp, by simp, by simp⟩
  | bytes b => exact ⟨by cases d <;> rfl, by simp, by simp, by simp⟩
  | number r => exact ⟨by cases d <;> rfl, by simp, by simp, by simp⟩

theorem tokens?_scalar (d : Dialect) (v : Value) (hv : v.isList = false) :
    ∃ t, tokens? d (d.literal v).toList = some [t] ∧ isInert d t = true := by
  obtain ⟨t, hnext, -, hscalar⟩ := next?_literal d v [] delimited_nil hv
  rw [List.append_nil] at hnext
  obtain ⟨hinert, hsymbol, hword⟩ := inert_of_scalar? hscalar
  have htail : withTail? (skipBlanks (d.literal v).toList) t [] = some (t, []) := by
    cases t <;> rfl
  refine ⟨t, ?_, hinert⟩
  rw [tokens?_cons (token?_of_next? hnext htail hsymbol hword), tokens?_of_nil rfl]
  rfl

mutual

theorem spells_literal (d : Dialect) (v : Value) :
    ∃ ts, Spells d (d.literal v).toList ts ∧ Atomic d ts := by
  cases hv : v.isList with
  | false =>
    obtain ⟨t, ht, hinert⟩ := tokens?_scalar d v hv
    refine ⟨[t], spells_of_tokens? ht, atomic_of_inert fun u hu => ?_⟩
    rw [List.mem_singleton.1 hu]
    exact hinert
  | true =>
    cases v with
    | list vs =>
      obtain ⟨ts, hts, hatomic⟩ := spells_literals d vs
      refine ⟨.mark '(' :: (ts ++ [.mark ')']), fun more hm => ?_, hatomic.enclosed⟩
      rw [toList_literal_list, tokens?_cons (token?_mark d '(' _ (by decide)),
        hts _ (delimited_closing more), tokens?_cons (token?_mark d ')' _ (by decide)),
        Option.map_map, Option.map_map]
      congr 1
      funext us
      simp
    | _ => cases hv

theorem spells_literals (d : Dialect) (vs : List Value) :
    ∃ ts, Spells d ([','].intercalate ((d.literalItems vs).map String.toList)) ts ∧
      Atomic d ts := by
  cases vs with
  | nil => exact ⟨[], spells_of_tokens? rfl, atomic_nil d⟩
  | cons v vs =>
    obtain ⟨ts, hts, hatomic⟩ := spells_literal d v
    obtain ⟨us, hus, hrest⟩ := spells_literals d vs
    cases vs with
    | nil =>
      refine ⟨ts, ?_, hatomic⟩
      simpa [Dialect.literalItems] using hts
    | cons v' vs =>
      have hcomma : Atomic d [.mark ','] := atomic_of_inert (by cases d <;> decide)
      refine ⟨ts ++ ([.mark ','] ++ us), fun more hm => ?_, hatomic.append (hcomma.append hrest)⟩
      rw [Dialect.literalItems, Dialect.literalItems, List.map_cons, List.map_cons,
        List.intercalate_cons_cons, List.append_assoc, List.append_assoc, List.singleton_append,
        hts _ (delimited_comma _), tokens?_cons (token?_mark d ',' _ (by decide))]
      rw [Dialect.literalItems, List.map_cons] at hus
      rw [hus more hm, Option.map_map, Option.map_map]
      congr 1
      funext ws
      simp

end

/-! ## Ends -/

/-- A text without a blank at its ends. -/
structure Trimmed (cs : List Char) : Prop where
  first : ∃ c, cs.head? = some c ∧ Text.isBlank c = false
  last : ∃ c, cs.getLast? = some c ∧ Text.isBlank c = false

theorem isBlank_of_digit {c : Char} (h : (Text.Hex.digit? c).isSome = true) :
    Text.isBlank c = false := by
  have hrange : (48 ≤ c.toNat ∧ c.toNat ≤ 57) ∨ (97 ≤ c.toNat ∧ c.toNat ≤ 102) ∨
      (65 ≤ c.toNat ∧ c.toNat ≤ 70) := by
    simp only [Text.Hex.digit?] at h
    grind
  simp only [Text.isBlank, Text.inRanges, Text.blankRanges, List.any_cons, List.any_nil,
    Bool.or_false, Bool.or_eq_false_iff, Bool.and_eq_false_iff, decide_eq_false_iff_not]
  omega

/-- The last character of a text of characters that are no blanks. -/
theorem last_of_forall {cs : List Char} (hne : cs ≠ []) (h : ∀ c ∈ cs, Text.isBlank c = false) :
    ∃ c, cs.getLast? = some c ∧ Text.isBlank c = false :=
  ⟨_, List.getLast?_eq_some_getLast hne, h _ (List.getLast_mem hne)⟩

theorem last_of_numeral {cs : List Char} (hne : cs ≠ [])
    (h : ∀ c ∈ cs, Decimal.isDigit c = true ∨ c = '.') :
    ∃ c, cs.getLast? = some c ∧ Text.isBlank c = false := by
  refine last_of_forall hne fun c hc => ?_
  rcases h c hc with hdigit | rfl
  · refine isBlank_of_digit ?_
    simp only [Decimal.isDigit, Bool.and_eq_true, decide_eq_true_eq] at hdigit
    simp [Text.Hex.digit?, hdigit]
  · decide

theorem last_append {xs ys : List Char} (h : ∃ c, ys.getLast? = some c ∧ Text.isBlank c = false) :
    ∃ c, (xs ++ ys).getLast? = some c ∧ Text.isBlank c = false := by
  obtain ⟨c, hc, hblank⟩ := h
  exact ⟨c, by rw [List.getLast?_append, hc]; rfl, hblank⟩

theorem last_signed (negative : Bool) (n : Nat) (k : Int) :
    ∃ c, (Decimal.signChars negative ++
        Decimal.positionalChars false (Nat.toDigits 10 n) k).getLast? = some c ∧
      Text.isBlank c = false := by
  obtain ⟨⟨c, cs, hcs, -⟩, hchars⟩ := positionalChars_chars n k
  exact last_append (last_of_numeral (by rw [hcs]; simp) hchars)

theorem last_quoteText (d : Dialect) (s : String) :
    ∃ c, (d.quoteText s).toList.getLast? = some c ∧ Text.isBlank c = false := by
  have henclosed : ∀ s, ∃ c, (Text.enclosed '\x27' s).toList.getLast? = some c ∧
      Text.isBlank c = false := by
    intro s
    rw [Text.toList_enclosed]
    exact ⟨'\x27', List.getLast?_concat, by decide⟩
  cases d <;> exact henclosed _

theorem last_literal (d : Dialect) (v : Value) :
    ∃ c, (d.literal v).toList.getLast? = some c ∧ Text.isBlank c = false := by
  have hnull : ∃ c, "NULL".toList.getLast? = some c ∧ Text.isBlank c = false :=
    ⟨'L', by decide, by decide⟩
  cases v with
  | null => exact hnull
  | bool b =>
    cases d with
    | pgsql => cases b <;> exact ⟨'E', by decide, by decide⟩
    | _ =>
      cases b
      · exact ⟨'0', by decide, by decide⟩
      · exact ⟨'1', by decide, by decide⟩
  | int i =>
    rw [Dialect.literal, ofInt_eq]
    exact last_signed _ _ _
  | uint n =>
    have h := last_signed (decide ((n : Int) < 0)) n 0
    have hn := ofInt_eq n
    rw [Int.natAbs_natCast, Decimal.ofInt, if_neg (by omega), Int.natAbs_natCast] at hn
    rw [Dialect.literal, hn]
    exact h
  | float x =>
    unfold Dialect.literal
    split
    · next hx =>
      rw [Decimal.write, String.toList_ofList]
      cases hb : Decimal.Binary.ofFloat x with
      | finite negative m q => exact last_signed negative _ _
      | _ =>
        rw [hb] at hx
        cases hx
    · exact hnull
  | text s => exact last_quoteText d s
  | bytes b =>
    cases d with
    | mysql =>
      show ∃ c, (("X'" ++ Text.Hex.encode .upper b) ++ "'").toList.getLast? = some c ∧ _
      rw [String.toList_append]
      exact last_append ⟨'\x27', by decide, by decide⟩
    | mssql =>
      show ∃ c, ("0x" ++ Text.Hex.encode .upper b).toList.getLast? = some c ∧ _
      rw [String.toList_append]
      refine last_of_forall (by simp) fun c hc => ?_
      rcases List.mem_append.1 hc with hc | hc
      · have hprefix : c = '0' ∨ c = 'x' := by simpa using hc
        rcases hprefix with rfl | rfl <;> decide
      · exact isBlank_of_digit (digit?_encode b c hc)
    | pgsql =>
      show ∃ c, (Dialect.bytesLiteral .pgsql b).toList.getLast? = some c ∧ _
      rw [bytesLiteral_pgsql]
      exact last_quoteText .pgsql _
  | date day => exact last_quoteText d _
  | time t => exact last_quoteText d _
  | datetime t => exact last_quoteText d _
  | json j => exact last_quoteText d _
  | list vs =>
    have h := toList_literal_list d vs []
    rw [List.append_nil] at h
    rw [h, ← List.cons_append]
    exact last_append ⟨')', rfl, by decide⟩

/-! ## Comparisons -/

/-- Tokens of which none is a connective or a bracket, at least one. -/
def isPlainOperator (d : Dialect) (op : String) : Bool :=
  (tokens? d op.toList).any fun ts => !ts.isEmpty && ts.all (isInert d)

/-- An escaped comparison of a named column with a value. -/
def isComparison (d : Dialect) (t : Term) : Bool :=
  t.escape && !Text.isBlankText t.identifier &&
    t.comparison?.any fun c => isPlainOperator d c.1

/-- A comparison is written, without blanks around it, as the tokens of an atom. -/
theorem text_comparison {d : Dialect} {t : Term} (h : isComparison d t = true) :
    ∃ cs ts, t.text d = .ok (.ofList cs) ∧ Trimmed cs ∧ Spells d cs ts ∧
      Expression.Conjunction d ts [.atom ts] := by
  simp only [isComparison, Bool.and_eq_true, Bool.not_eq_true', Option.any_eq_true] at h
  obtain ⟨⟨hescape, hblank⟩, ⟨op, v⟩, hcomparison, hop⟩ := h
  simp only [isPlainOperator, Option.any_eq_true, Bool.and_eq_true, Bool.not_eq_true',
    List.all_eq_true] at hop
  obtain ⟨os, hos, hne, hinert⟩ := hop
  obtain ⟨ls, hls, hatomic⟩ := spells_literal d v
  obtain ⟨c, hc, hlast⟩ := last_literal d v
  have hof : Formula.comparisonOf t = (op, v) := by rw [Formula.comparisonOf, hcomparison]; rfl
  have htext := Formula.text_of_comparison? hescape hblank (hof ▸ hcomparison) d
  have hspells := (spells_quoteIdentifier d t.identifier).append
    ((spells_of_tokens? hos).append hls.space).space
  have hatom := (atomic_nameTokens d (nameParts d t.identifier)).append
    ((atomic_of_inert hinert).append hatomic)
  have hhead : ∃ p us, nameTokens (nameParts d t.identifier) = .name p :: us := by
    obtain ⟨p, ps, hps⟩ := List.exists_cons_of_ne_nil (nameParts_ne_nil d t.identifier)
    rw [hps]
    exact ⟨p, _, rfl⟩
  obtain ⟨p, us, hhead⟩ := hhead
  refine ⟨Formula.termText d t, nameTokens (nameParts d t.identifier) ++ (os ++ ls), htext, ?_, ?_,
    ?_⟩
  · obtain ⟨cs, hcs⟩ := quoteIdentifier_head d t.identifier
    have hquote : Text.isBlank (nameQuote d) = false := by cases d <;> decide
    have hsplit : Formula.termText d t = ((d.quoteIdentifier t.identifier).toList ++
        (' ' :: (op.toList ++ [' ']))) ++ (d.literal v).toList := by
      rw [Formula.termText, hof]
      simp
    refine ⟨⟨nameQuote d, by rw [hsplit, hcs]; rfl, hquote⟩, ?_⟩
    rw [hsplit]
    exact last_append ⟨c, hc, hlast⟩
  · rw [Formula.termText, hof]
    exact hspells
  · refine Expression.conjunction_atom (hatom _ fun _ ht => .inr ht) (hatom _ fun _ ht => .inl ht)
      ?_ ?_ ?_
    · rw [hhead]
      rfl
    · rw [hhead]
      simp
    · rw [hhead]
      rfl

end SqlGateway.Sql
