import SqlGateway.Proofs.Sql.Lexeme

/-!
# Whole texts as tokens

`tokens? d cs` takes a written condition apart.  Beside the tokens of `next?`
it knows those that only hand-written text has: names in square brackets (SQL
Server), texts in double quotes (MySQL), texts with escapes and the brackets of
arrays (PostgreSQL).  A text is not taken apart where that hangs on a server's
version or settings, and not at a comment or the end of a statement.  What is
taken apart stays so in front of a blank, a comma or a closing parenthesis.

    tokens? d cs = ts  →  tokens? d (cs ++ ' ' :: more) = ts ++ tokens? d more
-/

namespace SqlGateway.Sql

/-! ## Algorithm -/

/-- The characters of an operator up to a number, a bracket or anything else. -/
def operatorRun : List Char → List Char × List Char
  | [] => ([], [])
  | c :: cs =>
    if isSymbolChar c && !startsNumber (c :: cs) && c ≠ '[' && c ≠ ']' then
      (c :: (operatorRun cs).1, (operatorRun cs).2)
    else ([], c :: cs)

/-- An operator that means the same wherever it stands.  MySQL takes two bars or ampersands
for OR and AND, so they must not run into other characters. -/
def isClear (d : Dialect) (w rest : List Char) : Bool :=
  !w.isEmpty && !hasComment d w && !w.any (fun c => c = '$' || c = ';')
    && !(w.getLast? = some '-' && rest.head? = some '-')
    && !(w.getLast?.any (fun c => c = '@' || c = '#') && rest.head?.any isWordChar)
    && (d ≠ .mysql || w = ['|', '|'] || w = ['&', '&']
      || !(Text.containsChars ['|', '|'] w || Text.containsChars ['&', '&'] w
        || Text.containsChars [':', '='] w))

def clearOperator? (d : Dialect) : Reader Token := fun cs =>
  let (w, rest) := operatorRun cs
  if isClear d w rest then some (.symbol (.ofList w), rest) else none

/-- What can follow the digits of a number at once: an exponent, or the digits after `0x`. -/
def isTail (digits tail : List Char) : Bool :=
  match tail with
  | [] => false
  | c :: tail =>
    ((c = 'e' || c = 'E') && tail.all Decimal.isDigit)
      || (digits = ['0'] && c = 'x' && tail.all fun c => (Text.Hex.digit? c).isSome)

/-- A number at the start of `cs` with the letters that follow it, if any do. -/
def withTail? (cs : List Char) (t : Token) (rest : List Char) : Option (Token × List Char) :=
  match t with
  | .number _ =>
    let digits := cs.take (cs.length - rest.length)
    let tail := rest.takeWhile isWordChar
    if tail = [] then some (t, rest)
    else if isTail digits tail then some (.word (.ofList (digits ++ tail)), rest.dropWhile isWordChar)
    else none
  | _ => some (t, rest)

/-- What stands up to the closing quote, as a token. -/
def upTo? (q : Char) (escapes : Bool) (token : String → Token) : Reader Token := fun cs =>
  (quoted? q escapes cs).map fun (s, rest) => (token (.ofList s), rest)

/-- The token at the very start of a condition. -/
def piece? (d : Dialect) : Reader Token
  | [] => none
  | c :: cs =>
    if d = .mssql ∧ c = '[' then upTo? ']' false .name cs
    else if d = .mysql ∧ c = '\x22' then upTo? '\x22' true .text cs
    else if d = .pgsql ∧ (c = '[' ∨ c = ']') then some (.mark c, cs)
    else if d = .pgsql ∧ (c = 'E' ∨ c = 'e') ∧ cs.head? = some '\x27' then
      upTo? '\x27' true .text cs.tail
    else if isSymbolChar c && !startsNumber (c :: cs) then clearOperator? d (c :: cs)
    else (lexeme? d (c :: cs)).bind fun (t, rest) => withTail? (c :: cs) t rest

def token? (d : Dialect) : Reader Token := fun cs =>
  piece? d (skipBlanks cs)

def tokensWithin? (d : Dialect) : Nat → List Char → Option (List Token)
  | 0, _ => none
  | bound + 1, cs =>
    if (skipBlanks cs).isEmpty then some []
    else (token? d cs).bind fun r => (tokensWithin? d bound r.2).map (r.1 :: ·)

/-- All tokens of a text, which has no more of them than characters. -/
def tokens? (d : Dialect) (cs : List Char) : Option (List Token) :=
  tokensWithin? d (cs.length + 1) cs

/-! ## Tokens -/

theorem operatorRun_append {c : Char} (hc : isBreak c = true) (cs more : List Char) :
    operatorRun (cs ++ c :: more) = ((operatorRun cs).1, (operatorRun cs).2 ++ c :: more) ∧
      (operatorRun cs).1 ++ (operatorRun cs).2 = cs := by
  induction cs with
  | nil => simp [operatorRun, (breaks_of_isBreak hc).symbol]
  | cons e cs ih =>
    have hnum := startsNumber_append_break hc (e :: cs) more (by simp)
    rw [List.cons_append] at hnum ⊢
    rw [operatorRun, operatorRun, hnum]
    split
    · rw [ih.1]
      exact ⟨rfl, by rw [List.cons_append, ih.2]⟩
    · exact ⟨rfl, rfl⟩

theorem isClear_append {d : Dialect} {w rest : List Char} {c : Char} (hc : isBreak c = true)
    (more : List Char) : isClear d w (rest ++ c :: more) = isClear d w rest := by
  have hb := breaks_of_isBreak hc
  cases rest with
  | nil => simp [isClear, hb.word, hb.minus]
  | cons e rest => rfl

theorem clearOperator?_readsTo {d : Dialect} {cs after : List Char} {t : Token}
    (h : clearOperator? d cs = some (t, after)) : ReadsTo (clearOperator? d) cs t after := by
  unfold clearOperator? at h
  split at h
  next w rest hrun =>
  split at h
  · next hclear =>
    cases h
    have hsplit : w ++ after = cs := by
      have happend := (operatorRun_append (c := ' ') (by decide) cs []).2
      rwa [hrun] at happend
    have hne : w ≠ [] := by
      rintro rfl
      cases hclear
    have hpos := List.length_pos_of_ne_nil hne
    refine ⟨⟨w, hsplit⟩, ?_, fun c more hc => ?_⟩
    · rw [← hsplit, List.length_append]
      omega
    · unfold clearOperator?
      rw [(operatorRun_append hc cs more).1, hrun]
      show (if isClear d w (after ++ c :: more) = true then _ else _) = _
      rw [isClear_append hc, if_pos hclear]
  · cases h

theorem withTail?_append {cs rest after : List Char} {t t' : Token}
    (h : withTail? cs t rest = some (t', after)) :
    after <:+ rest ∧ ∀ c more, isBreak c = true →
      withTail? (cs ++ c :: more) t (rest ++ c :: more) = some (t', after ++ c :: more) := by
  cases t with
  | number r =>
    have hlength : ∀ more : List Char, (cs ++ more).take ((cs ++ more).length - (rest ++ more).length)
        = cs.take (cs.length - rest.length) := by
      intro more
      rw [List.length_append, List.length_append, Nat.add_sub_add_right,
        List.take_append_of_le_length (Nat.sub_le _ _)]
    have htails : ∀ c more, isBreak c = true →
        (rest ++ c :: more).takeWhile isWordChar = rest.takeWhile isWordChar ∧
          (rest ++ c :: more).dropWhile isWordChar = rest.dropWhile isWordChar ++ c :: more :=
      fun c more hc => takeWhile_append_break (breaks_of_isBreak hc).word rest more
    simp only [withTail?] at h ⊢
    split_ifs at h with htail hok
    · cases h
      refine ⟨List.suffix_rfl, fun c more hc => ?_⟩
      rw [(htails c more hc).1, if_pos htail]
    · cases h
      refine ⟨List.dropWhile_suffix _, fun c more hc => ?_⟩
      rw [(htails c more hc).1, (htails c more hc).2, hlength, if_neg htail, if_pos hok]
  | _ =>
    cases h
    exact ⟨List.suffix_rfl, fun c more hc => rfl⟩

theorem upTo?_readsTo {q : Char} (hq : isBreak q = false) {escapes : Bool}
    {token : String → Token} {cs after : List Char} {t : Token}
    (h : upTo? q escapes token cs = some (t, after)) :
    ReadsTo (upTo? q escapes token) cs t after := by
  obtain ⟨r, hr, hafter⟩ := Option.map_eq_some_iff.1 h
  cases hafter
  exact (quoted?_readsTo hq hr).map fun s => token (.ofList s)

theorem piece?_readsTo {d : Dialect} {cs after : List Char} {t : Token}
    (h : piece? d cs = some (t, after)) : ReadsTo (piece? d) cs t after := by
  cases cs with
  | nil => cases h
  | cons e cs =>
    have hcons : ∀ c more, (e :: cs) ++ c :: more = e :: (cs ++ c :: more) := fun c more => rfl
    have hnum : ∀ c more, isBreak c = true →
        startsNumber (e :: (cs ++ c :: more)) = startsNumber (e :: cs) := by
      intro c more hc
      exact startsNumber_append_break hc (e :: cs) more (by simp)
    have hescape : ∀ c more, isBreak c = true →
        ¬ (d = .pgsql ∧ (e = 'E' ∨ e = 'e') ∧ cs.head? = some '\x27') →
        ¬ (d = .pgsql ∧ (e = 'E' ∨ e = 'e') ∧ (cs ++ c :: more).head? = some '\x27') := by
      rintro c more hc hno ⟨hd, he, hq⟩
      cases cs with
      | nil =>
        cases hq
        cases hc
      | cons e' cs => exact hno ⟨hd, he, hq⟩
    rw [piece?] at h
    split_ifs at h with h1 h2 h3 h4 h5
    · refine (upTo?_readsTo (by decide) h).skip [e] fun c more _ => ?_
      rw [List.singleton_append, piece?, if_pos h1]
    · refine (upTo?_readsTo (by decide) h).skip [e] fun c more _ => ?_
      rw [List.singleton_append, piece?, if_neg h1, if_pos h2]
    · cases h
      refine ⟨List.suffix_cons _ _, Nat.lt_succ_self _, fun c more hc => ?_⟩
      rw [hcons, piece?, if_neg h1, if_neg h2, if_pos h3]
    · obtain ⟨cs, rfl⟩ := List.head?_eq_some_iff.1 h4.2.2
      refine (upTo?_readsTo (by decide) h).skip [e, '\x27'] fun c more _ => ?_
      rw [List.cons_append, List.singleton_append, piece?, if_neg h1, if_neg h2, if_neg h3,
        if_pos ⟨h4.1, h4.2.1, rfl⟩]
      rfl
    · refine (clearOperator?_readsTo h).of_eq fun c more hc => ?_
      rw [hcons, piece?, if_neg h1, if_neg h2, if_neg h3, if_neg (hescape c more hc h4),
        hnum c more hc, if_pos h5]
    · obtain ⟨⟨t', rest⟩, hlex, htail⟩ := Option.bind_eq_some_iff.1 h
      have hread := lexeme?_readsTo hlex
      obtain ⟨hsuffix, happend⟩ := withTail?_append htail
      refine ⟨hsuffix.trans hread.suffix, lt_of_le_of_lt hsuffix.length_le hread.shorter,
        fun c more hc => ?_⟩
      have hmore := hread.append c more hc
      have htails := happend c more hc
      rw [hcons] at hmore htails ⊢
      rw [piece?, if_neg h1, if_neg h2, if_neg h3, if_neg (hescape c more hc h4), hnum c more hc,
        if_neg h5, hmore]
      exact htails

theorem token?_readsTo {d : Dialect} {cs after : List Char} {t : Token}
    (h : token? d cs = some (t, after)) : ReadsTo (token? d) cs t after := by
  have hne : skipBlanks cs ≠ [] := by
    intro hnil
    rw [token?, hnil] at h
    cases h
  have hread := piece?_readsTo h
  have hle := (skipBlanks_suffix cs).length_le
  have hlt := hread.shorter
  refine ⟨hread.suffix.trans (skipBlanks_suffix cs), by omega, fun c more hc => ?_⟩
  rw [token?, skipBlanks_append hne, hread.append c more hc]

theorem lexeme?_symbol {d : Dialect} {c : Char} {cs after : List Char} {t : Token}
    (hc : isSymbolChar c = true) (hs : startsNumber (c :: cs) = false)
    (h : lexeme? d (c :: cs) = some (t, after)) : ∃ w, t = .symbol w := by
  obtain ⟨hword, hquote, hmark, -⟩ := isSymbolChar_ne c hc
  simp only [isQuote, Bool.or_eq_false_iff, decide_eq_false_iff_not] at hquote
  have hname : c ≠ nameQuote d := by
    cases d
    · exact hquote.2
    · exact hquote.1.1
    · exact hquote.1.1
  rw [lexeme?, if_neg hquote.1.2, if_neg hname, hmark, hs, hword, hc] at h
  simp only [Bool.false_eq_true, if_false, if_true] at h
  unfold operator? at h
  split at h
  · cases h
  · cases h
    exact ⟨_, rfl⟩

/-- A token of `next?` is one of a condition, unless it is an operator, goes on behind a number or
stands for an escaped text. -/
theorem token?_of_next? {d : Dialect} {cs after : List Char} {t : Token}
    (h : next? d cs = some (t, after))
    (htail : withTail? (skipBlanks cs) t after = some (t, after))
    (hsymbol : ∀ w, t ≠ .symbol w) (hword : t ≠ .word "E" ∧ t ≠ .word "e") :
    token? d cs = some (t, after) := by
  unfold next? at h
  unfold token?
  cases hcs : skipBlanks cs with
  | nil =>
    rw [hcs] at h
    cases h
  | cons c rest =>
    rw [hcs] at h htail
    have hoperator : ¬ (isSymbolChar c && !startsNumber (c :: rest)) = true := by
      intro hc
      rw [Bool.and_eq_true, Bool.not_eq_true'] at hc
      obtain ⟨w, hw⟩ := lexeme?_symbol hc.1 hc.2 h
      exact hsymbol w hw
    have hbracket : ¬ (c = '[' ∨ c = ']') := by
      rintro (rfl | rfl) <;> exact hoperator (by simp [startsNumber, Decimal.isDigit]; decide)
    have hname : ¬ (d = .mysql ∧ c = '\x22') := by
      rintro ⟨rfl, rfl⟩
      rw [lexeme?] at h
      cases h
    have hescape : ¬ (d = .pgsql ∧ (c = 'E' ∨ c = 'e') ∧ rest.head? = some '\x27') := by
      rintro ⟨rfl, hc, hq⟩
      obtain ⟨rest, rfl⟩ := List.head?_eq_some_iff.1 hq
      rcases hc with rfl | rfl
      · have hword' : t = .word "E" := by
          rw [lexeme?] at h
          cases h
          rfl
        exact hword.1 hword'
      · have hword' : t = .word "e" := by
          rw [lexeme?] at h
          cases h
          rfl
        exact hword.2 hword'
    rw [piece?, if_neg fun hc => hbracket (.inl hc.2), if_neg hname, if_neg fun hc => hbracket hc.2,
      if_neg hescape, if_neg hoperator, h]
    exact htail

/-! ## Texts -/

theorem token?_skipBlanks {d : Dialect} {cs cs' : List Char} (h : skipBlanks cs = skipBlanks cs') :
    token? d cs = token? d cs' := by
  rw [token?, token?, h]

theorem token?_of_nil {d : Dialect} {cs : List Char} (h : skipBlanks cs = []) :
    token? d cs = none := by
  rw [token?, h]
  rfl

/-- The bound does not matter once it is above the length. -/
theorem tokensWithin?_eq (d : Dialect) (bound bound' : Nat) (cs : List Char)
    (hb : cs.length < bound) (hb' : cs.length < bound') :
    tokensWithin? d bound cs = tokensWithin? d bound' cs := by
  induction bound generalizing bound' cs with
  | zero => omega
  | succ bound ih =>
    obtain ⟨bound', rfl⟩ : ∃ n, bound' = n + 1 := ⟨bound' - 1, by omega⟩
    rw [tokensWithin?, tokensWithin?]
    cases ht : token? d cs with
    | none => rfl
    | some r =>
      have hshorter := (token?_readsTo ht).shorter
      rw [Option.bind_some, Option.bind_some, ih bound' r.2 (by omega) (by omega)]

theorem tokens?_of_nil {d : Dialect} {cs : List Char} (h : skipBlanks cs = []) :
    tokens? d cs = some [] := by
  rw [tokens?, tokensWithin?, h]
  rfl

theorem tokens?_cons {d : Dialect} {cs rest : List Char} {t : Token}
    (h : token? d cs = some (t, rest)) : tokens? d cs = (tokens? d rest).map (t :: ·) := by
  have hne : skipBlanks cs ≠ [] := by
    intro hnil
    rw [token?_of_nil hnil] at h
    cases h
  have hshorter := (token?_readsTo h).shorter
  rw [tokens?, tokensWithin?, if_neg (by simpa using hne), h, Option.bind_some, tokens?,
    tokensWithin?_eq d cs.length (rest.length + 1) rest hshorter (by omega)]

/-- Blanks in front do not count. -/
theorem tokens?_skipBlanks {d : Dialect} {cs cs' : List Char} (h : skipBlanks cs = skipBlanks cs') :
    tokens? d cs = tokens? d cs' := by
  have htoken := token?_skipBlanks (d := d) h
  cases ht : token? d cs' with
  | some r => rw [tokens?_cons (htoken.trans ht), tokens?_cons ht]
  | none =>
    rw [ht] at htoken
    rw [tokens?, tokens?, tokensWithin?, tokensWithin?, htoken, ht, h]
    rfl

theorem tokens?_space (d : Dialect) (cs : List Char) : tokens? d (' ' :: cs) = tokens? d cs :=
  tokens?_skipBlanks (skipBlanks_space cs)

/-- A text in front of a break keeps its tokens. -/
theorem tokens?_append {d : Dialect} {cs : List Char} {ts : List Token}
    (h : tokens? d cs = some ts) {more : List Char} (hm : ∀ c ∈ more.head?, isBreak c = true) :
    tokens? d (cs ++ more) = (tokens? d more).map (ts ++ ·) := by
  induction hn : cs.length using Nat.strongRecOn generalizing cs ts with
  | ind n ih =>
    by_cases hblank : skipBlanks cs = []
    · rw [tokens?_of_nil hblank] at h
      cases h
      rw [tokens?_skipBlanks (skipBlanks_append_of_nil hblank more)]
      simp
    · cases ht : token? d cs with
      | none =>
        rw [tokens?, tokensWithin?, if_neg (by simpa using hblank), ht] at h
        cases h
      | some r =>
        obtain ⟨t, rest⟩ := r
        have hread := token?_readsTo ht
        have hshorter := hread.shorter
        rw [tokens?_cons ht] at h
        obtain ⟨us, hus, rfl⟩ := Option.map_eq_some_iff.1 h
        have hrest := ih rest.length (by omega) hus rfl
        have htoken : token? d (cs ++ more) = some (t, rest ++ more) := by
          cases more with
          | nil => simpa using ht
          | cons c more => exact hread.append c more (hm c rfl)
        rw [tokens?_cons htoken, hrest, Option.map_map]
        rfl

/-- A text that is `ts`, whatever delimited text follows it. -/
def Spells (d : Dialect) (cs : List Char) (ts : List Token) : Prop :=
  ∀ more, Delimited more → tokens? d (cs ++ more) = (tokens? d more).map (ts ++ ·)

theorem Spells.tokens? {d : Dialect} {cs : List Char} {ts : List Token} (h : Spells d cs ts) :
    tokens? d cs = some ts := by
  have hnil : Sql.tokens? d [] = some [] := tokens?_of_nil rfl
  have hread := h [] delimited_nil
  rw [List.append_nil, hnil] at hread
  simpa using hread

theorem isBreak_of_delimited {rest : List Char} (h : Delimited rest) :
    ∀ c ∈ rest.head?, isBreak c = true := by
  intro c hc
  rcases h c hc with rfl | rfl | rfl <;> decide

theorem spells_of_tokens? {d : Dialect} {cs : List Char} {ts : List Token}
    (h : tokens? d cs = some ts) : Spells d cs ts :=
  fun _ hm => tokens?_append h (isBreak_of_delimited hm)

/-- A text between blanks. -/
theorem Spells.blanks {d : Dialect} {cs : List Char} {ts : List Token} (h : Spells d cs ts)
    {pre post : List Char} (hpre : skipBlanks pre = []) (hpost : skipBlanks post = []) :
    Spells d (pre ++ cs ++ post) ts := by
  refine spells_of_tokens? ?_
  have hbreak : ∀ c ∈ post.head?, isBreak c = true := by
    intro c hc
    have hmem := List.mem_of_head? hc
    have hblank := List.dropWhile_eq_nil_iff.1 hpost c hmem
    simp [isBreak, hblank]
  rw [List.append_assoc, tokens?_skipBlanks (skipBlanks_append_of_nil hpre _),
    tokens?_append h.tokens? hbreak, tokens?_of_nil hpost]
  simp

theorem Spells.append {d : Dialect} {cs cs' : List Char} {ts us : List Token}
    (h : Spells d cs ts) (h' : Spells d (' ' :: cs') us) :
    Spells d (cs ++ ' ' :: cs') (ts ++ us) := by
  intro more hm
  rw [List.append_assoc, h (' ' :: cs' ++ more) (delimited_cons ' ' _ (.inl rfl)), h' more hm,
    Option.map_map]
  congr 1
  funext vs
  exact (List.append_assoc ts us vs).symm

theorem Spells.space {d : Dialect} {cs : List Char} {ts : List Token} (h : Spells d cs ts) :
    Spells d (' ' :: cs) ts := by
  intro more hm
  rw [List.cons_append, tokens?_space, h more hm]

end SqlGateway.Sql
