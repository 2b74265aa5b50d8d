import SqlGateway.Dialect.Clause
import SqlGateway.Proofs.Sql.Spelling

/-!
# Sources of rows

What a select reads its rows from is a table, perhaps under another name, and
the tables that are joined to it.  `source?` reads such a source as a server
does:

    table [alias] { (INNER | LEFT) JOIN table alias ON condition }

`listedSource?` reads one in which the joins are items of a list, with commas
between them.  No join ends with a comma, so a list of two joins or more is no
sentence of the first kind.
-/

namespace SqlGateway.Sql

open Expression (parts? nesting? expression? isBracket)

/-- A table by the parts of its name, or a query in parentheses. -/
inductive TableRef where
  | named (parts : List String)
  | query (tokens : List Token)

structure Joined where
  table : TableRef
  tableAlias : String
  condition : Formula (List Token)
  mandatory : Bool

structure Source where
  table : TableRef
  tableAlias : Option String
  joins : List Joined

/-! ## Algorithm -/

/-- The parts of a name with a dot between any two of them. -/
def nameParts? : List Token → Option (List String)
  | [.name p] => some [p]
  | .name p :: .mark '.' :: ts => (nameParts? ts).map (p :: ·)
  | _ => none

section

variable (d : Dialect)

/-- What stands between parentheses that are around everything. -/
def unenclosed? : List Token → Option (List Token)
  | [] => none
  | t :: ts =>
    if t = .mark '(' ∧ ts.getLast? = some (.mark ')') ∧ nesting? d [] ts.dropLast = some [] then
      some ts.dropLast
    else none

def tableRef? (ts : List Token) : Option TableRef :=
  match nameParts? ts with
  | some parts => some (.named parts)
  | none => (unenclosed? d ts).map .query

/-- What divides a source, outside of every bracket. -/
def isDivider (t : Token) : Bool :=
  t.isKeyword "JOIN" || t.isKeyword "ON" || isComma t

def mandatory? (t : Token) : Option Bool :=
  if t.isKeyword "INNER" then some true
  else if t.isKeyword "LEFT" then some false
  else none

/-- A word that is none of those that a source or a condition is built with. -/
def isPlainName (w : String) : Bool :=
  isWord w.toList && isInert d (.word w) && !isDivider (.word w) && (mandatory? (.word w)).isNone

/-- A table, perhaps with an alias behind it. -/
def reference? (ts : List Token) : Option (TableRef × Option String) :=
  match ts.getLast? with
  | some (.word w) =>
    if isPlainName d w then (tableRef? d ts.dropLast).map (·, some w) else none
  | _ => (tableRef? d ts).map (·, none)

def condition? (ts : List Token) : Option (Formula (List Token)) :=
  if parts? d isDivider [] ts = some [ts] then expression? d ts else none

/-- What stands behind a JOIN, up to the word before the next one. -/
def joined? (mandatory : Bool) (ts : List Token) : Option Joined :=
  match parts? d (Token.isKeyword "ON") [] ts with
  | some [table, condition] =>
    match reference? d table, condition? d condition with
    | some (table, some tableAlias), some condition =>
      some { table, tableAlias, condition, mandatory }
    | _, _ => none
  | _ => none

/-- What stands before the last word of a part that a JOIN follows, and what the word says of it. -/
def beforeJoin? (ts : List Token) : Option (List Token × Bool) :=
  ts.getLast?.bind fun t => (mandatory? t).map (ts.dropLast, ·)

/-- The joins from the parts behind each JOIN; of the first it is known whether it is mandatory. -/
def joins? (mandatory : Bool) : List (List Token) → Option (List Joined)
  | [] => none
  | [ts] => (joined? d mandatory ts).map ([·])
  | ts :: parts =>
    (beforeJoin? ts).bind fun (ts, next) =>
      (joined? d mandatory ts).bind fun j => (joins? next parts).map (j :: ·)

def sourceOf? (ts : List Token) : Option Source :=
  match parts? d (Token.isKeyword "JOIN") [] ts with
  | some [ts] => (reference? d ts).map fun (table, tableAlias) => { table, tableAlias, joins := [] }
  | some (ts :: parts) =>
    (beforeJoin? ts).bind fun (ts, mandatory) =>
      (reference? d ts).bind fun (table, tableAlias) =>
        (joins? d mandatory parts).map fun joins => { table, tableAlias, joins }
  | _ => none

def source? (s : String) : Option Source :=
  (tokens? d s.toList).bind (sourceOf? d)

/-- A join by itself, without the table that it joins another to. -/
def join? (ts : List Token) : Option Joined :=
  match parts? d (Token.isKeyword "JOIN") [] ts with
  | some [[t], ts] => (mandatory? t).bind fun mandatory => joined? d mandatory ts
  | _ => none

/-- A source in which commas stand before joins. -/
def listedSource? (s : String) : Option Source := do
  let ts ← tokens? d s.toList
  match ← parts? d isComma [] ts with
  | [] => none
  | ts :: parts =>
    let source ← sourceOf? d ts
    let joins ← parts.mapM (join? d)
    return { source with joins := source.joins ++ joins }

/-- What a join with an alias and a condition of its own is read as. -/
def joinReading? (s : JoinSpec) : Option Joined :=
  if isPlainName d s.tableAlias then
    ((tokens? d s.condition.toList).bind (condition? d)).map fun condition =>
      { table := .named (nameParts d s.table), tableAlias := s.tableAlias, condition,
        mandatory := s.mandatory }
  else none

/-- The tokens of a table, which are those of its name unless it is a query. -/
def tableTokens? (table : String) : Option (List Token) :=
  if isDerived table then tokens? d table.toList else some (nameTokens (nameParts d table))

/-- What the table of a select is read as, with its alias if it has one. -/
def tableReading? (o : QueryOptions) (table : String) : Option (TableRef × Option String) :=
  if (o.tableAlias.bind Text.nonBlank?).all (isPlainName d) then
    (tableTokens? d table).bind fun ts =>
      reference? d (ts ++ ((o.tableAlias.bind Text.nonBlank?).map Token.word).toList)
  else none

end

/-! ## Words -/

theorem token?_word (d : Dialect) {w : List Char} {rest : List Char} (hw : isWord w = true)
    (hr : EndsWord rest) : token? d (w ++ rest) = some (.word (.ofList w), rest) := by
  have hnext := next?_word d w rest hw hr
  obtain ⟨hne, hch, hs⟩ := isWord_iff.1 hw
  cases w with
  | nil => exact absurd rfl hne
  | cons c w =>
    have hc := hch c (by simp)
    obtain ⟨hblank, -, hdouble, -, -, hminus⟩ := isWordChar_ne c hc
    have hne : ∀ e : Char, isWordChar e = false → c ≠ e := by
      rintro e he rfl
      rw [hc] at he
      cases he
    have hsymbol : isSymbolChar c = false := by simp [isSymbolChar, hc]
    -- a quote behind the first letter would have to be the next character of the word
    have hquote : (w ++ rest).head? ≠ some '\x27' := by
      cases w with
      | nil => exact fun hq => (hr _ hq).2 rfl
      | cons e w =>
        intro hq
        exact (isWordChar_ne e (hch e (by simp))).2.1 (Option.some.inj hq)
    rw [List.cons_append] at hnext ⊢
    have hskip : skipBlanks (c :: (w ++ rest)) = c :: (w ++ rest) :=
      List.dropWhile_cons_of_neg (by simp [hblank])
    rw [next?, hskip] at hnext
    rw [token?, hskip, piece?, if_neg fun h => hne '[' (by decide) h.2, if_neg fun h => hdouble h.2,
      if_neg fun h => h.2.elim (hne '[' (by decide)) (hne ']' (by decide)),
      if_neg fun h => hquote h.2.2, hsymbol, hnext]
    rfl

theorem spells_word (d : Dialect) {w : String} (hw : isWord w.toList = true) :
    Spells d w.toList [.word w] := by
  intro more hm
  rw [tokens?_cons (token?_word d hw hm.endsWord), String.ofList_toList]
  rfl

/-- Two texts with a blank between them. -/
theorem Spells.spaced {d : Dialect} {cs cs' : List Char} {ts us : List Token} (h : Spells d cs ts)
    (h' : Spells d cs' us) : Spells d (cs ++ ' ' :: cs') (ts ++ us) :=
  h.append h'.space

/-- Texts with something between them that ends each of them. -/
theorem spells_intercalate {d : Dialect} {glue : List Char} {gs : List Token}
    (hends : ∀ more, Delimited (glue ++ more))
    (hglue : ∀ more, tokens? d (glue ++ more) = (tokens? d more).map (gs ++ ·))
    {css : List (List Char)} {tss : List (List Token)} (h : List.Forall₂ (Spells d) css tss) :
    Spells d (glue.intercalate css) (gs.intercalate tss) := by
  induction h with
  | nil =>
    intro more _
    simp
  | cons hfirst hrest ih =>
    cases hrest with
    | nil => simpa using hfirst
    | cons hsecond hrest =>
      intro more hm
      rw [List.intercalate_cons_cons, List.intercalate_cons_cons, List.append_assoc,
        List.append_assoc, hfirst _ (hends _), hglue, ih more hm, Option.map_map, Option.map_map]
      congr 1
      funext us
      simp

/-! ## Parts -/

/-- Tokens with no JOIN, ON or comma outside brackets. -/
def Undivided (d : Dialect) (ts : List Token) : Prop :=
  parts? d isDivider [] ts = some [ts]

section

variable {d : Dialect} {sep : Token → Bool} {ts us : List Token}

theorem Undivided.append (h : Undivided d ts) (h' : Undivided d us) : Undivided d (ts ++ us) :=
  Expression.parts?_append_whole h h'

theorem Undivided.whole (h : Undivided d ts) (hsep : ∀ t, sep t = true → isDivider t = true) :
    parts? d sep [] ts = some [ts] :=
  Expression.parts?_whole_mono hsep h

theorem parts?_of_nesting? {σ : List Expression.Bracket} (hn : nesting? d σ ts = some [])
    (hsep : ∀ t ∈ ts, sep t = false) : parts? d sep σ ts = some [ts] := by
  induction ts generalizing σ with
  | nil =>
    cases hn
    rfl
  | cons t ts ih =>
    obtain ⟨τ, hτ, hts⟩ := Expression.nesting?_cons.1 hn
    exact Expression.parts?_step (by simp [hsep t List.mem_cons_self]) hτ
      (ih hts fun u hu => hsep u (List.mem_cons_of_mem t hu))

theorem parts?_word {w : String} (hsep : sep (.word w) = false)
    (hw : isBracket (.word w) = false) : parts? d sep [] [.word w] = some [[.word w]] :=
  parts?_of_nesting? (Expression.nesting?_cons.2 ⟨[], Expression.nest?_of_not_bracket d hw, rfl⟩)
    (by simpa using hsep)

theorem isJoin_divider (t : Token) (h : t.isKeyword "JOIN" = true) : isDivider t = true := by
  simp [isDivider, h]

theorem isOn_divider (t : Token) (h : t.isKeyword "ON" = true) : isDivider t = true := by
  simp [isDivider, h]

theorem isComma_divider (t : Token) (h : isComma t = true) : isDivider t = true := by
  simp [isDivider, h]

theorem nameParts?_cons (p p' : String) (ps : List String) :
    nameParts? (nameTokens (p :: p' :: ps)) = (nameParts? (nameTokens (p' :: ps))).map (p :: ·) :=
  rfl

theorem nameParts?_nameTokens {ps : List String} (hne : ps ≠ []) :
    nameParts? (nameTokens ps) = some ps := by
  induction ps with
  | nil => exact absurd rfl hne
  | cons p ps ih =>
    cases ps with
    | nil => rfl
    | cons p' ps => rw [nameParts?_cons, ih (by simp), Option.map_some]

theorem eq_nameTokens {ps : List String} (h : nameParts? ts = some ps) : ts = nameTokens ps := by
  fun_induction nameParts? ts generalizing ps with
  | case1 p =>
    cases h
    rfl
  | case2 p ts ih =>
    obtain ⟨qs, hqs, rfl⟩ := Option.map_eq_some_iff.1 h
    rw [ih hqs]
    cases qs with
    | nil =>
      rw [ih hqs] at hqs
      cases hqs
    | cons q qs => rfl
  | case3 => cases h

theorem mem_nameTokens {ps : List String} {t : Token} (h : t ∈ nameTokens ps) :
    t = .mark '.' ∨ ∃ p, t = .name p := by
  cases ps with
  | nil => cases h
  | cons p ps =>
    rcases List.mem_cons.1 h with rfl | h
    · exact .inr ⟨p, rfl⟩
    · obtain ⟨q, -, hq⟩ := List.mem_flatMap.1 h
      have htoken : t = .mark '.' ∨ t = .name q := by simpa using hq
      exact htoken.imp_right fun hname => ⟨q, hname⟩

/-- A name is whole whatever it is divided at, but for dots and names. -/
theorem parts?_nameTokens (d : Dialect) (ps : List String) (hdot : sep (.mark '.') = false)
    (hname : ∀ p, sep (.name p) = false) :
    parts? d sep [] (nameTokens ps) = some [nameTokens ps] := by
  refine parts?_of_nesting? (atomic_nameTokens d ps).nesting? fun t ht => ?_
  rcases mem_nameTokens ht with rfl | ⟨p, rfl⟩
  · exact hdot
  · exact hname p

theorem undivided_nameTokens (d : Dialect) (ps : List String) : Undivided d (nameTokens ps) :=
  parts?_nameTokens d ps rfl fun _ => rfl

theorem undivided_tableRef {r : TableRef} (h : tableRef? d ts = some r) : Undivided d ts := by
  unfold tableRef? at h
  split at h
  · next ps hps =>
    rw [eq_nameTokens hps]
    exact undivided_nameTokens d ps
  · obtain ⟨us, hus, -⟩ := Option.map_eq_some_iff.1 h
    cases ts with
    | nil => cases hus
    | cons t ts =>
      rw [unenclosed?] at hus
      split at hus
      · next hparens =>
        obtain ⟨rfl, hlast, hnesting⟩ := hparens
        have henclosed : parts? d isDivider [] (.mark '(' :: (ts.dropLast ++ [.mark ')'])) = _ :=
          Expression.parts?_enclosed (by decide) hnesting
        rwa [List.dropLast_append_getLast? _ hlast] at henclosed
      · cases hus

/-- A plain name divides nothing and is no bracket. -/
theorem undivided_plainName {w : String} (h : isPlainName d w = true) :
    Undivided d [.word w] := by
  simp only [isPlainName, isInert, Bool.and_eq_true, Bool.not_eq_true'] at h
  obtain ⟨⟨⟨-, ⟨hbracket, -⟩, -⟩, hdivider⟩, -⟩ := h
  exact parts?_word hdivider hbracket

theorem undivided_reference {r : TableRef × Option String} (h : reference? d ts = some r) :
    Undivided d ts := by
  unfold reference? at h
  split at h
  · next w hlast =>
    split at h
    · next hw =>
      obtain ⟨t, ht, -⟩ := Option.map_eq_some_iff.1 h
      have hwhole := (undivided_tableRef ht).append (undivided_plainName hw)
      rwa [List.dropLast_append_getLast? _ hlast] at hwhole
    · cases h
  · obtain ⟨t, ht, -⟩ := Option.map_eq_some_iff.1 h
    exact undivided_tableRef ht

theorem undivided_condition {f : Formula (List Token)} (h : condition? d ts = some f) :
    Undivided d ts := by
  unfold condition? at h
  split at h
  · assumption
  · cases h

end

/-! ## Joins -/

def joinWord (mandatory : Bool) : String :=
  if mandatory then "INNER" else "LEFT"

section

variable (d : Dialect) (s : JoinSpec)

/-- The tokens of a join behind its JOIN. -/
def joinedTokens : List Token :=
  nameTokens (nameParts d s.table) ++ .word s.tableAlias :: .word "ON"
    :: (tokens? d s.condition.toList).getD []

def joinTokens : List Token :=
  .word (joinWord s.mandatory) :: .word "JOIN" :: joinedTokens d s

end

section

variable {d : Dialect} {s : JoinSpec} {j : Joined}

/-- What `joinReading?` says of a join. -/
theorem joinReading?_spec (h : joinReading? d s = some j) :
    isPlainName d s.tableAlias = true ∧ ∃ cs f, tokens? d s.condition.toList = some cs ∧
      condition? d cs = some f ∧
      j = ⟨.named (nameParts d s.table), s.tableAlias, f, s.mandatory⟩ ∧
      joinedTokens d s
        = nameTokens (nameParts d s.table) ++ .word s.tableAlias :: .word "ON" :: cs := by
  unfold joinReading? at h
  split at h
  · next halias =>
    obtain ⟨f, hf, rfl⟩ := Option.map_eq_some_iff.1 h
    obtain ⟨cs, hcs, hcondition⟩ := Option.bind_eq_some_iff.1 hf
    exact ⟨halias, cs, f, hcs, hcondition, rfl, by rw [joinedTokens, hcs, Option.getD_some]⟩
  · cases h

theorem isWord_plainName {w : String} (h : isPlainName d w = true) : isWord w.toList = true := by
  simp only [isPlainName, Bool.and_eq_true] at h
  exact h.1.1.1

theorem spells_joinText (h : joinReading? d s = some j) :
    Spells d (d.joinText (.spec s)).toList (joinTokens d s) := by
  obtain ⟨halias, cs, f, hcs, -, -, htokens⟩ := joinReading?_spec h
  have hword : Spells d (joinWord s.mandatory).toList [.word (joinWord s.mandatory)] := by
    cases s.mandatory <;> exact spells_word d (by decide)
  have htext : (d.joinText (.spec s)).toList = (joinWord s.mandatory).toList ++ ' ' ::
      ("JOIN".toList ++ ' ' :: ((d.quoteIdentifier s.table).toList ++ ' ' ::
        (s.tableAlias.toList ++ ' ' :: ("ON".toList ++ ' ' :: s.condition.toList)))) := by
    cases hm : s.mandatory <;> simp [Dialect.joinText, joinWord, hm]
  have hon := (spells_word d (by decide : isWord "ON".toList = true)).spaced (spells_of_tokens? hcs)
  have htable := (spells_quoteIdentifier d s.table).spaced
    ((spells_word d (isWord_plainName halias)).spaced hon)
  have hjoin := hword.spaced
    ((spells_word d (by decide : isWord "JOIN".toList = true)).spaced htable)
  rw [htext, joinTokens, htokens]
  exact hjoin

theorem tableRef?_nameTokens {ps : List String} (hne : ps ≠ []) :
    tableRef? d (nameTokens ps) = some (.named ps) := by
  rw [tableRef?, nameParts?_nameTokens hne]

theorem reference?_named {ps : List String} (hne : ps ≠ []) {w : String}
    (hw : isPlainName d w = true) :
    reference? d (nameTokens ps ++ [.word w]) = some (.named ps, some w) := by
  unfold reference?
  rw [List.getLast?_concat]
  simp only [hw, if_true, List.dropLast_concat, tableRef?_nameTokens hne, Option.map_some]

/-- No alias is part of a name. -/
theorem reference?_unnamed {ps : List String} (hne : ps ≠ []) :
    reference? d (nameTokens ps) = some (.named ps, none) := by
  unfold reference?
  split
  · next w hw =>
    have hword := mem_nameTokens (List.mem_of_getLast? hw)
    simp at hword
  · rw [tableRef?_nameTokens hne, Option.map_some]

theorem joined?_joinedTokens (h : joinReading? d s = some j) :
    joined? d s.mandatory (joinedTokens d s) = some j := by
  obtain ⟨halias, cs, f, -, hcondition, rfl, htokens⟩ := joinReading?_spec h
  have hfront := (undivided_nameTokens d (nameParts d s.table)).append (undivided_plainName halias)
  have hon : parts? d (Token.isKeyword "ON") [] (joinedTokens d s)
      = some [nameTokens (nameParts d s.table) ++ [.word s.tableAlias], cs] := by
    have hparts := Expression.parts?_append_sep (hfront.whole isOn_divider)
      (by decide : Token.isKeyword "ON" (.word "ON") = true)
      ((undivided_condition hcondition).whole isOn_divider)
    rw [htokens, ← List.singleton_append (l := .word "ON" :: cs), ← List.append_assoc]
    exact hparts
  unfold joined?
  rw [hon]
  simp only [reference?_named (nameParts_ne_nil d s.table) halias, hcondition]

/-- No JOIN and no comma is in a join behind its own JOIN. -/
theorem parts?_joinedTokens (h : joinReading? d s = some j) {sep : Token → Bool}
    (hsep : ∀ t, sep t = true → isDivider t = true) (hon : sep (.word "ON") = false) :
    parts? d sep [] (joinedTokens d s) = some [joinedTokens d s] := by
  obtain ⟨halias, cs, f, -, hcondition, -, htokens⟩ := joinReading?_spec h
  have hfront := (undivided_nameTokens d (nameParts d s.table)).append (undivided_plainName halias)
  have hback := Expression.parts?_append_whole (parts?_word (d := d) hon (by decide))
    ((undivided_condition hcondition).whole hsep)
  have hwhole := Expression.parts?_append_whole (hfront.whole hsep) hback
  rw [htokens]
  simpa using hwhole

end

/-! ## Sources -/

section

variable (d : Dialect) (glue : List Token)

/-- Joins behind a table or another join. -/
def joinsBehind (specs : List JoinSpec) : List Token :=
  specs.flatMap fun s => glue ++ joinTokens d s

/-- The parts between the JOINs of such joins and what stands in front of them. -/
def joinParts : List Token → List JoinSpec → List (List Token)
  | front, [] => [front]
  | front, s :: specs =>
    (front ++ glue ++ [.word (joinWord s.mandatory)]) :: joinParts (joinedTokens d s) specs

end

section

variable {d : Dialect} {glue front : List Token} {specs : List JoinSpec} {js : List Joined}

theorem intercalate_cons {α : Type} (glue x : List α) (xs : List (List α)) :
    glue.intercalate (x :: xs) = x ++ xs.flatMap (glue ++ ·) := by
  induction xs generalizing x with
  | nil => simp
  | cons y ys ih => rw [List.intercalate_cons_cons, ih, List.flatMap_cons, List.append_assoc,
      List.append_assoc]

theorem parts?_joinWord {sep : Token → Bool} (hsep : ∀ t, sep t = true → isDivider t = true)
    (m : Bool) : parts? d sep [] [.word (joinWord m)] = some [[.word (joinWord m)]] := by
  have hdivider : isDivider (.word (joinWord m)) = false := by cases m <;> decide
  refine parts?_word ?_ (by cases m <;> decide)
  cases hs : sep (.word (joinWord m)) with
  | false => rfl
  | true => rw [← hdivider, hsep _ hs]

theorem parts?_joinsBehind (hglue : parts? d (Token.isKeyword "JOIN") [] glue = some [glue])
    (hfront : parts? d (Token.isKeyword "JOIN") [] front = some [front])
    (h : List.Forall₂ (fun s j => joinReading? d s = some j) specs js) :
    parts? d (Token.isKeyword "JOIN") [] (front ++ joinsBehind d glue specs)
      = some (joinParts d glue front specs) := by
  induction h generalizing front with
  | nil => simpa [joinsBehind, joinParts] using hfront
  | @cons s j specs js hs _ ih =>
    have hbefore := Expression.parts?_append_whole
      (Expression.parts?_append_whole hfront hglue) (parts?_joinWord isJoin_divider s.mandatory)
    have hbehind := ih (parts?_joinedTokens hs isJoin_divider (by decide))
    have hparts := Expression.parts?_append_sep hbefore
      (by decide : Token.isKeyword "JOIN" (.word "JOIN") = true) hbehind
    have htokens : front ++ joinsBehind d glue (s :: specs)
        = (front ++ glue ++ [.word (joinWord s.mandatory)]) ++ .word "JOIN" ::
          (joinedTokens d s ++ joinsBehind d glue specs) := by
      simp [joinsBehind, joinTokens]
    rw [htokens, joinParts]
    exact hparts

theorem mandatory?_joinWord (m : Bool) : mandatory? (.word (joinWord m)) = some m := by
  cases m <;> rfl

theorem beforeJoin?_joinWord (ts : List Token) (m : Bool) :
    beforeJoin? (ts ++ [.word (joinWord m)]) = some (ts, m) := by
  rw [beforeJoin?, List.getLast?_concat, Option.bind_some, mandatory?_joinWord,
    List.dropLast_concat, Option.map_some]

theorem joinParts_ne_nil (d : Dialect) (glue front : List Token) (specs : List JoinSpec) :
    joinParts d glue front specs ≠ [] := by
  cases specs <;> simp [joinParts]

theorem joins?_cons {m : Bool} {ts : List Token} {parts : List (List Token)} (hne : parts ≠ []) :
    joins? d m (ts :: parts) = (beforeJoin? ts).bind fun (ts, next) =>
      (joined? d m ts).bind fun j => (joins? d next parts).map (j :: ·) := by
  obtain ⟨p, ps, rfl⟩ := List.exists_cons_of_ne_nil hne
  rfl

/-- Joins with nothing between them are read one by one. -/
theorem joins?_joinParts {s : JoinSpec} {j : Joined} (hs : joinReading? d s = some j)
    (h : List.Forall₂ (fun s j => joinReading? d s = some j) specs js) :
    joins? d s.mandatory (joinParts d [] (joinedTokens d s) specs) = some (j :: js) := by
  induction h generalizing s j with
  | nil => simp [joinParts, joins?, joined?_joinedTokens hs]
  | @cons s' j' specs js hs' _ ih =>
    rw [joinParts, joins?_cons (joinParts_ne_nil _ _ _ _), List.append_nil, beforeJoin?_joinWord,
      Option.bind_some]
    simp only [joined?_joinedTokens hs, ih hs', Option.bind_some, Option.map_some]

/-- No join ends with a comma. -/
theorem joined?_comma {s : JoinSpec} {j : Joined} (hs : joinReading? d s = some j) :
    joined? d s.mandatory (joinedTokens d s ++ [.mark ',']) = none := by
  obtain ⟨halias, cs, f, -, hcondition, -, htokens⟩ := joinReading?_spec hs
  have hfront := (undivided_nameTokens d (nameParts d s.table)).append (undivided_plainName halias)
  have hcs := undivided_condition hcondition
  have hcomma : parts? d (Token.isKeyword "ON") [] [.mark ','] = some [[.mark ',']] := by
    cases d <;> decide
  have hon : parts? d (Token.isKeyword "ON") [] (joinedTokens d s ++ [.mark ','])
      = some [nameTokens (nameParts d s.table) ++ [.word s.tableAlias], cs ++ [.mark ',']] := by
    have hparts := Expression.parts?_append_sep (hfront.whole isOn_divider)
      (by decide : Token.isKeyword "ON" (.word "ON") = true)
      (Expression.parts?_append_whole (hcs.whole isOn_divider) hcomma)
    rw [htokens]
    simpa using hparts
  have hdivided : parts? d isDivider [] (cs ++ [.mark ',']) = some [cs, []] :=
    Expression.parts?_append_sep hcs (by decide : isDivider (.mark ',') = true) rfl
  have hnone : condition? d (cs ++ [.mark ',']) = none := by
    rw [condition?, hdivided, if_neg (by simp)]
  unfold joined?
  rw [hon]
  simp only [hnone]
  split <;> simp_all

theorem joins?_comma {s s' : JoinSpec} {j : Joined} (hs : joinReading? d s = some j) :
    joins? d s.mandatory (joinParts d [.mark ','] (joinedTokens d s) (s' :: specs)) = none := by
  rw [joinParts, joins?_cons (joinParts_ne_nil _ _ _ _), beforeJoin?_joinWord, Option.bind_some]
  simp only [joined?_comma hs, Option.bind_none]

variable {ts : List Token} {table : TableRef} {tableAlias : Option String}

theorem sourceOf?_joins (ht : reference? d ts = some (table, tableAlias))
    (h : List.Forall₂ (fun s j => joinReading? d s = some j) specs js) :
    sourceOf? d (ts ++ joinsBehind d [] specs) = some ⟨table, tableAlias, js⟩ := by
  have hparts : _ = some (joinParts d [] ts specs) := parts?_joinsBehind rfl
    ((undivided_reference ht).whole isJoin_divider) h
  unfold sourceOf?
  rw [hparts]
  cases h with
  | nil => simp only [joinParts, ht, Option.map_some]
  | @cons s j specs js hs hrest =>
    obtain ⟨p, ps, hp⟩ := List.exists_cons_of_ne_nil
      (joinParts_ne_nil d [] (joinedTokens d s) specs)
    have hjoins := joins?_joinParts hs hrest
    rw [joinParts, List.append_nil]
    rw [hp] at hjoins ⊢
    simp only [beforeJoin?_joinWord, ht, hjoins, Option.bind_some, Option.map_some]

/-- The first join and, behind a comma each, the others. -/
def listedTokens (d : Dialect) (ts : List Token) (s : JoinSpec) (specs : List JoinSpec) :
    List Token :=
  ts ++ joinTokens d s ++ joinsBehind d [.mark ','] specs

theorem sourceOf?_listed (ht : reference? d ts = some (table, tableAlias)) {s s' : JoinSpec}
    {j : Joined} (hs : joinReading? d s = some j)
    (h : List.Forall₂ (fun s j => joinReading? d s = some j) (s' :: specs) js) :
    sourceOf? d (listedTokens d ts s (s' :: specs)) = none := by
  have hcomma : parts? d (Token.isKeyword "JOIN") [] [.mark ','] = some [[.mark ',']] := by
    cases d <;> decide
  have hbehind := parts?_joinsBehind hcomma (parts?_joinedTokens hs isJoin_divider (by decide)) h
  have hbefore := Expression.parts?_append_whole
    ((undivided_reference ht).whole isJoin_divider) (parts?_joinWord isJoin_divider s.mandatory)
  have hparts := Expression.parts?_append_sep hbefore
    (by decide : Token.isKeyword "JOIN" (.word "JOIN") = true) hbehind
  have htokens : listedTokens d ts s (s' :: specs)
      = (ts ++ [.word (joinWord s.mandatory)]) ++ .word "JOIN" ::
        (joinedTokens d s ++ joinsBehind d [.mark ','] (s' :: specs)) := by
    simp [listedTokens, joinTokens]
  have hnone : joins? d s.mandatory
      (joinParts d [.mark ','] (joinedTokens d s) (s' :: specs)) = none :=
    joins?_comma hs
  unfold sourceOf?
  rw [htokens, hparts]
  obtain ⟨p, ps, hp⟩ := List.exists_cons_of_ne_nil
    (joinParts_ne_nil d [.mark ','] (joinedTokens d s) (s' :: specs))
  rw [hp] at hnone
  simp only [hp, List.singleton_append, beforeJoin?_joinWord, ht, hnone, Option.bind_some,
    Option.map_none]

theorem join?_joinTokens {s : JoinSpec} {j : Joined} (hs : joinReading? d s = some j) :
    join? d (joinTokens d s) = some j := by
  have hparts := Expression.parts?_append_sep
    (parts?_joinWord (d := d) isJoin_divider s.mandatory)
    (by decide : Token.isKeyword "JOIN" (.word "JOIN") = true)
    (parts?_joinedTokens hs isJoin_divider (by decide))
  unfold join?
  rw [joinTokens, ← List.singleton_append, hparts]
  simp only [List.singleton_append, mandatory?_joinWord, Option.bind_some, joined?_joinedTokens hs]

theorem parts?_joinTokens {s : JoinSpec} {j : Joined} (hs : joinReading? d s = some j) :
    parts? d isComma [] (joinTokens d s) = some [joinTokens d s] := by
  have hjoin : parts? d isComma [] [.word "JOIN"] = some [[.word "JOIN"]] :=
    parts?_word (by decide) (by decide)
  have hback := Expression.parts?_append_whole hjoin
    (parts?_joinedTokens hs isComma_divider (by decide))
  exact Expression.parts?_append_whole (parts?_joinWord isComma_divider s.mandatory) hback

theorem parts?_listed {x : List Token} (hx : parts? d isComma [] x = some [x])
    (h : List.Forall₂ (fun s j => joinReading? d s = some j) specs js) :
    parts? d isComma [] (x ++ joinsBehind d [.mark ','] specs)
      = some (x :: specs.map (joinTokens d)) := by
  induction h generalizing x with
  | nil => simpa [joinsBehind] using hx
  | @cons s j specs js hs _ ih =>
    have hparts := Expression.parts?_append_sep hx (by decide : isComma (.mark ',') = true)
      (ih (parts?_joinTokens hs))
    have htokens : x ++ joinsBehind d [.mark ','] (s :: specs)
        = x ++ .mark ',' :: (joinTokens d s ++ joinsBehind d [.mark ','] specs) := by
      simp [joinsBehind]
    rw [htokens]
    exact hparts

theorem mapM_join? (h : List.Forall₂ (fun s j => joinReading? d s = some j) specs js) :
    (specs.map (joinTokens d)).mapM (join? d) = some js :=
  Expression.mapM_eq_some_iff.2
    (List.forall₂_map_left_iff.2 (h.imp fun _ _ hs => join?_joinTokens hs))

end

end SqlGateway.Sql
