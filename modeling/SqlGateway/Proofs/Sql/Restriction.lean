import SqlGateway.Proofs.Sql.Spelling
import SqlGateway.Request.Select

/-!
# What conditions restrict rows to

A list of conditions, or an AND group, is written with AND between the items and
nothing around them.  `holds d ρ c` is the truth of a condition by itself, when
`ρ` says which atoms are true of a row.  Read as a whole, a clause is true of a
row exactly when every condition of its list is, provided that no condition
beside others has an OR outside brackets: AND binds its operands before that OR
does, and would take them away from the condition.

    guarded cs  →  truth of "c₁ AND … AND cₙ" = every cᵢ holds
-/

namespace SqlGateway.Sql

open Expression (expression? isLoose parts? Conjunction)
open Formula (eval group)

/-! ## Algorithm -/

/-- The blanks in front of a text. -/
def leading (cs : List Char) : List Char :=
  cs.takeWhile Text.isBlank

/-- The blanks behind a text that is not blank. -/
def trailing (cs : List Char) : List Char :=
  ((Text.trimStart cs).reverse.takeWhile Text.isBlank).reverse

/-- The tokens of a text between blanks that are blanks to a server too. -/
def core? (d : Dialect) (s : String) : Option (List Token) :=
  if (leading s.toList).all Char.isWhitespace && (trailing s.toList).all Char.isWhitespace then
    tokens? d (Text.trimChars s.toList)
  else none

/-- What a text says by itself. -/
def saying? (d : Dialect) (s : String) : Option (Formula (List Token)) :=
  (core? d s).bind (expression? d)

def isTightText (d : Dialect) (s : String) : Bool :=
  (core? d s).any (Expression.isTight d)

section

variable (d : Dialect) (ρ : List Token → Bool)

def textHolds (s : String) : Bool :=
  (saying? d s).any (eval ρ)

mutual

/-- The truth of a condition by itself, when `ρ` gives that of each atom. -/
def holds : Condition → Bool
  | .raw sql => textHolds d ρ sql
  | .term t => (t.text d).toOption.any (textHolds d ρ)
  | .or items => anyHolds items
  | .and items => allHold items

def anyHolds : List Condition → Bool
  | [] => false
  | c :: cs => holds c || anyHolds cs

def allHold : List Condition → Bool
  | [] => true
  | c :: cs => holds c && allHold cs

end

mutual

/-- Raw texts and terms that are expressions, and groups of such that are not empty. -/
def isWellFormed : Condition → Bool
  | .raw sql => (saying? d sql).isSome
  | .term t => isComparison d t || (t.text d).toOption.any fun s => (saying? d s).isSome
  | .or items => !items.isEmpty && areWellFormed items
  | .and items => !items.isEmpty && areWellFormed items

def areWellFormed : List Condition → Bool
  | [] => true
  | c :: cs => isWellFormed c && areWellFormed cs

end

mutual

/-- A condition whose text has nothing that binds less than AND outside brackets. -/
def isTight : Condition → Bool
  | .raw sql => isTightText d sql
  | .term t => isComparison d t || (t.text d).toOption.any (isTightText d)
  | .or _ => true
  | .and items => areTight items

def areTight : List Condition → Bool
  | [] => true
  | c :: cs => isTight c && areTight cs

end

/-- Items between which AND can stand: one alone, or none with an OR outside brackets. -/
def canJoin (cs : List Condition) : Bool :=
  decide (cs.length ≤ 1) || areTight d cs

mutual

/-- A condition in whose groups AND stands between items that it can stand between. -/
def isGuarded : Condition → Bool
  | .raw _ => true
  | .term _ => true
  | .or items => areGuarded items
  | .and items => canJoin d items && areGuarded items

def areGuarded : List Condition → Bool
  | [] => true
  | c :: cs => isGuarded c && areGuarded cs

end

/-- Whether a row passes a clause: an absent clause lets every row pass. -/
def passes? (word : String) (clause : List String) : Option Bool :=
  match clause with
  | [] => some true
  | [s] => do
    let cs ← Text.dropStart? word.toList s.toList
    let f ← (tokens? d cs).bind (expression? d)
    return eval ρ f
  | _ => none

end

/-! ## Blanks -/

theorem trimChars_append_trailing (cs : List Char) :
    Text.trimChars cs ++ trailing cs = Text.trimStart cs := by
  rw [Text.trimChars, Text.trimEnd, trailing, ← List.reverse_append,
    List.takeWhile_append_dropWhile, List.reverse_reverse]

theorem leading_append_trimChars (cs : List Char) :
    leading cs ++ Text.trimChars cs ++ trailing cs = cs := by
  rw [List.append_assoc, trimChars_append_trailing]
  exact List.takeWhile_append_dropWhile

theorem head?_dropWhile_isBlank {cs : List Char} (hne : cs.dropWhile Text.isBlank ≠ []) :
    ∃ c, (cs.dropWhile Text.isBlank).head? = some c ∧ Text.isBlank c = false :=
  ⟨_, List.head?_eq_some_head hne, List.head_dropWhile_not _ hne⟩

theorem trimmed_trimChars {cs : List Char} (hne : Text.trimChars cs ≠ []) :
    Trimmed (Text.trimChars cs) where
  first := by
    have hstart := trimChars_append_trailing cs
    have hrest : cs.dropWhile Text.isBlank ≠ [] := by
      intro hnil
      rw [Text.trimStart, hnil, List.append_eq_nil_iff] at hstart
      exact hne hstart.1
    obtain ⟨c, hc, hblank⟩ := head?_dropWhile_isBlank hrest
    refine ⟨c, ?_, hblank⟩
    rw [← List.head?_append_of_ne_nil _ hne, hstart]
    exact hc
  last := by
    have hrest : (Text.trimStart cs).reverse.dropWhile Text.isBlank ≠ [] := by
      intro hnil
      exact hne (by rw [Text.trimChars, Text.trimEnd, hnil, List.reverse_nil])
    obtain ⟨c, hc, hblank⟩ := head?_dropWhile_isBlank hrest
    exact ⟨c, by rw [Text.trimChars, Text.trimEnd, List.getLast?_reverse, hc], hblank⟩

theorem dropWhile_isBlank_append {pre core : List Char} (hpre : ∀ c ∈ pre, Text.isBlank c = true)
    (hcore : ∃ c, core.head? = some c ∧ Text.isBlank c = false) :
    (pre ++ core).dropWhile Text.isBlank = core := by
  obtain ⟨c, hc, hblank⟩ := hcore
  obtain ⟨core, rfl⟩ := List.head?_eq_some_iff.1 hc
  rw [List.dropWhile_append_of_pos hpre, List.dropWhile_cons_of_neg (by simp [hblank])]

theorem trimChars_of_trimmed {pre core post : List Char} (hcore : Trimmed core)
    (hpre : ∀ c ∈ pre, Text.isBlank c = true) (hpost : ∀ c ∈ post, Text.isBlank c = true) :
    Text.trimChars (pre ++ core ++ post) = core := by
  have hstart : Text.trimStart (pre ++ core ++ post) = core ++ post := by
    rw [Text.trimStart, List.append_assoc]
    obtain ⟨c, hc, hblank⟩ := hcore.first
    exact dropWhile_isBlank_append hpre ⟨c, by rw [List.head?_append, hc]; rfl, hblank⟩
  have hlast : ∃ c, core.reverse.head? = some c ∧ Text.isBlank c = false := by
    rw [List.head?_reverse]
    exact hcore.last
  rw [Text.trimChars, hstart, Text.trimEnd, List.reverse_append,
    dropWhile_isBlank_append (by simpa using hpost) hlast, List.reverse_reverse]

/-- All of a text without a blank at its ends is between its blanks. -/
theorem core?_of_trimmed (d : Dialect) {cs : List Char} (h : Trimmed cs) :
    core? d (.ofList cs) = tokens? d cs := by
  have htrim := trimChars_of_trimmed h (by simp : ∀ c ∈ ([] : List Char), _)
    (by simp : ∀ c ∈ ([] : List Char), _)
  rw [List.nil_append, List.append_nil] at htrim
  have hends : leading cs = [] ∧ trailing cs = [] := by
    have hlength := congrArg List.length (leading_append_trimChars cs)
    rw [htrim, List.length_append, List.length_append] at hlength
    exact ⟨List.eq_nil_of_length_eq_zero (by omega), List.eq_nil_of_length_eq_zero (by omega)⟩
  rw [core?, String.toList_ofList, hends.1, hends.2, htrim]
  rfl

/-- A text that is `ts` between blanks that every server skips. -/
structure Written (d : Dialect) (cs : List Char) (ts : List Token) : Prop where
  inside : ∃ pre core post, cs = pre ++ core ++ post ∧ (∀ c ∈ pre, c.isWhitespace = true) ∧
    (∀ c ∈ post, c.isWhitespace = true) ∧ Trimmed core ∧ Spells d core ts

theorem skipBlanks_of_forall {cs : List Char} (h : ∀ c ∈ cs, c.isWhitespace = true) :
    skipBlanks cs = [] :=
  List.dropWhile_eq_nil_iff.2 h

section

variable {d : Dialect} {cs cs' : List Char} {ts us : List Token}

theorem Trimmed.written (h : Trimmed cs) (hs : Spells d cs ts) : Written d cs ts :=
  ⟨[], cs, [], by simp, by simp, by simp, h, hs⟩

theorem Written.spells (h : Written d cs ts) : Spells d cs ts := by
  obtain ⟨pre, core, post, rfl, hpre, hpost, -, hs⟩ := h.inside
  exact hs.blanks (skipBlanks_of_forall hpre) (skipBlanks_of_forall hpost)

/-- Trimming takes off no more than a server skips. -/
theorem Written.trim (h : Written d cs ts) :
    Trimmed (Text.trimChars cs) ∧ Spells d (Text.trimChars cs) ts := by
  obtain ⟨pre, core, post, rfl, hpre, hpost, hcore, hs⟩ := h.inside
  rw [trimChars_of_trimmed hcore (fun c hc => Text.isBlank_of_isWhitespace c (hpre c hc))
    (fun c hc => Text.isBlank_of_isWhitespace c (hpost c hc))]
  exact ⟨hcore, hs⟩

theorem Written.isBlankText {s : String} (h : Written d s.toList ts) :
    Text.isBlankText s = false := by
  obtain ⟨pre, core, post, hcs, -, -, hcore, -⟩ := h.inside
  obtain ⟨c, hc, hblank⟩ := hcore.first
  have hmem := List.mem_of_head? hc
  refine List.all_eq_false.2 ⟨c, ?_, by simp [hblank]⟩
  rw [hcs]
  simp [hmem]

theorem written_of_core? {s : String} (h : core? d s = some ts) (hne : ts ≠ []) :
    Written d s.toList ts := by
  unfold core? at h
  split at h
  · next hblanks =>
    rw [Bool.and_eq_true, List.all_eq_true, List.all_eq_true] at hblanks
    have hcore : Text.trimChars s.toList ≠ [] := by
      intro hnil
      rw [hnil, tokens?_of_nil rfl] at h
      cases h
      exact hne rfl
    exact ⟨_, _, _, (leading_append_trimChars s.toList).symm, hblanks.1, hblanks.2,
      trimmed_trimChars hcore, spells_of_tokens? h⟩
  · cases h

theorem spells_keyword {w : String} (hw : isWord w.toList = true) (he : w ≠ "E" ∧ w ≠ "e")
    (h : Spells d cs ts) : Spells d (' ' :: (w.toList ++ ' ' :: cs)) (.word w :: ts) := by
  intro more hm
  have hnext := next?_keyword d w (' ' :: (cs ++ more)) hw (endsWord_space _)
  have htoken := token?_of_next? hnext rfl (by simp) (by simpa using he)
  rw [List.cons_append, List.append_assoc, List.cons_append, tokens?_space, tokens?_cons htoken,
    tokens?_space, h more hm, Option.map_map]
  rfl

/-- A keyword with a blank on either side. -/
def keywordText (w : String) : List Char :=
  ' ' :: (w.toList ++ [' '])

/-- A keyword puts two texts into one. -/
theorem Written.join (h : Written d cs ts) (h' : Written d cs' us) {w : String}
    (hw : isWord w.toList = true) (he : w ≠ "E" ∧ w ≠ "e") :
    Written d (cs ++ keywordText w ++ cs') (ts ++ [.word w] ++ us) := by
  obtain ⟨pre, core, post, rfl, hpre, hpost, hcore, hs⟩ := h.inside
  obtain ⟨pre', core', post', rfl, hpre', hpost', hcore', hs'⟩ := h'.inside
  have hleft : Spells d (core ++ post) ts := by
    have hblanks := hs.blanks (rfl : skipBlanks [] = []) (skipBlanks_of_forall hpost)
    rwa [List.nil_append] at hblanks
  have hright : Spells d (pre' ++ core') us := by
    have hblanks := hs'.blanks (skipBlanks_of_forall hpre') (rfl : skipBlanks [] = [])
    rwa [List.append_nil] at hblanks
  have hjoined := hleft.append (spells_keyword hw he hright)
  have hlast : ∃ c, ((core ++ post ++ ' ' :: (w.toList ++ ' ' :: pre')) ++ core').getLast? = some c ∧
      Text.isBlank c = false := last_append hcore'.last
  refine ⟨pre, core ++ post ++ ' ' :: (w.toList ++ ' ' :: (pre' ++ core')), post', by simp [keywordText],
    hpre, hpost', ⟨?_, by simpa using hlast⟩, by simpa using hjoined⟩
  obtain ⟨c, hc, hblank⟩ := hcore.first
  exact ⟨c, by rw [List.append_assoc, List.head?_append, hc]; rfl, hblank⟩

theorem Written.enclose (h : Written d cs ts) :
    Written d ('(' :: (cs ++ [')'])) (.mark '(' :: (ts ++ [.mark ')'])) := by
  refine Trimmed.written ⟨⟨'(', rfl, by decide⟩, ⟨')', ?_, by decide⟩⟩ fun more hm => ?_
  · rw [← List.cons_append, List.getLast?_concat]
  · rw [List.cons_append, List.append_assoc, List.singleton_append,
      tokens?_cons (token?_mark d '(' _ (by decide)), h.spells _ (delimited_closing more),
      tokens?_cons (token?_mark d ')' _ (by decide)), Option.map_map, Option.map_map]
    congr 1
    funext vs
    simp

theorem written_intercalate {w : String} (hw : isWord w.toList = true) (he : w ≠ "E" ∧ w ≠ "e")
    {css : List (List Char)} {tss : List (List Token)} (h : List.Forall₂ (Written d) css tss)
    (hne : tss ≠ []) : Written d ((keywordText w).intercalate css) ([.word w].intercalate tss) := by
  induction h with
  | nil => exact absurd rfl hne
  | cons hfirst hrest ih =>
    cases hrest with
    | nil => simpa using hfirst
    | cons hsecond hrest =>
      rw [List.intercalate_cons_cons, List.intercalate_cons_cons]
      exact hfirst.join (ih (by simp)) hw he

end

/-! ## Conditions -/

/-- What a condition is written and read as. -/
structure Reading where
  text : String
  tokens : List Token
  formula : Formula (List Token)

structure Reads (d : Dialect) (c : Condition) (r : Reading) : Prop where
  text : c.text d = .ok r.text
  written : Written d r.text.toList r.tokens
  expression : expression? d r.tokens = some r.formula
  holds : ∀ ρ, eval ρ r.formula = holds d ρ c
  tight : isTight d c = true → parts? d (isLoose d) [] r.tokens = some [r.tokens]

section

variable {d : Dialect} {cs : List Condition} {rs : List Reading}

theorem texts_of_reads (h : List.Forall₂ (Reads d) cs rs) :
    Condition.texts d cs = .ok (rs.map Reading.text) := by
  induction h with
  | nil => rfl
  | cons hfirst hrest ih =>
    rw [Condition.texts, hfirst.text, ih]
    rfl

theorem allHold_of_reads (h : List.Forall₂ (Reads d) cs rs) (ρ : List Token → Bool) :
    allHold d ρ cs = rs.all fun r => eval ρ r.formula := by
  induction h with
  | nil => rfl
  | cons hfirst hrest ih => rw [allHold, List.all_cons, hfirst.holds, ih]

theorem anyHolds_of_reads (h : List.Forall₂ (Reads d) cs rs) (ρ : List Token → Bool) :
    anyHolds d ρ cs = rs.any fun r => eval ρ r.formula := by
  induction h with
  | nil => rfl
  | cons hfirst hrest ih => rw [anyHolds, List.any_cons, hfirst.holds, ih]

theorem written_of_reads (h : List.Forall₂ (Reads d) cs rs) :
    List.Forall₂ (Written d) ((rs.map Reading.text).map String.toList) (rs.map Reading.tokens) := by
  induction h with
  | nil => exact .nil
  | cons hfirst hrest ih => exact .cons hfirst.written ih

theorem written_trimmed_of_reads (h : List.Forall₂ (Reads d) cs rs) :
    List.Forall₂ (Written d) (((rs.map Reading.text).map Text.trim).map String.toList)
      (rs.map Reading.tokens) := by
  induction h with
  | nil => exact .nil
  | cons hfirst hrest ih =>
    refine .cons ?_ ih
    obtain ⟨htrimmed, hspells⟩ := hfirst.written.trim
    rw [Text.toList_trim]
    exact htrimmed.written hspells

/-- Items without an OR outside brackets are conjunctions. -/
theorem conjunctions_of_reads (h : List.Forall₂ (Reads d) cs rs) (ht : areTight d cs = true) :
    ∃ fss, List.Forall₂ (Conjunction d) (rs.map Reading.tokens) fss ∧
      rs.map Reading.formula = fss.map (group .all) := by
  induction h with
  | nil => exact ⟨[], .nil, rfl⟩
  | cons hfirst hrest ih =>
    rw [areTight, Bool.and_eq_true] at ht
    obtain ⟨fs, hfs, hgroup⟩ :=
      Expression.conjunction_of_expression? hfirst.expression (hfirst.tight ht.1)
    obtain ⟨fss, hfss, hgroups⟩ := ih ht.2
    refine ⟨fs :: fss, .cons hfs hfss, ?_⟩
    rw [List.map_cons, List.map_cons, hgroup, hgroups]

theorem map_ne_nil_of_reads (h : List.Forall₂ (Reads d) cs rs) (hne : cs ≠ []) {β : Type}
    (f : Reading → β) : rs.map f ≠ [] := by
  cases h with
  | nil => exact absurd rfl hne
  | cons hfirst hrest => exact List.cons_ne_nil _ _

/-- Items with AND between them are true together. -/
theorem expression?_and (h : List.Forall₂ (Reads d) cs rs) (hne : cs ≠ [])
    (hjoin : canJoin d cs = true) :
    ∃ f, expression? d ([.word "AND"].intercalate (rs.map Reading.tokens)) = some f ∧
      (∀ ρ, eval ρ f = allHold d ρ cs) ∧
      (areTight d cs = true → parts? d (isLoose d) []
        ([.word "AND"].intercalate (rs.map Reading.tokens))
          = some [[.word "AND"].intercalate (rs.map Reading.tokens)]) := by
  by_cases ht : areTight d cs = true
  · obtain ⟨fss, hfss, hgroups⟩ := conjunctions_of_reads h ht
    have hconj := Expression.conjunction_intercalate hfss (map_ne_nil_of_reads h hne _)
    refine ⟨_, hconj.expression?, fun ρ => ?_, fun _ => hconj.tight⟩
    have hall : (rs.map Reading.formula).all (eval ρ) = fss.flatten.all (eval ρ) := by
      rw [hgroups, List.all_map, List.all_flatten]
      congr 1
      funext fs
      exact Formula.eval_group_all ρ fs
    rw [Formula.eval_group_all, ← hall, List.all_map, allHold_of_reads h ρ]
    rfl
  · rw [canJoin, Bool.or_eq_true, decide_eq_true_eq] at hjoin
    have hone := hjoin.resolve_right ht
    cases h with
    | nil => exact absurd rfl hne
    | cons hfirst hrest =>
      cases hrest with
      | nil =>
        rw [List.map_cons, List.map_nil, List.intercalate_singleton]
        refine ⟨_, hfirst.expression, fun ρ => ?_, fun h => absurd h ht⟩
        rw [hfirst.holds, allHold, allHold, Bool.and_true]
      | cons hsecond hrest => simp at hone

/-- Items with AND between them, each with the blanks it brings or without. -/
theorem written_and {ss : List String} {tss : List (List Token)}
    (h : List.Forall₂ (Written d) (ss.map String.toList) tss) (hne : tss ≠ []) :
    Written d (" AND ".intercalate ss).toList ([.word "AND"].intercalate tss) := by
  rw [String.toList_intercalate]
  exact written_intercalate (by decide : isWord "AND".toList = true) (by decide) h hne

theorem written_or (h : List.Forall₂ (Reads d) cs rs) (hne : cs ≠ []) :
    Written d ("(" ++ " OR ".intercalate ((rs.map Reading.text).map fun s => "(" ++ s ++ ")")
        ++ ")").toList
      (.mark '(' :: ([.word "OR"].intercalate
        (rs.map fun r => .mark '(' :: (r.tokens ++ [.mark ')'])) ++ [.mark ')'])) := by
  have hitems : List.Forall₂ (Written d) (rs.map fun r => '(' :: (r.text.toList ++ [')']))
      (rs.map fun r => .mark '(' :: (r.tokens ++ [.mark ')'])) := by
    clear hne
    induction h with
    | nil => exact .nil
    | cons hfirst hrest ih => exact .cons hfirst.written.enclose ih
  have hne' := map_ne_nil_of_reads h hne fun r => .mark '(' :: (r.tokens ++ [.mark ')'])
  have hjoined := written_intercalate (by decide : isWord "OR".toList = true) (by decide) hitems hne'
  have htext : ("(" ++ " OR ".intercalate ((rs.map Reading.text).map fun s => "(" ++ s ++ ")")
      ++ ")").toList
      = '(' :: ((keywordText "OR").intercalate (rs.map fun r => '(' :: (r.text.toList ++ [')']))
        ++ [')']) := by
    simp [String.toList_append, String.toList_intercalate, keywordText, Function.comp_def]
  rw [htext]
  exact hjoined.enclose

/-- A group of alternatives in parentheses is one factor. -/
theorem conjunction_or (h : List.Forall₂ (Reads d) cs rs) (hne : cs ≠ []) :
    ∃ f, Conjunction d (.mark '(' :: ([.word "OR"].intercalate
        (rs.map fun r => .mark '(' :: (r.tokens ++ [.mark ')'])) ++ [.mark ')'])) [f] ∧
      ∀ ρ, eval ρ f = anyHolds d ρ cs := by
  have hconj : List.Forall₂ (Conjunction d) (rs.map fun r => .mark '(' :: (r.tokens ++ [.mark ')']))
      (rs.map fun r => [r.formula]) := by
    clear hne
    induction h with
    | nil => exact .nil
    | cons hfirst hrest ih => exact .cons (Expression.conjunction_enclosed hfirst.expression) ih
  have hread := Expression.expression?_intercalate hconj (map_ne_nil_of_reads h hne _)
  refine ⟨_, Expression.conjunction_enclosed hread, fun ρ => ?_⟩
  rw [Formula.eval_group_any, List.map_map, List.any_map, anyHolds_of_reads h ρ]
  rfl

end

/-- A text that says something, as a condition of its own. -/
theorem reads_text {d : Dialect} {c : Condition} {s : String} (htext : c.text d = .ok s)
    (hsaying : (saying? d s).isSome = true) (hholds : ∀ ρ, holds d ρ c = textHolds d ρ s)
    (htight : isTight d c = true → isTightText d s = true) : ∃ r, Reads d c r := by
  obtain ⟨f, hf⟩ := Option.isSome_iff_exists.1 hsaying
  obtain ⟨ts, hts, hexpr⟩ := Option.bind_eq_some_iff.1 hf
  have hne : ts ≠ [] := by
    rintro rfl
    cases hexpr
  refine ⟨⟨s, ts, f⟩, htext, written_of_core? hts hne, hexpr, fun ρ => ?_, fun h => ?_⟩
  · rw [hholds, textHolds, hf]
    rfl
  · have h' := htight h
    rw [isTightText, hts] at h'
    exact of_decide_eq_true h'

/-- A comparison says that its atom is true. -/
theorem reads_comparison {d : Dialect} {t : Term} (h : isComparison d t = true) :
    ∃ r, Reads d (.term t) r := by
  obtain ⟨cs, ts, htext, htrimmed, hspells, hconj⟩ := text_comparison h
  have hcore := (core?_of_trimmed d htrimmed).trans hspells.tokens?
  have hexpr := hconj.expression?
  refine ⟨⟨.ofList cs, ts, _⟩, htext, ?_, hexpr, fun ρ => ?_, fun _ => hconj.tight⟩
  · rw [String.toList_ofList]
    exact htrimmed.written hspells
  · rw [holds, htext]
    show _ = textHolds d ρ (.ofList cs)
    rw [textHolds, saying?, hcore, Option.bind_some, hexpr]
    rfl

mutual

/-- A condition that is well formed and guarded is written, and read for what it holds. -/
theorem exists_reads {d : Dialect} {c : Condition} (hw : isWellFormed d c = true)
    (hg : isGuarded d c = true) : ∃ r, Reads d c r := by
  cases c with
  | raw sql => exact reads_text rfl hw (fun _ => rfl) fun h => h
  | term t =>
    rw [isWellFormed, Bool.or_eq_true] at hw
    by_cases hplain : isComparison d t = true
    · exact reads_comparison hplain
    · have hsaying := hw.resolve_left hplain
      cases htext : t.text d with
      | error e =>
        rw [htext] at hsaying
        cases hsaying
      | ok s =>
        rw [htext] at hsaying
        refine reads_text htext hsaying (fun ρ => by rw [holds, htext]; rfl) fun h => ?_
        rw [isTight, htext, Bool.or_eq_true] at h
        exact h.resolve_left hplain
  | or items =>
    rw [isWellFormed, Bool.and_eq_true, Bool.not_eq_true', List.isEmpty_eq_false_iff] at hw
    obtain ⟨rs, hrs⟩ := all_exist_reads hw.2 hg
    obtain ⟨f, hconj, hf⟩ := conjunction_or hrs hw.1
    exact ⟨⟨_, _, f⟩, (Formula.text_group hw.1 (texts_of_reads hrs)).2, written_or hrs hw.1,
      hconj.expression?, hf, fun _ => hconj.tight⟩
  | and items =>
    rw [isWellFormed, Bool.and_eq_true, Bool.not_eq_true', List.isEmpty_eq_false_iff] at hw
    rw [isGuarded, Bool.and_eq_true] at hg
    obtain ⟨rs, hrs⟩ := all_exist_reads hw.2 hg.2
    obtain ⟨f, hexpr, hf, htight⟩ := expression?_and hrs hw.1 hg.1
    have hwritten := written_and (written_of_reads hrs) (map_ne_nil_of_reads hrs hw.1 _)
    exact ⟨⟨_, _, f⟩, (Formula.text_group hw.1 (texts_of_reads hrs)).1, hwritten, hexpr, hf, htight⟩

theorem all_exist_reads {d : Dialect} {cs : List Condition} (hw : areWellFormed d cs = true)
    (hg : areGuarded d cs = true) : ∃ rs, List.Forall₂ (Reads d) cs rs := by
  cases cs with
  | nil => exact ⟨[], .nil⟩
  | cons c cs =>
    rw [areWellFormed, Bool.and_eq_true] at hw
    rw [areGuarded, Bool.and_eq_true] at hg
    obtain ⟨r, hr⟩ := exists_reads hw.1 hg.1
    obtain ⟨rs, hrs⟩ := all_exist_reads hw.2 hg.2
    exact ⟨r :: rs, .cons hr hrs⟩

end

/-! ## Clauses -/

section

variable {d : Dialect} {cs : List Condition} {rs : List Reading}

/-- No item of a list is dropped from a clause; each loses the blanks around it. -/
theorem joinedConditions?_of_reads (h : List.Forall₂ (Reads d) cs rs) (hne : cs ≠ []) :
    joinedConditions? (rs.map Reading.text)
      = some (" AND ".intercalate ((rs.map Reading.text).map Text.trim)) := by
  have hnonBlank : (rs.map Reading.text).filterMap Text.nonBlank?
      = (rs.map Reading.text).map Text.trim := by
    clear hne
    induction h with
    | nil => rfl
    | cons hfirst hrest ih =>
      rw [List.map_cons, List.map_cons, List.filterMap_cons, Text.nonBlank?,
        hfirst.written.isBlankText, ih]
      rfl
  have hmap := map_ne_nil_of_reads h hne fun r => Text.trim r.text
  rw [joinedConditions?, hnonBlank, List.map_map]
  split
  · next hnil => exact absurd hnil hmap
  · rfl

/-- The text behind the keyword of a clause says what all conditions say together. -/
theorem passes?_joined (h : List.Forall₂ (Reads d) cs rs) (hjoin : canJoin d cs = true)
    (word : String) (ρ : List Token → Bool) :
    passes? d ρ word ((joinedConditions? (rs.map Reading.text)).toList.map (word ++ ·))
      = some (allHold d ρ cs) := by
  by_cases hne : cs = []
  · subst hne
    cases h
    rfl
  · have hwritten := written_and (written_trimmed_of_reads h) (map_ne_nil_of_reads h hne _)
    obtain ⟨f, hexpr, hf, -⟩ := expression?_and h hne hjoin
    rw [joinedConditions?_of_reads h hne]
    have hdrop : Text.dropStart? word.toList
        (word ++ " AND ".intercalate ((rs.map Reading.text).map Text.trim)).toList
          = some (" AND ".intercalate ((rs.map Reading.text).map Text.trim)).toList :=
      Text.dropStart?_eq_some_iff.2 String.toList_append
    show (Text.dropStart? _ _).bind _ = _
    rw [hdrop, Option.bind_some, hwritten.spells.tokens?]
    show (expression? d _).bind _ = _
    rw [hexpr, Option.bind_some, hf]
    rfl

end

theorem allHold_eq (d : Dialect) (ρ : List Token → Bool) (cs : List Condition) :
    allHold d ρ cs = cs.all (holds d ρ) := by
  induction cs with
  | nil => rfl
  | cons c cs ih => rw [allHold, List.all_cons, ih]

/-- Conditions only narrow.  Wherever a list of them is put, as the conditions of a request, as
those on the groups of a select or as an AND group, what is written reads as an expression that is
true of a row exactly when every condition of the list is. -/
theorem conditions_narrow (d : Dialect) (cs : List Condition) (hw : areWellFormed d cs = true)
    (hg : areGuarded d cs = true) (hj : canJoin d cs = true) :
    (∀ r : Request, r.dialect = d → r.conditions = cs → ∃ o, r.resolved = .ok o ∧
      ∀ ρ, passes? d ρ "WHERE " (whereClause o.conditions) = some (cs.all (holds d ρ))) ∧
    (∀ (ε : Type) (s : Select ε) (o : QueryOptions), s.dialect = d → s.having = cs →
      s.toRequest.resolved = .ok o → ∃ o', s.resolved = .ok o' ∧ o'.conditions = o.conditions ∧
        ∀ ρ, passes? d ρ "HAVING " (havingClause o'.having) = some (cs.all (holds d ρ))) ∧
    (cs ≠ [] → ∃ text f, (Condition.and cs).text d = .ok text ∧
      (tokens? d text.toList).bind (expression? d) = some f ∧
        ∀ ρ, eval ρ f = cs.all (holds d ρ)) := by
  obtain ⟨rs, hrs⟩ := all_exist_reads hw hg
  have htexts := texts_of_reads hrs
  refine ⟨?_, ?_, fun hne => ?_⟩
  · rintro r rfl rfl
    refine ⟨{ r.options with conditions := rs.map Reading.text, idField := some r.idField }, ?_,
      fun ρ => ?_⟩
    · rw [Request.resolved, htexts]
      rfl
    · rw [← allHold_eq]
      exact passes?_joined hrs hj "WHERE " ρ
  · rintro ε s o rfl rfl ho
    refine ⟨{ o with having := rs.map Reading.text }, ?_, rfl, fun ρ => ?_⟩
    · rw [Select.resolved, ho, htexts]
      rfl
    · rw [← allHold_eq, havingClause_eq]
      exact passes?_joined hrs hj "HAVING " ρ
  · obtain ⟨f, hexpr, hf, -⟩ := expression?_and hrs hne hj
    have hwritten := written_and (written_of_reads hrs) (map_ne_nil_of_reads hrs hne _)
    refine ⟨_, f, (Formula.text_group hne htexts).1, ?_, fun ρ => ?_⟩
    · rw [hwritten.spells.tokens?, Option.bind_some, hexpr]
    · rw [hf, allHold_eq]

/-- An OR in parentheses, or in the text of a value, stays with its condition. -/
theorem conditions_narrow_enclosed :
    let c₁ : Condition := .raw " (a = 1 OR b = 2)"
    let c₂ : Condition := .eq "t.c" (.text "x' OR 1 = 1 --")
    let c₃ : Condition := .or [.raw "d BETWEEN 1 AND 2 OR e = 3", .raw "NOT f = 4"]
    (areWellFormed .pgsql [c₁, c₂, c₃] = true ∧ areGuarded .pgsql [c₁, c₂, c₃] = true ∧
      canJoin .pgsql [c₁, c₂, c₃] = true) ∧
    ∃ text f, (Condition.and [c₁, c₂, c₃]).text .pgsql = .ok text ∧
      (tokens? .pgsql text.toList).bind (expression? .pgsql) = some f ∧
        ∀ ρ, eval ρ f = [c₁, c₂, c₃].all (holds .pgsql ρ) := by
  intro c₁ c₂ c₃
  have hw : areWellFormed .pgsql [c₁, c₂, c₃] = true := by decide +kernel
  have hg : areGuarded .pgsql [c₁, c₂, c₃] = true := by decide +kernel
  have hj : canJoin .pgsql [c₁, c₂, c₃] = true := by decide +kernel
  exact ⟨⟨hw, hg, hj⟩, (conditions_narrow .pgsql [c₁, c₂, c₃] hw hg hj).2.2 (by simp)⟩

/-- An OR outside brackets does not: AND takes its right operand for itself, and a row passes that
another condition of the list excludes. -/
theorem raw_or_lets_rows_back :
    ∃ ρ : List Token → Bool, ∀ d : Dialect,
      areWellFormed d [.raw "a = 1 OR b = 2", .raw "c = 3"] = true ∧
      holds d ρ (.raw "c = 3") = false ∧
      passes? d ρ "WHERE " (whereClause ["a = 1 OR b = 2", "c = 3"]) = some true ∧
      passes? d ρ "HAVING " (havingClause ["a = 1 OR b = 2", "c = 3"]) = some true := by
  refine ⟨fun ts => ts = [.word "a", .symbol "=", .number 1], fun d => ?_⟩
  cases d <;> decide +kernel

end SqlGateway.Sql
