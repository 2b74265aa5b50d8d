import SqlGateway.Proofs.Sql.Formula

/-!
# Expressions by precedence

`expression? d n ts` reads tokens as a server does: parentheses first, then AND,
then OR.  Only what stands outside every bracket counts; CASE and END are
brackets, and BETWEEN is one up to its AND.  What is no connective of such
expressions is an atom, whatever is in it: a comparison, a NOT, a call, a query
in parentheses, and MySQL's XOR with its operands.

    tight xs, tight ys  →  xs ++ AND :: ys reads as the factors of xs, then those of ys
-/

namespace SqlGateway.Sql.Expression

open Formula (group eval)

/-! ## Algorithm -/

/-- What is open before a token. -/
inductive Bracket where
  | paren
  | square
  | case
  /-- After BETWEEN, up to its AND. -/
  | between
  /-- After a dot, which makes a name of any word. -/
  | dot
  deriving DecidableEq

inductive Move where
  | opens (b : Bracket)
  | closes (b : Bracket)
  /-- Ends a BETWEEN, if one is open. -/
  | and
  | connective
  | stay

section

variable (d : Dialect)

def isAnd (t : Token) : Bool :=
  t.isKeyword "AND" || (d = .mysql && t = .symbol "&&")

def isOr (t : Token) : Bool :=
  t.isKeyword "OR" || (d = .mysql && t = .symbol "||")

def isXor (t : Token) : Bool :=
  d = .mysql && t.isKeyword "XOR"

/-- A connective that binds less than AND does. -/
def isLoose (t : Token) : Bool :=
  isOr d t || isXor d t

/-- What a token does to the brackets around it. -/
def move (t : Token) : Move :=
  if t = .mark '(' then .opens .paren
  else if t = .mark ')' then .closes .paren
  else if t = .mark '[' then .opens .square
  else if t = .mark ']' then .closes .square
  else if t = .mark '.' then .opens .dot
  else if t.isKeyword "CASE" then .opens .case
  else if t.isKeyword "END" then .closes .case
  else if t.isKeyword "BETWEEN" then .opens .between
  else if t.isKeyword "AND" then .and
  else if isAnd d t || isLoose d t then .connective
  else .stay

/-- What is open behind a move. -/
def shift? : Move → List Bracket → Option (List Bracket)
  | .opens b, σ => some (b :: σ)
  | .closes b, b' :: σ => if b' = b then some σ else none
  | .closes _, [] => none
  | .and, .between :: σ => some σ
  | .connective, .between :: _ => none
  | _, σ => some σ

/-- What is open behind a token. -/
def nest? (σ : List Bracket) (t : Token) : Option (List Bracket) :=
  match σ, t with
  | .dot :: _, .mark _ => none
  | .dot :: σ, _ => some σ
  | σ, t => shift? (move d t) σ

/-- What is open behind some tokens. -/
def nesting? (σ : List Bracket) (ts : List Token) : Option (List Bracket) :=
  ts.foldlM (nest? d) σ

/-- `t` as the first token of the first part. -/
def consHead (t : Token) : List (List Token) → List (List Token)
  | [] => [[t]]
  | p :: ps => (t :: p) :: ps

/-- The parts between the separators that stand outside every bracket. -/
def parts? (sep : Token → Bool) : List Bracket → List Token → Option (List (List Token))
  | σ, [] => if σ = [] then some [[]] else none
  | σ, t :: ts =>
    if σ = [] ∧ sep t = true then (parts? sep [] ts).map ([] :: ·)
    else (nest? d σ t).bind fun τ => (parts? sep τ ts).map (consHead t)

/-- The first word of a query. -/
def isQuery (ts : List Token) : Bool :=
  ts.head?.any fun t => t.isKeyword "SELECT" || t.isKeyword "WITH" || t.isKeyword "VALUES"
    || t.isKeyword "TABLE"

/-- What stands between the parentheses, when these are around everything and no query. -/
def inner? : List Token → Option (List Token)
  | t :: ts =>
    if t = .mark '(' ∧ ts.getLast? = some (.mark ')') ∧ nesting? d [] ts.dropLast = some []
      ∧ isQuery ts = false then some ts.dropLast
    else none
  | [] => none

variable (inner : List Token → Option (Formula (List Token)))

def factor? (ts : List Token) : Option (Formula (List Token)) :=
  match inner? d ts with
  | some us => inner us
  | none => if ts.isEmpty then none else some (.atom ts)

/-- Factors with AND between them. -/
def factors? (ts : List Token) : Option (Formula (List Token)) :=
  (parts? d (isAnd d) [] ts).bind fun ps => (ps.mapM (factor? d inner)).map (group .all)

/-- Factors with AND between them, or an atom of several such with XOR between them. -/
def disjunct? (ts : List Token) : Option (Formula (List Token)) :=
  (parts? d (isXor d) [] ts).bind fun ps => (ps.mapM (factors? d inner)).map fun fs =>
    match fs with
    | [f] => f
    | _ => .atom ts

/-- Disjuncts with OR between them. -/
def disjuncts? (ts : List Token) : Option (Formula (List Token)) :=
  if isQuery ts then none
  else (parts? d (isOr d) [] ts).bind fun ps => (ps.mapM (disjunct? d inner)).map (group .any)

/-- An expression whose parentheses are nested less than `depth` deep. -/
def expressionWithin? : Nat → List Token → Option (Formula (List Token))
  | 0, _ => none
  | depth + 1, ts => disjuncts? d (expressionWithin? depth) ts

def expression? (ts : List Token) : Option (Formula (List Token)) :=
  expressionWithin? d (ts.length + 1) ts

/-- Nothing that binds less than AND stands outside every bracket. -/
def isTight (ts : List Token) : Bool :=
  parts? d (isLoose d) [] ts = some [ts]

end

/-! ## Brackets -/

/-- Whether a token opens or closes anything. -/
def isBracket (t : Token) : Bool :=
  t = .mark '(' || t = .mark ')' || t = .mark '[' || t = .mark ']' || t = .mark '.'
    || t.isKeyword "CASE" || t.isKeyword "END" || t.isKeyword "BETWEEN"

theorem nest?_of_not_bracket (d : Dialect) {t : Token} (h : isBracket t = false) :
    nest? d [] t = some [] := by
  simp only [isBracket, Bool.or_eq_false_iff, decide_eq_false_iff_not] at h
  obtain ⟨⟨⟨⟨⟨⟨⟨h1, h2⟩, h3⟩, h4⟩, h5⟩, h6⟩, h7⟩, h8⟩ := h
  show shift? (move d t) [] = some []
  simp only [move, h1, h2, h3, h4, h5, h6, h7, h8, if_false, Bool.false_eq_true]
  split
  · rfl
  · split <;> rfl

/-- A token is one keyword at most. -/
theorem isKeyword_eq {t : Token} {k : String} (h : t.isKeyword k = true) (k' : String) :
    t.isKeyword k' = Text.sameFolded k k' := by
  cases t with
  | word w =>
    have hk : Text.sameFolded w k = true := h
    rw [Text.sameFolded, beq_iff_eq] at hk
    rw [Token.isKeyword, Text.sameFolded, Text.sameFolded, hk]
  | _ => cases h

theorem isBracket_of_isKeyword {t : Token} {k : String} (h : t.isKeyword k = true)
    (hk : Text.sameFolded k "CASE" = false ∧ Text.sameFolded k "END" = false ∧
      Text.sameFolded k "BETWEEN" = false) : isBracket t = false := by
  have hcase := (isKeyword_eq h "CASE").trans hk.1
  have hend := (isKeyword_eq h "END").trans hk.2.1
  have hbetween := (isKeyword_eq h "BETWEEN").trans hk.2.2
  cases t with
  | word w => simp [isBracket, hcase, hend, hbetween]
  | _ => cases h

theorem isBracket_of_isAnd {d : Dialect} {t : Token} (h : isAnd d t = true) :
    isBracket t = false := by
  rw [isAnd, Bool.or_eq_true, Bool.and_eq_true, decide_eq_true_eq, decide_eq_true_eq] at h
  rcases h with h | ⟨-, rfl⟩
  · exact isBracket_of_isKeyword h (by decide)
  · decide

theorem isBracket_of_isLoose {d : Dialect} {t : Token} (h : isLoose d t = true) :
    isBracket t = false := by
  rw [isLoose, isOr, isXor, Bool.or_eq_true, Bool.or_eq_true, Bool.and_eq_true, Bool.and_eq_true,
    decide_eq_true_eq, decide_eq_true_eq] at h
  rcases h with (h | ⟨-, rfl⟩) | ⟨-, h⟩
  · exact isBracket_of_isKeyword h (by decide)
  · decide
  · exact isBracket_of_isKeyword h (by decide)

theorem shift?_inside {m : Move} {σ τ : List Bracket} (h : shift? m σ = some τ) :
    shift? m (σ ++ [.paren]) = some (τ ++ [.paren]) := by
  cases m with
  | opens b =>
    cases h
    rfl
  | closes b =>
    cases σ with
    | nil => cases h
    | cons b' σ =>
      rw [List.cons_append, shift?]
      rw [shift?] at h
      split at h
      · next hb =>
        cases h
        rw [if_pos hb]
      · cases h
  | and =>
    cases σ with
    | nil =>
      cases h
      rfl
    | cons b σ => cases b <;> cases h <;> rfl
  | connective =>
    cases σ with
    | nil =>
      cases h
      rfl
    | cons b σ => cases b <;> cases h <;> rfl
  | stay =>
    cases h
    cases σ <;> rfl

/-- What is open further out does not count up to the parenthesis that closes it. -/
theorem nest?_inside {d : Dialect} {σ τ : List Bracket} {t : Token} (h : nest? d σ t = some τ) :
    nest? d (σ ++ [.paren]) t = some (τ ++ [.paren]) := by
  have hshift : shift? (move d t) σ = some τ → _ := shift?_inside
  cases σ with
  | nil => exact hshift h
  | cons b σ =>
    cases b with
    | dot =>
      cases t with
      | mark c => cases h
      | _ =>
        cases h
        rfl
    | _ => exact hshift h

theorem nesting?_cons {d : Dialect} {σ τ : List Bracket} {t : Token} {ts : List Token} :
    nesting? d σ (t :: ts) = some τ ↔
      ∃ υ, nest? d σ t = some υ ∧ nesting? d υ ts = some τ := by
  rw [nesting?, List.foldlM_cons]
  exact Option.bind_eq_some_iff

/-! ## Parts -/

section

variable {d : Dialect} {sep : Token → Bool}

theorem parts?_cons {σ : List Bracket} {t : Token} {ts : List Token} {ps : List (List Token)}
    (h : parts? d sep σ (t :: ts) = some ps) :
    (σ = [] ∧ sep t = true ∧ ∃ qs, parts? d sep [] ts = some qs ∧ ps = [] :: qs) ∨
      (¬ (σ = [] ∧ sep t = true) ∧ ∃ τ qs, nest? d σ t = some τ ∧ parts? d sep τ ts = some qs ∧
        ps = consHead t qs) := by
  rw [parts?] at h
  split at h
  · next hsep =>
    obtain ⟨qs, hqs, rfl⟩ := Option.map_eq_some_iff.1 h
    exact .inl ⟨hsep.1, hsep.2, qs, hqs, rfl⟩
  · next hsep =>
    obtain ⟨τ, hτ, hmap⟩ := Option.bind_eq_some_iff.1 h
    obtain ⟨qs, hqs, rfl⟩ := Option.map_eq_some_iff.1 hmap
    exact .inr ⟨hsep, τ, qs, hτ, hqs, rfl⟩

theorem parts?_sep {t : Token} (ht : sep t = true) {ts : List Token} {qs : List (List Token)}
    (h : parts? d sep [] ts = some qs) : parts? d sep [] (t :: ts) = some ([] :: qs) := by
  rw [parts?, if_pos ⟨rfl, ht⟩, h, Option.map_some]

theorem parts?_step {σ τ : List Bracket} {t : Token} (ht : ¬ (σ = [] ∧ sep t = true))
    (hτ : nest? d σ t = some τ) {ts : List Token} {qs : List (List Token)}
    (h : parts? d sep τ ts = some qs) : parts? d sep σ (t :: ts) = some (consHead t qs) := by
  rw [parts?, if_neg ht, hτ, Option.bind_some, h, Option.map_some]

theorem parts?_ne_nil {σ : List Bracket} {ts : List Token} {ps : List (List Token)}
    (h : parts? d sep σ ts = some ps) : ps ≠ [] := by
  cases ts with
  | nil =>
    rw [parts?] at h
    split at h <;> cases h
    simp
  | cons t ts =>
    rcases parts?_cons h with ⟨-, -, qs, -, rfl⟩ | ⟨-, τ, qs, -, -, rfl⟩
    · simp
    · cases qs <;> simp [consHead]

/-- One list of parts behind another: the last part goes on with the first of the other. -/
def splice : List (List Token) → List (List Token) → List (List Token)
  | [], qs => qs
  | [p], q :: qs => (p ++ q) :: qs
  | p :: ps, qs => p :: splice ps qs

theorem splice_consHead (t : Token) {ps qs : List (List Token)} (hp : ps ≠ []) (hq : qs ≠ []) :
    splice (consHead t ps) qs = consHead t (splice ps qs) := by
  obtain ⟨p, ps, rfl⟩ := List.exists_cons_of_ne_nil hp
  obtain ⟨q, qs, rfl⟩ := List.exists_cons_of_ne_nil hq
  cases ps <;> rfl

theorem splice_cons (p : List Token) {ps : List (List Token)} (hp : ps ≠ [])
    (qs : List (List Token)) : splice (p :: ps) qs = p :: splice ps qs := by
  obtain ⟨p', ps, rfl⟩ := List.exists_cons_of_ne_nil hp
  rfl

theorem splice_sep {ps qs : List (List Token)} (hp : ps ≠ []) :
    splice ps ([] :: qs) = ps ++ qs := by
  induction ps with
  | nil => exact absurd rfl hp
  | cons p ps ih =>
    cases ps with
    | nil => simp [splice]
    | cons p' ps =>
      rw [splice_cons p (by simp), ih (by simp)]
      rfl

/-- The parts of a text in which nothing stays open go on with those of what follows it. -/
theorem parts?_append {σ : List Bracket} {xs ys : List Token} {ps qs : List (List Token)}
    (hx : parts? d sep σ xs = some ps) (hy : parts? d sep [] ys = some qs) :
    parts? d sep σ (xs ++ ys) = some (splice ps qs) := by
  have hq := parts?_ne_nil hy
  induction xs generalizing σ ps with
  | nil =>
    rw [parts?] at hx
    split at hx
    · next hσ =>
      cases hx
      obtain ⟨q, qs, rfl⟩ := List.exists_cons_of_ne_nil hq
      rw [hσ, List.nil_append, hy]
      rfl
    · cases hx
  | cons t xs ih =>
    rw [List.cons_append]
    rcases parts?_cons hx with ⟨rfl, ht, ps, hps, rfl⟩ | ⟨ht, τ, ps, hτ, hps, rfl⟩
    · rw [parts?_sep ht (ih hps), splice_cons [] (parts?_ne_nil hps)]
    · rw [parts?_step ht hτ (ih hps), splice_consHead t (parts?_ne_nil hps) hq]

/-- Texts of one part each, put together. -/
theorem parts?_append_whole {xs ys : List Token} (hx : parts? d sep [] xs = some [xs])
    (hy : parts? d sep [] ys = some [ys]) : parts? d sep [] (xs ++ ys) = some [xs ++ ys] :=
  parts?_append hx hy

/-- A separator adds the parts of what follows it. -/
theorem parts?_append_sep {xs ys : List Token} {t : Token} {ps qs : List (List Token)}
    (hx : parts? d sep [] xs = some ps) (ht : sep t = true) (hy : parts? d sep [] ys = some qs) :
    parts? d sep [] (xs ++ t :: ys) = some (ps ++ qs) := by
  rw [parts?_append hx (parts?_sep ht hy), splice_sep (parts?_ne_nil hx)]

theorem consHead_eq_singleton {t : Token} {ts : List Token} {qs : List (List Token)}
    (hq : qs ≠ []) (h : consHead t qs = [t :: ts]) : qs = [ts] := by
  obtain ⟨q, qs, rfl⟩ := List.exists_cons_of_ne_nil hq
  rw [consHead, List.cons.injEq, List.cons.injEq] at h
  rw [h.1.2, h.2]

/-- What does not divide a text, does not with fewer separators. -/
theorem parts?_whole_mono {sep' : Token → Bool} (hsep : ∀ t, sep' t = true → sep t = true)
    {σ : List Bracket} {ts : List Token} (h : parts? d sep σ ts = some [ts]) :
    parts? d sep' σ ts = some [ts] := by
  induction ts generalizing σ with
  | nil => exact h
  | cons t ts ih =>
    rcases parts?_cons h with ⟨-, -, qs, -, he⟩ | ⟨ht, τ, qs, hτ, hqs, he⟩
    · cases he
    · have hone := consHead_eq_singleton (parts?_ne_nil hqs) he.symm
      rw [hone] at hqs
      exact parts?_step (fun h' => ht ⟨h'.1, hsep t h'.2⟩) hτ (ih hqs)

/-- Nothing is open behind a text that has parts. -/
theorem nesting?_of_parts? (hsep : ∀ t, sep t = true → nest? d [] t = some [])
    {σ : List Bracket} {ts : List Token} {ps : List (List Token)}
    (h : parts? d sep σ ts = some ps) : nesting? d σ ts = some [] := by
  induction ts generalizing σ ps with
  | nil =>
    rw [parts?] at h
    split at h
    · next hσ =>
      rw [hσ]
      rfl
    · cases h
  | cons t ts ih =>
    rcases parts?_cons h with ⟨rfl, ht, qs, hqs, -⟩ | ⟨-, τ, qs, hτ, hqs, -⟩
    · exact nesting?_cons.2 ⟨[], hsep t ht, ih hqs⟩
    · exact nesting?_cons.2 ⟨τ, hτ, ih hqs⟩

/-- A separator in parentheses divides nothing. -/
theorem parts?_inside {σ : List Bracket} {ts : List Token} (h : nesting? d σ ts = some []) :
    parts? d sep (σ ++ [.paren]) (ts ++ [.mark ')']) = some [ts ++ [.mark ')']] := by
  induction ts generalizing σ with
  | nil =>
    cases h
    rfl
  | cons t ts ih =>
    obtain ⟨τ, hτ, hts⟩ := nesting?_cons.1 h
    exact parts?_step (fun hσ => by simp at hσ) (nest?_inside hτ) (ih hts)

theorem parts?_enclosed (hsep : sep (.mark '(') = false) {ts : List Token}
    (h : nesting? d [] ts = some []) :
    parts? d sep [] (.mark '(' :: (ts ++ [.mark ')']))
      = some [.mark '(' :: (ts ++ [.mark ')'])] :=
  parts?_step (by simp [hsep]) rfl (parts?_inside h)

theorem length_parts? {σ : List Bracket} {ts : List Token} {ps : List (List Token)}
    (h : parts? d sep σ ts = some ps) : ∀ p ∈ ps, p.length ≤ ts.length := by
  induction ts generalizing σ ps with
  | nil =>
    rw [parts?] at h
    split at h <;> cases h
    simp
  | cons t ts ih =>
    intro p hp
    rcases parts?_cons h with ⟨-, -, qs, hqs, rfl⟩ | ⟨-, τ, qs, -, hqs, rfl⟩
    · rcases List.mem_cons.1 hp with rfl | hp
      · simp
      · exact (ih hqs p hp).trans (Nat.le_succ _)
    · have hlen := ih hqs
      obtain ⟨q, qs, rfl⟩ := List.exists_cons_of_ne_nil (parts?_ne_nil hqs)
      rcases List.mem_cons.1 hp with rfl | hp
      · exact Nat.succ_le_succ (hlen q List.mem_cons_self)
      · exact (hlen p (List.mem_cons_of_mem _ hp)).trans (Nat.le_succ _)

end

/-! ## Depth -/

theorem mapM_eq_some_iff {α β : Type} {f : α → Option β} {as : List α} {bs : List β} :
    as.mapM f = some bs ↔ List.Forall₂ (fun a b => f a = some b) as bs := by
  induction as generalizing bs with
  | nil =>
    rw [List.mapM_nil, List.forall₂_nil_left_iff]
    exact ⟨fun h => (Option.some.inj h).symm, fun h => by rw [h]; rfl⟩
  | cons a as ih =>
    rw [List.mapM_cons, List.forall₂_cons_left_iff]
    constructor
    · intro h
      obtain ⟨b, hb, h⟩ := Option.bind_eq_some_iff.1 h
      obtain ⟨bs, hbs, h⟩ := Option.bind_eq_some_iff.1 h
      cases h
      exact ⟨b, bs, hb, ih.1 hbs, rfl⟩
    · rintro ⟨b, bs, hb, hbs, rfl⟩
      rw [hb, ih.2 hbs]
      rfl

theorem mapM_congr {α β : Type} {f g : α → Option β} {as : List α} (h : ∀ a ∈ as, f a = g a) :
    as.mapM f = as.mapM g := by
  induction as with
  | nil => rfl
  | cons a as ih =>
    rw [List.mapM_cons, List.mapM_cons, h a List.mem_cons_self,
      ih fun b hb => h b (List.mem_cons_of_mem a hb)]

theorem length_inner? {d : Dialect} {ts us : List Token} (h : inner? d ts = some us) :
    us.length < ts.length := by
  cases ts with
  | nil => cases h
  | cons t ts =>
    rw [inner?] at h
    split at h
    · cases h
      rw [List.length_dropLast, List.length_cons]
      omega
    · cases h

section

variable {d : Dialect} {inner inner' : List Token → Option (Formula (List Token))}
  {ts : List Token}

theorem factor?_congr (h : ∀ us, us.length < ts.length → inner us = inner' us) :
    factor? d inner ts = factor? d inner' ts := by
  unfold factor?
  cases hus : inner? d ts with
  | none => rfl
  | some us => exact h us (length_inner? hus)

/-- The parts of a text are no longer than it is. -/
theorem mapM_parts?_congr {sep : Token → Bool} {ps : List (List Token)}
    (hps : parts? d sep [] ts = some ps) {f g : List Token → Option (Formula (List Token))}
    (h : ∀ p, p.length ≤ ts.length → f p = g p) : ps.mapM f = ps.mapM g :=
  mapM_congr fun p hp => h p (length_parts? hps p hp)

theorem factors?_congr (h : ∀ us, us.length < ts.length → inner us = inner' us) :
    factors? d inner ts = factors? d inner' ts := by
  unfold factors?
  cases hps : parts? d (isAnd d) [] ts with
  | none => rfl
  | some ps =>
    rw [Option.bind_some, Option.bind_some, mapM_parts?_congr hps fun p hp =>
      factor?_congr fun us hus => h us (lt_of_lt_of_le hus hp)]

theorem disjunct?_congr (h : ∀ us, us.length < ts.length → inner us = inner' us) :
    disjunct? d inner ts = disjunct? d inner' ts := by
  unfold disjunct?
  cases hps : parts? d (isXor d) [] ts with
  | none => rfl
  | some ps =>
    rw [Option.bind_some, Option.bind_some, mapM_parts?_congr hps fun p hp =>
      factors?_congr fun us hus => h us (lt_of_lt_of_le hus hp)]

theorem disjuncts?_congr (h : ∀ us, us.length < ts.length → inner us = inner' us) :
    disjuncts? d inner ts = disjuncts? d inner' ts := by
  unfold disjuncts?
  cases hps : parts? d (isOr d) [] ts with
  | none => rfl
  | some ps =>
    rw [Option.bind_some, Option.bind_some, mapM_parts?_congr hps fun p hp =>
      disjunct?_congr fun us hus => h us (lt_of_lt_of_le hus hp)]

end

/-- Parentheses are nested less deep than a text is long, so a greater depth reads no more. -/
theorem expressionWithin?_eq (d : Dialect) (n m : Nat) (ts : List Token) (hn : ts.length < n)
    (hm : ts.length < m) : expressionWithin? d n ts = expressionWithin? d m ts := by
  induction n generalizing m ts with
  | zero => omega
  | succ n ih =>
    obtain ⟨m, rfl⟩ : ∃ k, m = k + 1 := ⟨m - 1, by omega⟩
    rw [expressionWithin?, expressionWithin?]
    exact disjuncts?_congr fun us hus => ih m us (by omega) (by omega)

/-- What stands in parentheses is an expression again. -/
theorem expression?_eq (d : Dialect) (ts : List Token) :
    expression? d ts = disjuncts? d (expression? d) ts := by
  rw [expression?, expressionWithin?]
  exact disjuncts?_congr fun us hus => expressionWithin?_eq d _ _ us hus (Nat.lt_succ_self _)

/-! ## Conjunctions -/

/-- Tokens that read as factors with AND between them, and go on doing so beside other factors. -/
structure Conjunction (d : Dialect) (ts : List Token) (fs : List (Formula (List Token))) :
    Prop where
  tight : parts? d (isLoose d) [] ts = some [ts]
  noQuery : isQuery ts = false
  factors : ∃ ps, parts? d (isAnd d) [] ts = some ps ∧
    List.Forall₂ (fun p f => factor? d (expression? d) p = some f) ps fs

section

variable {d : Dialect} {ts us : List Token} {fs gs : List (Formula (List Token))}

theorem noQuery_of_expression? {f : Formula (List Token)} (h : expression? d ts = some f) :
    isQuery ts = false := by
  rw [expression?_eq, disjuncts?] at h
  split at h
  · cases h
  · next hq => simpa using hq

theorem isQuery_append (hne : ts ≠ []) (us : List Token) : isQuery (ts ++ us) = isQuery ts := by
  obtain ⟨t, ts, rfl⟩ := List.exists_cons_of_ne_nil hne
  rfl

theorem parts?_isOr_of_tight (h : parts? d (isLoose d) [] ts = some [ts]) :
    parts? d (isOr d) [] ts = some [ts] :=
  parts?_whole_mono (fun t ht => by rw [isLoose, ht, Bool.true_or]) h

theorem parts?_isXor_of_tight (h : parts? d (isLoose d) [] ts = some [ts]) :
    parts? d (isXor d) [] ts = some [ts] :=
  parts?_whole_mono (fun t ht => by rw [isLoose, ht, Bool.or_true]) h

theorem nesting?_of_expression? {f : Formula (List Token)} (h : expression? d ts = some f) :
    nesting? d [] ts = some [] := by
  have hquery := noQuery_of_expression? h
  rw [expression?_eq, disjuncts?, hquery] at h
  obtain ⟨ps, hps, -⟩ := Option.bind_eq_some_iff.1 h
  refine nesting?_of_parts? (fun t ht => ?_) hps
  exact nest?_of_not_bracket d (isBracket_of_isLoose (by rw [isLoose, ht, Bool.true_or]))

theorem Conjunction.ne_nil (h : Conjunction d ts fs) : ts ≠ [] := by
  rintro rfl
  obtain ⟨ps, hps, hfs⟩ := h.factors
  cases hps
  cases hfs with
  | cons hf => cases hf

/-- A disjunction of conjunctions. -/
theorem expression?_of_parts {ps : List (List Token)} {fss : List (List (Formula (List Token)))}
    (hq : isQuery ts = false) (hps : parts? d (isOr d) [] ts = some ps)
    (h : List.Forall₂ (Conjunction d) ps fss) :
    expression? d ts = some (group .any (fss.map (group .all))) := by
  have hdisjunct : ∀ p fs, Conjunction d p fs →
      disjunct? d (expression? d) p = some (group .all fs) := by
    intro p fs hp
    obtain ⟨qs, hqs, hfs⟩ := hp.factors
    have hfactors : factors? d (expression? d) p = some (group .all fs) := by
      rw [factors?, hqs, Option.bind_some, mapM_eq_some_iff.2 hfs, Option.map_some]
    have hmap : [p].mapM (factors? d (expression? d)) = some [group .all fs] :=
      mapM_eq_some_iff.2 (.cons hfactors .nil)
    rw [disjunct?, parts?_isXor_of_tight hp.tight, Option.bind_some, hmap, Option.map_some]
  have hmap : ps.mapM (disjunct? d (expression? d)) = some (fss.map (group .all)) :=
    mapM_eq_some_iff.2 (List.forall₂_map_right_iff.2 (h.imp hdisjunct))
  rw [expression?_eq, disjuncts?, hq, hps, Option.bind_some, hmap]
  rfl

theorem Conjunction.expression? (h : Conjunction d ts fs) :
    expression? d ts = some (group .all fs) :=
  expression?_of_parts h.noQuery (parts?_isOr_of_tight h.tight) (.cons h .nil)

/-- An expression without OR outside brackets. -/
theorem conjunction_of_expression? {f : Formula (List Token)} (h : expression? d ts = some f)
    (ht : parts? d (isLoose d) [] ts = some [ts]) :
    ∃ fs, Conjunction d ts fs ∧ f = group .all fs := by
  have hquery := noQuery_of_expression? h
  rw [expression?_eq, disjuncts?, hquery, parts?_isOr_of_tight ht] at h
  obtain ⟨gs, hgs, hg⟩ := Option.map_eq_some_iff.1 h
  cases mapM_eq_some_iff.1 hgs with
  | cons hdisjunct hnil =>
    cases hnil
    rw [disjunct?, parts?_isXor_of_tight ht] at hdisjunct
    obtain ⟨ks, hks, hk⟩ := Option.map_eq_some_iff.1 hdisjunct
    cases mapM_eq_some_iff.1 hks with
    | cons hfactors hnil =>
      cases hnil
      obtain ⟨ps, hps, hmap⟩ := Option.bind_eq_some_iff.1 hfactors
      obtain ⟨fs, hfs, hall⟩ := Option.map_eq_some_iff.1 hmap
      refine ⟨fs, ⟨ht, hquery, ps, hps, mapM_eq_some_iff.1 hfs⟩, ?_⟩
      rw [← hg, ← hk, ← hall]
      rfl

theorem isLoose_of_isAnd {t : Token} (h : isAnd d t = true) : isLoose d t = false := by
  rw [isAnd, Bool.or_eq_true, Bool.and_eq_true, decide_eq_true_eq, decide_eq_true_eq] at h
  rcases h with h | ⟨-, rfl⟩
  · have hor := isKeyword_eq h "OR"
    have hxor := isKeyword_eq h "XOR"
    cases t with
    | word w => simp [isLoose, isOr, isXor, hor, hxor, Text.sameFolded]
    | _ => cases h
  · cases d <;> decide

/-- AND puts two conjunctions into one. -/
theorem Conjunction.and (h : Conjunction d ts fs) (h' : Conjunction d us gs) {t : Token}
    (ht : isAnd d t = true) : Conjunction d (ts ++ t :: us) (fs ++ gs) where
  tight := by
    have hstep : parts? d (isLoose d) [] (t :: us) = some [t :: us] :=
      parts?_step (by simp [isLoose_of_isAnd ht])
        (nest?_of_not_bracket d (isBracket_of_isAnd ht)) h'.tight
    exact parts?_append_whole h.tight hstep
  noQuery := by rw [isQuery_append h.ne_nil, h.noQuery]
  factors := by
    obtain ⟨ps, hps, hfs⟩ := h.factors
    obtain ⟨qs, hqs, hgs⟩ := h'.factors
    exact ⟨ps ++ qs, parts?_append_sep hps ht hqs, List.rel_append hfs hgs⟩

/-- An expression in parentheses is one factor. -/
theorem conjunction_enclosed {f : Formula (List Token)} (h : expression? d ts = some f) :
    Conjunction d (.mark '(' :: (ts ++ [.mark ')'])) [f] := by
  have hnesting := nesting?_of_expression? h
  have hne : ts ≠ [] := by
    rintro rfl
    cases h
  have hinner : inner? d (.mark '(' :: (ts ++ [.mark ')'])) = some ts := by
    rw [inner?, List.getLast?_concat, List.dropLast_concat, isQuery_append hne,
      if_pos ⟨rfl, rfl, hnesting, noQuery_of_expression? h⟩]
  refine ⟨parts?_enclosed (by cases d <;> decide) hnesting, rfl, _,
    parts?_enclosed (by cases d <;> decide) hnesting, .cons ?_ .nil⟩
  rw [factor?, hinner]
  exact h

/-- Tokens in which nothing is a connective or a query are an atom. -/
theorem conjunction_atom (htight : parts? d (isLoose d) [] ts = some [ts])
    (hand : parts? d (isAnd d) [] ts = some [ts]) (hq : isQuery ts = false) (hne : ts ≠ [])
    (hinner : inner? d ts = none) : Conjunction d ts [.atom ts] := by
  refine ⟨htight, hq, _, hand, .cons ?_ .nil⟩
  rw [factor?, hinner]
  show (if ts.isEmpty then _ else _) = _
  rw [if_neg (by simpa using hne)]

/-- Conjunctions with AND between them. -/
theorem conjunction_intercalate {tss : List (List Token)}
    {fss : List (List (Formula (List Token)))} (h : List.Forall₂ (Conjunction d) tss fss)
    (hne : tss ≠ []) : Conjunction d ([.word "AND"].intercalate tss) fss.flatten := by
  induction h with
  | nil => exact absurd rfl hne
  | cons hfirst hrest ih =>
    rename_i ts fs tss fss
    cases tss with
    | nil =>
      cases hrest
      simpa using hfirst
    | cons us tss =>
      rw [List.intercalate_cons_cons, List.flatten_cons, List.append_assoc]
      exact hfirst.and (ih (by simp)) (by cases d <;> decide)

theorem parts?_isOr_intercalate {tss : List (List Token)}
    (h : ∀ ts ∈ tss, parts? d (isOr d) [] ts = some [ts]) (hne : tss ≠ []) :
    parts? d (isOr d) [] ([.word "OR"].intercalate tss) = some tss := by
  induction tss with
  | nil => exact absurd rfl hne
  | cons ts tss ih =>
    have hfirst := h ts List.mem_cons_self
    cases tss with
    | nil => simpa using hfirst
    | cons us tss =>
      rw [List.intercalate_cons_cons, List.append_assoc]
      exact parts?_append_sep hfirst (by cases d <;> decide)
        (ih (fun ts hts => h ts (List.mem_cons_of_mem _ hts)) (by simp))

/-- Conjunctions with OR between them. -/
theorem expression?_intercalate {tss : List (List Token)}
    {fss : List (List (Formula (List Token)))} (h : List.Forall₂ (Conjunction d) tss fss)
    (hne : tss ≠ []) :
    expression? d ([.word "OR"].intercalate tss) = some (group .any (fss.map (group .all))) := by
  have htight : ∀ ts ∈ tss, parts? d (isOr d) [] ts = some [ts] := by
    intro ts hts
    obtain ⟨i, hi, rfl⟩ := List.getElem_of_mem hts
    exact parts?_isOr_of_tight (h.get hi (by rw [← h.length_eq]; exact hi)).tight
  refine expression?_of_parts ?_ (parts?_isOr_intercalate htight hne) h
  cases h with
  | nil => exact absurd rfl hne
  | cons hfirst hrest =>
    rename_i ts fs tss fss
    cases tss with
    | nil =>
      rw [List.intercalate_singleton]
      exact hfirst.noQuery
    | cons us tss =>
      rw [List.intercalate_cons_cons, List.append_assoc, isQuery_append hfirst.ne_nil,
        hfirst.noQuery]

end

end SqlGateway.Sql.Expression
