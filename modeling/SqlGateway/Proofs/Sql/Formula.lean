import SqlGateway.Proofs.Sql.Comparison

/-!
# Conditions read back

A formula is a tree of comparisons in conjunctions and disjunctions.  `formula?`
reads one as a server does: parentheses first, then AND, then OR.  A condition
of groups writes no parentheses around a conjunction, so nested conjunctions
read back as one, and a group of one item as that item; `normal` says so, and
keeps the meaning.

    formula? d (text of f) = (f.normal with each term read),  f.normal.eval ρ = f.eval ρ
-/

namespace SqlGateway.Sql

inductive Formula (α : Type) where
  | atom (a : α)
  | all (items : List (Formula α))
  | any (items : List (Formula α))

namespace Formula

section

variable {α β : Type}

mutual

/-- The truth of a formula when `ρ` gives that of each comparison. -/
def eval (ρ : α → Bool) : Formula α → Bool
  | .atom a => ρ a
  | .all fs => evalAll ρ fs
  | .any fs => evalAny ρ fs

def evalAll (ρ : α → Bool) : List (Formula α) → Bool
  | [] => true
  | f :: fs => eval ρ f && evalAll ρ fs

def evalAny (ρ : α → Bool) : List (Formula α) → Bool
  | [] => false
  | f :: fs => eval ρ f || evalAny ρ fs

end

mutual

/-- The comparisons from left to right. -/
def leaves : Formula α → List α
  | .atom a => [a]
  | .all fs => leavesOf fs
  | .any fs => leavesOf fs

def leavesOf : List (Formula α) → List α
  | [] => []
  | f :: fs => leaves f ++ leavesOf fs

end

mutual

def map (φ : α → β) : Formula α → Formula β
  | .atom a => .atom (φ a)
  | .all fs => .all (mapItems φ fs)
  | .any fs => .any (mapItems φ fs)

def mapItems (φ : α → β) : List (Formula α) → List (Formula β)
  | [] => []
  | f :: fs => map φ f :: mapItems φ fs

end

/-- A group, unless it is of one formula. -/
def group (join : List (Formula α) → Formula α) : List (Formula α) → Formula α
  | [f] => f
  | fs => join fs

mutual

/-- What a formula is the conjunction of, nested conjunctions taken apart. -/
def conjuncts : Formula α → List (Formula α)
  | .atom a => [.atom a]
  | .all fs => conjunctsOf fs
  | .any fs => [group .any (normals fs)]

def conjunctsOf : List (Formula α) → List (Formula α)
  | [] => []
  | f :: fs => conjuncts f ++ conjunctsOf fs

def normals : List (Formula α) → List (Formula α)
  | [] => []
  | f :: fs => group .all (conjuncts f) :: normals fs

end

def normal (f : Formula α) : Formula α :=
  group .all (conjuncts f)

/-! ## Meaning -/

theorem evalAll_eq (ρ : α → Bool) (fs : List (Formula α)) : evalAll ρ fs = fs.all (eval ρ) := by
  induction fs with
  | nil => rfl
  | cons f fs ih => rw [evalAll, ih, List.all_cons]

theorem evalAny_eq (ρ : α → Bool) (fs : List (Formula α)) : evalAny ρ fs = fs.any (eval ρ) := by
  induction fs with
  | nil => rfl
  | cons f fs ih => rw [evalAny, ih, List.any_cons]

theorem leavesOf_eq (fs : List (Formula α)) : leavesOf fs = fs.flatMap leaves := by
  induction fs with
  | nil => rfl
  | cons f fs ih => rw [leavesOf, ih, List.flatMap_cons]

theorem mapItems_eq (φ : α → β) (fs : List (Formula α)) : mapItems φ fs = fs.map (map φ) := by
  induction fs with
  | nil => rfl
  | cons f fs ih => rw [mapItems, ih, List.map_cons]

theorem eval_group_all (ρ : α → Bool) (fs : List (Formula α)) :
    eval ρ (group .all fs) = fs.all (eval ρ) := by
  unfold group
  split
  · next f => simp
  · rw [eval, evalAll_eq]

theorem eval_group_any (ρ : α → Bool) (fs : List (Formula α)) :
    eval ρ (group .any fs) = fs.any (eval ρ) := by
  unfold group
  split
  · next f => simp
  · rw [eval, evalAny_eq]

theorem leaves_group {join : List (Formula α) → Formula α}
    (hj : ∀ fs, leaves (join fs) = leavesOf fs) (fs : List (Formula α)) :
    leaves (group join fs) = fs.flatMap leaves := by
  unfold group
  split
  · next f => simp
  · rw [hj, leavesOf_eq]

theorem map_group {φ : α → β} {join : List (Formula α) → Formula α}
    {join' : List (Formula β) → Formula β} (hj : ∀ fs, map φ (join fs) = join' (mapItems φ fs))
    (fs : List (Formula α)) : group join' (fs.map (map φ)) = map φ (group join fs) := by
  match fs with
  | [] => exact (hj []).symm
  | [f] => rfl
  | f :: g :: fs =>
    show join' ((f :: g :: fs).map (map φ)) = map φ (join (f :: g :: fs))
    rw [hj, mapItems_eq]

mutual

theorem eval_conjuncts (ρ : α → Bool) (f : Formula α) :
    (conjuncts f).all (eval ρ) = eval ρ f := by
  cases f with
  | atom a => simp [conjuncts]
  | all fs => exact eval_conjunctsOf ρ fs
  | any fs =>
    rw [conjuncts, List.all_cons, List.all_nil, Bool.and_true, eval_group_any, eval_normals]
    rfl

theorem eval_conjunctsOf (ρ : α → Bool) (fs : List (Formula α)) :
    (conjunctsOf fs).all (eval ρ) = evalAll ρ fs := by
  cases fs with
  | nil => rfl
  | cons f fs =>
    rw [conjunctsOf, List.all_append, eval_conjuncts ρ f, eval_conjunctsOf ρ fs, evalAll]

theorem eval_normals (ρ : α → Bool) (fs : List (Formula α)) :
    (normals fs).any (eval ρ) = evalAny ρ fs := by
  cases fs with
  | nil => rfl
  | cons f fs =>
    rw [normals, List.any_cons, eval_group_all, eval_conjuncts ρ f, eval_normals ρ fs, evalAny]

end

mutual

theorem leaves_conjuncts (f : Formula α) : (conjuncts f).flatMap leaves = leaves f := by
  cases f with
  | atom a => rfl
  | all fs => exact leaves_conjunctsOf fs
  | any fs =>
    rw [conjuncts, List.flatMap_cons, List.flatMap_nil, List.append_nil, leaves_group (fun _ => rfl),
      leaves_normals fs]
    rfl

theorem leaves_conjunctsOf (fs : List (Formula α)) :
    (conjunctsOf fs).flatMap leaves = leavesOf fs := by
  cases fs with
  | nil => rfl
  | cons f fs =>
    rw [conjunctsOf, List.flatMap_append, leaves_conjuncts f, leaves_conjunctsOf fs, leavesOf]

theorem leaves_normals (fs : List (Formula α)) : (normals fs).flatMap leaves = leavesOf fs := by
  cases fs with
  | nil => rfl
  | cons f fs =>
    rw [normals, List.flatMap_cons, leaves_group (fun _ => rfl), leaves_conjuncts f,
      leaves_normals fs, leavesOf]

end

theorem eval_normal (ρ : α → Bool) (f : Formula α) : f.normal.eval ρ = f.eval ρ := by
  rw [normal, eval_group_all, eval_conjuncts]

theorem leaves_normal (f : Formula α) : f.normal.leaves = f.leaves := by
  rw [normal, leaves_group fun _ => rfl, leaves_conjuncts]

end

/-! ## Algorithm -/

section

variable (d : Dialect)

/-- Factors with AND between them. -/
def conjunction? (factor : Reader (Formula Atom)) : Reader (Formula Atom) := fun cs =>
  (sepBy? d (Token.isKeyword "AND") factor (skipBlanks cs)).map fun (fs, rest) =>
    (group .all fs, rest)

/-- Conjunctions with OR between them. -/
def disjunction? (factor : Reader (Formula Atom)) : Reader (Formula Atom) := fun cs =>
  (sepBy? d (Token.isKeyword "OR") (conjunction? d factor) cs).map fun (fs, rest) =>
    (group .any fs, rest)

/-- A comparison, or a formula in parentheses that are nested less than `depth` deep. -/
def factorWithin? : Nat → Reader (Formula Atom)
  | 0, _ => none
  | depth + 1, cs =>
    match expect? d isOpening cs with
    | none => (atom? d cs).map fun (a, rest) => (.atom a, rest)
    | some inner => do
      let (f, rest) ← disjunction? d (factorWithin? depth) inner
      let rest ← expect? d isClosing rest
      return (f, rest)

/-- A whole formula, with nothing behind it. -/
def formula? (s : String) : Option (Formula Atom) := do
  let (f, rest) ← disjunction? d (factorWithin? d (s.toList.length + 1)) s.toList
  if (skipBlanks rest).isEmpty then return f else none

/-- An escaped comparison of a named column with a value, by an operator that needs no quoting. -/
def isPlainTerm (t : Term) : Bool :=
  t.escape && !Text.isBlankText t.identifier && t.value.isSome && t.operator.all (isOperator d)

mutual

/-- Groups of plain comparisons, none of them empty. -/
def isPlain : Formula Term → Bool
  | .atom t => isPlainTerm d t
  | .all fs => !fs.isEmpty && arePlain fs
  | .any fs => !fs.isEmpty && arePlain fs

def arePlain : List (Formula Term) → Bool
  | [] => true
  | f :: fs => isPlain f && arePlain fs

end

mutual

/-- The condition with this tree. -/
def condition : Formula Term → Condition
  | .atom t => .term t
  | .all fs => .and (conditions fs)
  | .any fs => .or (conditions fs)

def conditions : List (Formula Term) → List Condition
  | [] => []
  | f :: fs => condition f :: conditions fs

end

/-- Operator and value of a term that has a value. -/
def comparisonOf (t : Term) : String × Value :=
  t.comparison?.getD ("=", .null)

/-- What a term reads back as. -/
def atomOf (t : Term) : Atom :=
  ⟨t.identifier, (comparisonOf t).1, meaning d (comparisonOf t).2⟩

def termText (t : Term) : List Char :=
  (d.quoteIdentifier t.identifier).toList ++
    ' ' :: ((comparisonOf t).1.toList ++ ' ' :: (d.literal (comparisonOf t).2).toList)

mutual

/-- The texts of the conjuncts. -/
def pieces : Formula Term → List (List Char)
  | .atom t => [termText d t]
  | .all fs => piecesOf fs
  | .any fs => ['(' :: (" OR ".toList.intercalate (alternatives fs) ++ [')'])]

def piecesOf : List (Formula Term) → List (List Char)
  | [] => []
  | f :: fs => pieces f ++ piecesOf fs

def alternatives : List (Formula Term) → List (List Char)
  | [] => []
  | f :: fs => ('(' :: (" AND ".toList.intercalate (pieces f) ++ [')'])) :: alternatives fs

end

end

mutual

/-- How deep parentheses are nested. -/
def nesting {α : Type} : Formula α → Nat
  | .atom _ => 0
  | .all fs => nestingOf fs
  | .any fs => nestingOf fs + 2

def nestingOf {α : Type} : List (Formula α) → Nat
  | [] => 0
  | f :: fs => max (nesting f) (nestingOf fs)

end

/-! ## Terms -/

theorem isOperator_inferred (d : Dialect) (v : Value) :
    isOperator d (if v.isList then "IN" else "=") = true := by
  split <;> cases d <;> decide

/-- A plain term has a comparison, whose operator needs no quoting. -/
theorem comparison?_of_plain {d : Dialect} {t : Term} (h : isPlainTerm d t = true) :
    t.comparison? = some (comparisonOf t) ∧ isOperator d (comparisonOf t).1 = true := by
  simp only [isPlainTerm, Bool.and_eq_true] at h
  obtain ⟨⟨-, hvalue⟩, hop⟩ := h
  obtain ⟨v, hv⟩ := Option.isSome_iff_exists.1 hvalue
  unfold comparisonOf Term.comparison?
  cases ho : t.operator with
  | none =>
    rw [hv]
    exact ⟨rfl, isOperator_inferred d v⟩
  | some op =>
    rw [ho] at hop
    rw [hv]
    exact ⟨rfl, hop⟩

/-- The text of an escaped term that has a comparison. -/
theorem text_of_comparison? {t : Term} (hescape : t.escape = true)
    (hblank : Text.isBlankText t.identifier = false)
    (hcomparison : t.comparison? = some (comparisonOf t)) (d : Dialect) :
    t.text d = .ok (.ofList (termText d t)) := by
  have hvalue : ∀ v, t.valueText d v = d.literal v := by
    intro v
    unfold Term.valueText
    cases v with
    | list items => rfl
    | _ => rw [hescape]; rfl
  unfold Term.text
  rw [hblank, hcomparison]
  simp only [Bool.false_eq_true, if_false, hvalue]
  congr 1
  apply String.toList_injective
  simp [termText, String.toList_append]

theorem text_term {d : Dialect} {t : Term} (h : isPlainTerm d t = true) :
    t.text d = .ok (.ofList (termText d t)) := by
  obtain ⟨hcomparison, -⟩ := comparison?_of_plain h
  simp only [isPlainTerm, Bool.and_eq_true, Bool.not_eq_true'] at h
  obtain ⟨⟨⟨hescape, hblank⟩, -⟩, -⟩ := h
  exact text_of_comparison? hescape hblank hcomparison d

/-! ## Text -/

theorem intercalate_append {α : Type} (glue : List α) {xs ys : List (List α)} (hx : xs ≠ [])
    (hy : ys ≠ []) :
    glue.intercalate (xs ++ ys) = glue.intercalate xs ++ glue ++ glue.intercalate ys := by
  induction xs with
  | nil => exact absurd rfl hx
  | cons x xs ih =>
    cases xs with
    | nil => rw [List.singleton_append, List.intercalate_cons_of_ne_nil hy,
        List.intercalate_singleton]
    | cons x' xs =>
      have := ih (by simp)
      rw [List.cons_append, List.intercalate_cons_of_ne_nil (by simp), this,
        List.intercalate_cons_cons]
      simp

/-- A text that begins, and not with a blank. -/
def Solid (cs : List Char) : Prop :=
  ∃ c rest, cs = c :: rest ∧ c.isWhitespace = false

theorem Solid.skipBlanks_append {cs : List Char} (h : Solid cs) (rest : List Char) :
    skipBlanks (cs ++ rest) = cs ++ rest := by
  obtain ⟨c, cs, rfl, hc⟩ := h
  exact List.dropWhile_cons_of_neg (by simp [hc])

mutual

theorem pieces_solid {d : Dialect} {f : Formula Term} (h : isPlain d f = true) :
    ∃ p ps, pieces d f = p :: ps ∧ Solid p := by
  cases f with
  | atom t =>
    obtain ⟨cs, hcs⟩ := quoteIdentifier_head d t.identifier
    refine ⟨_, _, rfl, nameQuote d, _, by rw [termText, hcs]; rfl, ?_⟩
    cases d <;> decide
  | any fs => exact ⟨_, _, rfl, '(', _, rfl, by decide⟩
  | all fs =>
    rw [isPlain, Bool.and_eq_true, Bool.not_eq_true', List.isEmpty_eq_false_iff] at h
    exact piecesOf_solid h.1 h.2

theorem piecesOf_solid {d : Dialect} {fs : List (Formula Term)} (hne : fs ≠ [])
    (h : arePlain d fs = true) : ∃ p ps, piecesOf d fs = p :: ps ∧ Solid p := by
  cases fs with
  | nil => exact absurd rfl hne
  | cons f fs =>
    rw [arePlain, Bool.and_eq_true] at h
    obtain ⟨p, ps, hp, hsolid⟩ := pieces_solid h.1
    exact ⟨p, ps ++ piecesOf d fs, by rw [piecesOf, hp]; rfl, hsolid⟩

end

theorem pieces_ne_nil {d : Dialect} {f : Formula Term} (h : isPlain d f = true) :
    pieces d f ≠ [] := by
  obtain ⟨p, ps, hp, -⟩ := pieces_solid h
  rw [hp]
  exact List.cons_ne_nil p ps

theorem piecesOf_ne_nil {d : Dialect} {fs : List (Formula Term)} (hne : fs ≠ [])
    (h : arePlain d fs = true) : piecesOf d fs ≠ [] := by
  obtain ⟨p, ps, hp, -⟩ := piecesOf_solid hne h
  rw [hp]
  exact List.cons_ne_nil p ps

/-- The text of a formula begins as its first conjunct does. -/
theorem intercalate_solid {glue p : List Char} {ps : List (List Char)} (h : Solid p) :
    Solid (glue.intercalate (p :: ps)) := by
  obtain ⟨c, rest, rfl, hc⟩ := h
  cases ps with
  | nil => exact ⟨c, rest, List.intercalate_singleton, hc⟩
  | cons q ps => exact ⟨c, _, by rw [List.intercalate_cons_cons]; rfl, hc⟩

def spelled (d : Dialect) (f : Formula Term) : String :=
  .ofList (" AND ".toList.intercalate (pieces d f))

theorem intercalate_piecesOf {d : Dialect} {fs : List (Formula Term)}
    (h : arePlain d fs = true) :
    " AND ".toList.intercalate (piecesOf d fs)
      = (" AND ".intercalate (fs.map (spelled d))).toList := by
  rw [String.toList_intercalate]
  induction fs with
  | nil => rfl
  | cons f fs ih =>
    rw [arePlain, Bool.and_eq_true] at h
    have hf := pieces_ne_nil h.1
    have hspelled : (spelled d f).toList = " AND ".toList.intercalate (pieces d f) :=
      String.toList_ofList
    rw [piecesOf, List.map_cons, List.map_cons, hspelled]
    cases fs with
    | nil => simp [piecesOf]
    | cons g fs =>
      rw [intercalate_append _ hf (piecesOf_ne_nil (by simp) h.2), ih h.2,
        List.intercalate_cons_of_ne_nil (by simp)]

theorem alternatives_eq (d : Dialect) (fs : List (Formula Term)) :
    alternatives d fs = (fs.map fun f => "(" ++ spelled d f ++ ")").map String.toList := by
  induction fs with
  | nil => rfl
  | cons f fs ih =>
    rw [alternatives, ih]
    simp [spelled, String.toList_append]

/-- A group that is not empty is written when its items are. -/
theorem text_group {d : Dialect} {cs : List Condition} {ss : List String} (hne : cs ≠ [])
    (h : Condition.texts d cs = .ok ss) :
    (Condition.and cs).text d = .ok (" AND ".intercalate ss) ∧
      (Condition.or cs).text d
        = .ok ("(" ++ " OR ".intercalate (ss.map fun s => "(" ++ s ++ ")") ++ ")") := by
  cases cs with
  | nil => exact absurd rfl hne
  | cons c cs =>
    rw [Condition.texts] at h
    rw [Condition.text, Condition.text]
    cases hc : Condition.text d c with
    | error e => rw [hc] at h; cases h
    | ok first =>
      cases hcs : Condition.texts d cs with
      | error e => rw [hc, hcs] at h; cases h
      | ok rest =>
        rw [hc, hcs] at h
        cases h
        exact ⟨rfl, rfl⟩

mutual

theorem text_condition {d : Dialect} {f : Formula Term} (h : isPlain d f = true) :
    (condition f).text d = .ok (spelled d f) := by
  cases f with
  | atom t =>
    rw [condition, Condition.text, text_term h, spelled, pieces, List.intercalate_singleton]
  | all fs =>
    rw [isPlain, Bool.and_eq_true, Bool.not_eq_true', List.isEmpty_eq_false_iff] at h
    have hne : conditions fs ≠ [] := by
      cases fs with
      | nil => exact absurd rfl h.1
      | cons f fs => simp [conditions]
    rw [condition, (text_group hne (texts_conditions h.2)).1, spelled, pieces,
      intercalate_piecesOf h.2, String.ofList_toList]
  | any fs =>
    rw [isPlain, Bool.and_eq_true, Bool.not_eq_true', List.isEmpty_eq_false_iff] at h
    have hne : conditions fs ≠ [] := by
      cases fs with
      | nil => exact absurd rfl h.1
      | cons f fs => simp [conditions]
    rw [condition, (text_group hne (texts_conditions h.2)).2, spelled, pieces,
      List.intercalate_singleton, alternatives_eq, ← String.toList_intercalate, List.map_map]
    congr 1
    apply String.toList_injective
    simp [String.toList_append, Function.comp_def]

theorem texts_conditions {d : Dialect} {fs : List (Formula Term)} (h : arePlain d fs = true) :
    Condition.texts d (conditions fs) = .ok (fs.map (spelled d)) := by
  cases fs with
  | nil => rfl
  | cons f fs =>
    rw [arePlain, Bool.and_eq_true] at h
    rw [conditions, Condition.texts, text_condition h.1, texts_conditions h.2]
    rfl

end

/-! ## Reading -/

/-- What can follow a conjunction. -/
structure EndsConjunction (d : Dialect) (rest : List Char) : Prop where
  comparison : EndsComparison d rest
  noAnd : expect? d (Token.isKeyword "AND") rest = none

/-- What can follow a formula. -/
structure EndsFormula (d : Dialect) (rest : List Char) : Prop where
  conjunction : EndsConjunction d rest
  noOr : expect? d (Token.isKeyword "OR") rest = none

theorem endsFormula_nil (d : Dialect) : EndsFormula d [] :=
  ⟨⟨⟨delimited_nil, rfl⟩, rfl⟩, rfl⟩

theorem endsFormula_closing (d : Dialect) (rest : List Char) : EndsFormula d (')' :: rest) := by
  have hnext := next?_mark d ')' rest (by decide)
  refine ⟨⟨⟨delimited_closing rest, ?_⟩, ?_⟩, ?_⟩
  · rw [endsAtom_of_next? hnext]
    rfl
  · rw [expect?, hnext]
    rfl
  · rw [expect?, hnext]
    rfl

/-- A connective between blanks is read, and what stands behind it. -/
theorem next?_connective (d : Dialect) (w : String) (hw : isWord w.toList = true)
    (rest : List Char) : next? d (' ' :: (w.toList ++ ' ' :: rest)) = some (.word w, ' ' :: rest) := by
  rw [next?_space, next?_keyword d w _ hw (endsWord_space rest)]

theorem endsComparison_connective (d : Dialect) (w : String) (hw : isWord w.toList = true)
    (hc : isConnective (.word w) = true) (rest : List Char) :
    EndsComparison d (' ' :: (w.toList ++ ' ' :: rest)) := by
  refine ⟨delimited_cons ' ' _ (.inl rfl), ?_⟩
  rw [endsAtom_of_next? (next?_connective d w hw rest), hc, Bool.or_true]

section

variable {d : Dialect} {factor : Reader (Formula Atom)}

theorem glue_and (hspace : ∀ cs, factor (' ' :: cs) = factor cs) :
    Glue d (Token.isKeyword "AND") factor " AND ".toList (EndsComparison d) where
  nonempty := by decide
  follows rest := endsComparison_connective d "AND" (by decide) (by decide) rest
  reads rest := by
    refine ⟨' ' :: rest, ?_, hspace rest⟩
    have hnext := next?_connective d "AND" (by decide) rest
    show expect? d _ (' ' :: ("AND".toList ++ ' ' :: rest)) = _
    rw [expect?, hnext]
    rfl

theorem conjunction?_space (cs : List Char) :
    conjunction? d factor (' ' :: cs) = conjunction? d factor cs := by
  rw [conjunction?, conjunction?, skipBlanks_space]

theorem glue_or :
    Glue d (Token.isKeyword "OR") (conjunction? d factor) " OR ".toList (EndsConjunction d) where
  nonempty := by decide
  follows rest := by
    refine ⟨endsComparison_connective d "OR" (by decide) (by decide) rest, ?_⟩
    have hnext := next?_connective d "OR" (by decide) rest
    show expect? d _ (' ' :: ("OR".toList ++ ' ' :: rest)) = _
    rw [expect?, hnext]
    rfl
  reads rest := by
    refine ⟨' ' :: rest, ?_, conjunction?_space rest⟩
    have hnext := next?_connective d "OR" (by decide) rest
    show expect? d _ (' ' :: ("OR".toList ++ ' ' :: rest)) = _
    rw [expect?, hnext]
    rfl

/-- `s` reads as `g`, with each term of `g` read, when what follows is as `Follows` says. -/
def ReadsAs (d : Dialect) (reader : Reader (Formula Atom)) (Follows : List Char → Prop)
    (g : Formula Term) (s : List Char) : Prop :=
  ∀ rest, Follows rest → reader (s ++ rest) = some (map (atomOf d) g, rest)

theorem conjunction?_reads (hspace : ∀ cs, factor (' ' :: cs) = factor cs)
    {gs : List (Formula Term)} {ss : List (List Char)}
    (h : List.Forall₂ (ReadsAs d factor (EndsComparison d)) gs ss) (hne : gs ≠ [])
    (hsolid : Solid (" AND ".toList.intercalate ss)) :
    ReadsAs d (conjunction? d factor) (EndsConjunction d) (group .all gs)
      (" AND ".toList.intercalate ss) := by
  intro rest hrest
  have hread := sepBy?_intercalate (glue_and hspace) rest hrest.comparison hrest.noAnd
    (List.forall₂_map_left_iff.2 h) (by simpa using hne)
  rw [conjunction?, hsolid.skipBlanks_append, hread, Option.map_some]
  have hgroup : group .all (gs.map (map (atomOf d))) = map (atomOf d) (group .all gs) :=
    map_group (fun _ => rfl) gs
  show some (group .all (gs.map (map (atomOf d))), rest) = _
  rw [hgroup]

theorem disjunction?_reads {gs : List (Formula Term)} {ss : List (List Char)}
    (h : List.Forall₂ (ReadsAs d (conjunction? d factor) (EndsConjunction d)) gs ss)
    (hne : gs ≠ []) :
    ReadsAs d (disjunction? d factor) (EndsFormula d) (group .any gs)
      (" OR ".toList.intercalate ss) := by
  intro rest hrest
  have hread := sepBy?_intercalate glue_or rest hrest.conjunction hrest.noOr
    (List.forall₂_map_left_iff.2 h) (by simpa using hne)
  rw [disjunction?, hread, Option.map_some]
  have hgroup : group .any (gs.map (map (atomOf d))) = map (atomOf d) (group .any gs) :=
    map_group (fun _ => rfl) gs
  show some (group .any (gs.map (map (atomOf d))), rest) = _
  rw [hgroup]

end

theorem factorWithin?_space (d : Dialect) (depth : Nat) (cs : List Char) :
    factorWithin? d depth (' ' :: cs) = factorWithin? d depth cs := by
  cases depth with
  | zero => rfl
  | succ depth => rw [factorWithin?, factorWithin?, expect?_space, atom?_space]

/-- A formula in parentheses is a factor, whatever follows it. -/
theorem factorWithin?_enclosed {d : Dialect} {depth : Nat} {g : Formula Term} {s : List Char}
    (h : ReadsAs d (disjunction? d (factorWithin? d depth)) (EndsFormula d) g s)
    (rest : List Char) :
    factorWithin? d (depth + 1) ('(' :: (s ++ ')' :: rest)) = some (map (atomOf d) g, rest) := by
  have hopen : expect? d isOpening ('(' :: (s ++ ')' :: rest)) = some (s ++ ')' :: rest) :=
    expect?_mark d isOpening '(' _ (by decide)
  have hclose : expect? d isClosing (')' :: rest) = some rest :=
    expect?_mark d isClosing ')' rest (by decide)
  rw [factorWithin?, hopen]
  show (disjunction? d (factorWithin? d depth) _).bind _ = _
  rw [h _ (endsFormula_closing d rest)]
  show (expect? d isClosing _).bind _ = _
  rw [hclose]
  rfl

theorem factorWithin?_term {d : Dialect} {t : Term} (h : isPlainTerm d t = true) (depth : Nat) :
    ReadsAs d (factorWithin? d (depth + 1)) (EndsComparison d) (.atom t) (termText d t) := by
  intro rest hrest
  obtain ⟨-, hop⟩ := comparison?_of_plain h
  have hatom := atom?_text d t.identifier _ (comparisonOf t).2 hop rest hrest
  have htext : termText d t ++ rest = (d.quoteIdentifier t.identifier).toList ++
      ' ' :: ((comparisonOf t).1.toList ++
        ' ' :: ((d.literal (comparisonOf t).2).toList ++ rest)) := by
    simp [termText]
  have hopen : expect? d isOpening (termText d t ++ rest) = none := by
    obtain ⟨_, hname, -⟩ := Option.bind_eq_some_iff.1 hatom
    obtain ⟨p, after, hnext⟩ := next?_of_name? hname
    rw [htext, expect?, hnext]
    rfl
  rw [factorWithin?, hopen, htext, hatom]
  rfl

/-- A formula reads as its normal form when its conjuncts read as factors. -/
theorem normal_reads {d : Dialect} {f : Formula Term} (h : isPlain d f = true) {depth : Nat}
    (hread : List.Forall₂ (ReadsAs d (factorWithin? d depth) (EndsComparison d)) (conjuncts f)
      (pieces d f)) :
    ReadsAs d (disjunction? d (factorWithin? d depth)) (EndsFormula d) f.normal
      (" AND ".toList.intercalate (pieces d f)) := by
  obtain ⟨p, ps, hp, hsolid⟩ := pieces_solid h
  have hne : conjuncts f ≠ [] := by
    intro hnil
    rw [hnil, hp] at hread
    cases hread
  have hconj := conjunction?_reads (factorWithin?_space d depth) hread hne
    (by rw [hp]; exact intercalate_solid hsolid)
  have hdisj := disjunction?_reads (.cons hconj .nil) (List.cons_ne_nil _ _)
  rw [List.intercalate_singleton] at hdisj
  exact hdisj

mutual

theorem conjuncts_read {d : Dialect} {f : Formula Term} (h : isPlain d f = true) {depth : Nat}
    (hd : nesting f < depth) :
    List.Forall₂ (ReadsAs d (factorWithin? d depth) (EndsComparison d)) (conjuncts f)
      (pieces d f) := by
  obtain ⟨depth, rfl⟩ : ∃ n, depth = n + 1 := ⟨depth - 1, by omega⟩
  cases f with
  | atom t => exact .cons (factorWithin?_term h depth) .nil
  | all fs =>
    rw [isPlain, Bool.and_eq_true] at h
    exact conjunctsOf_read h.2 hd
  | any fs =>
    rw [isPlain, Bool.and_eq_true, Bool.not_eq_true', List.isEmpty_eq_false_iff] at h
    rw [nesting] at hd
    refine .cons ?_ .nil
    have hne : normals fs ≠ [] := by
      cases fs with
      | nil => exact absurd rfl h.1
      | cons f fs => exact List.cons_ne_nil _ _
    have hread := disjunction?_reads (normals_read h.2 (by omega : nestingOf fs + 1 < depth)) hne
    intro rest _
    rw [List.cons_append, List.append_assoc, List.singleton_append]
    exact factorWithin?_enclosed hread rest

theorem conjunctsOf_read {d : Dialect} {fs : List (Formula Term)} (h : arePlain d fs = true)
    {depth : Nat} (hd : nestingOf fs < depth) :
    List.Forall₂ (ReadsAs d (factorWithin? d depth) (EndsComparison d)) (conjunctsOf fs)
      (piecesOf d fs) := by
  cases fs with
  | nil => exact .nil
  | cons f fs =>
    rw [arePlain, Bool.and_eq_true] at h
    rw [nestingOf] at hd
    exact List.rel_append (conjuncts_read h.1 (by omega)) (conjunctsOf_read h.2 (by omega))

theorem normals_read {d : Dialect} {fs : List (Formula Term)} (h : arePlain d fs = true)
    {depth : Nat} (hd : nestingOf fs + 1 < depth) :
    List.Forall₂ (ReadsAs d (conjunction? d (factorWithin? d depth)) (EndsConjunction d))
      (normals fs) (alternatives d fs) := by
  cases fs with
  | nil => exact .nil
  | cons f fs =>
    rw [arePlain, Bool.and_eq_true] at h
    rw [nestingOf] at hd
    obtain ⟨depth, rfl⟩ : ∃ n, depth = n + 1 := ⟨depth - 1, by omega⟩
    refine .cons ?_ (normals_read h.2 (by omega))
    have hf := normal_reads h.1 (conjuncts_read h.1 (by omega : nesting f < depth))
    have hfactor : ReadsAs d (factorWithin? d (depth + 1)) (EndsComparison d) f.normal
        ('(' :: (" AND ".toList.intercalate (pieces d f) ++ [')'])) := by
      intro rest _
      rw [List.cons_append, List.append_assoc, List.singleton_append]
      exact factorWithin?_enclosed hf rest
    have hsingle := conjunction?_reads (factorWithin?_space d (depth + 1)) (.cons hfactor .nil)
      (List.cons_ne_nil _ _)
    rw [List.intercalate_singleton] at hsingle
    exact hsingle ⟨'(', _, rfl, by decide⟩

end

/-! ## Depth -/

theorem sum_length_le (glue : List Char) (ss : List (List Char)) :
    (ss.map List.length).sum ≤ (glue.intercalate ss).length := by
  induction ss with
  | nil => exact Nat.zero_le _
  | cons s ss ih =>
    cases ss with
    | nil => simp
    | cons s' ss =>
      rw [List.intercalate_cons_cons, List.map_cons, List.sum_cons]
      simp only [List.length_append]
      omega

mutual

theorem nesting_le (d : Dialect) (f : Formula Term) :
    nesting f ≤ ((pieces d f).map List.length).sum := by
  cases f with
  | atom t => exact Nat.zero_le _
  | all fs => exact nestingOf_le d fs
  | any fs =>
    have hfs := nestingOf_le_alternatives d fs
    have hsum := sum_length_le " OR ".toList (alternatives d fs)
    rw [nesting, pieces]
    simp only [List.map_cons, List.map_nil, List.sum_cons, List.sum_nil, List.length_cons,
      List.length_append, List.length_nil]
    omega

theorem nestingOf_le (d : Dialect) (fs : List (Formula Term)) :
    nestingOf fs ≤ ((piecesOf d fs).map List.length).sum := by
  cases fs with
  | nil => exact Nat.zero_le _
  | cons f fs =>
    have hf := nesting_le d f
    have hfs := nestingOf_le d fs
    rw [nestingOf, piecesOf, List.map_append, List.sum_append]
    omega

theorem nestingOf_le_alternatives (d : Dialect) (fs : List (Formula Term)) :
    nestingOf fs ≤ ((alternatives d fs).map List.length).sum := by
  cases fs with
  | nil => exact Nat.zero_le _
  | cons f fs =>
    have hf := nesting_le d f
    have hsum := sum_length_le " AND ".toList (pieces d f)
    have hfs := nestingOf_le_alternatives d fs
    rw [nestingOf, alternatives, List.map_cons, List.sum_cons]
    simp only [List.length_cons, List.length_append]
    omega

end

/-! ## Whole conditions -/

theorem formula?_spelled {d : Dialect} {f : Formula Term} (h : isPlain d f = true) :
    formula? d (spelled d f) = some (map (atomOf d) f.normal) := by
  have hlen : nesting f < (spelled d f).toList.length + 1 := by
    have hnesting := nesting_le d f
    have hsum := sum_length_le " AND ".toList (pieces d f)
    rw [spelled, String.toList_ofList]
    omega
  have hread := normal_reads h (conjuncts_read h hlen) [] (endsFormula_nil d)
  rw [List.append_nil] at hread
  have htext : (spelled d f).toList = " AND ".toList.intercalate (pieces d f) :=
    String.toList_ofList
  rw [← htext] at hread
  unfold formula?
  rw [hread]
  rfl

/-- The atom that a term is read back as. -/
structure ReadAtom (d : Dialect) (t : Term) (a : Atom) : Prop where
  identifier : a.identifier = t.identifier
  comparison : ∃ v, t.value = some v ∧ Denotes d v a.value ∧
    a.operator = t.operator.getD (if v.isList then "IN" else "=")

theorem readAtom_atomOf {d : Dialect} {t : Term} (h : isPlainTerm d t = true) :
    ReadAtom d t (atomOf d t) := by
  simp only [isPlainTerm, Bool.and_eq_true] at h
  obtain ⟨⟨-, hvalue⟩, -⟩ := h
  obtain ⟨v, hv⟩ := Option.isSome_iff_exists.1 hvalue
  have hcomparison : comparisonOf t = (t.operator.getD (if v.isList then "IN" else "="), v) := by
    unfold comparisonOf Term.comparison?
    rw [hv]
    cases t.operator <;> rfl
  refine ⟨rfl, v, hv, ?_, ?_⟩
  · rw [atomOf, hcomparison]
    exact denotes_meaning d v
  · rw [atomOf, hcomparison]

mutual

theorem isPlainTerm_of_mem {d : Dialect} {f : Formula Term} (h : isPlain d f = true) :
    ∀ t ∈ f.leaves, isPlainTerm d t = true := by
  cases f with
  | atom t =>
    intro t' ht'
    rw [List.mem_singleton.1 ht']
    exact h
  | all fs =>
    rw [isPlain, Bool.and_eq_true] at h
    exact isPlainTerm_of_memOf h.2
  | any fs =>
    rw [isPlain, Bool.and_eq_true] at h
    exact isPlainTerm_of_memOf h.2

theorem isPlainTerm_of_memOf {d : Dialect} {fs : List (Formula Term)}
    (h : arePlain d fs = true) : ∀ t ∈ leavesOf fs, isPlainTerm d t = true := by
  cases fs with
  | nil =>
    intro t ht
    cases ht
  | cons f fs =>
    rw [arePlain, Bool.and_eq_true] at h
    intro t ht
    rcases List.mem_append.1 ht with ht | ht
    · exact isPlainTerm_of_mem h.1 t ht
    · exact isPlainTerm_of_memOf h.2 t ht

end

/-- A condition of groups of plain comparisons is written, and what is written reads back as a
formula over the same terms in the same order, true exactly when the condition is. -/
theorem text_condition_reads (d : Dialect) (f : Formula Term) (h : isPlain d f = true) :
    ∃ s g read, (condition f).text d = .ok s ∧ formula? d s = some (map read g) ∧
      g.leaves = f.leaves ∧ (∀ ρ : Term → Bool, g.eval ρ = f.eval ρ) ∧
      ∀ t ∈ f.leaves, ReadAtom d t (read t) := by
  refine ⟨spelled d f, f.normal, atomOf d, text_condition h, formula?_spelled h, leaves_normal f,
    fun ρ => eval_normal ρ f, ?_⟩
  intro t ht
  exact readAtom_atomOf (isPlainTerm_of_mem h t ht)

/-- Values that look like query text do not disturb the groups around them. -/
theorem text_condition_reads_grouped :
    let t₁ : Term := { identifier := "a", operator := some "NOT LIKE", value := some (.text "x' OR (") }
    let t₂ : Term := { identifier := "b.c", value := some (.list [.int 1, .text " AND "]) }
    let t₃ : Term := { identifier := "d", value := some .null }
    ∃ s g read, (Condition.and [.or [.term t₁, .term t₂], .term t₃]).text .mysql = .ok s ∧
      formula? .mysql s = some (map read g) ∧ g.leaves = [t₁, t₂, t₃] ∧
      (∀ ρ : Term → Bool, g.eval ρ = ((ρ t₁ || ρ t₂) && ρ t₃)) ∧
      ∀ t ∈ [t₁, t₂, t₃], ReadAtom .mysql t (read t) := by
  intro t₁ t₂ t₃
  obtain ⟨s, g, read, htext, hread, hleaves, heval, hatoms⟩ :=
    text_condition_reads .mysql (.all [.any [.atom t₁, .atom t₂], .atom t₃]) (by decide)
  refine ⟨s, g, read, htext, hread, hleaves, ?_, hatoms⟩
  intro ρ
  rw [heval]
  simp [eval, evalAll, evalAny]

end Formula

end SqlGateway.Sql
