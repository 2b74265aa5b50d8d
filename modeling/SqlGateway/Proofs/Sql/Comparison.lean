import SqlGateway.Condition.Basic
import SqlGateway.Proofs.Sql.Lexeme
import SqlGateway.Proofs.Sql.Literal

/-!
# Comparisons read back

A comparison is a name, an operator and a literal.  An operator is made of
words and operator characters; it goes on up to a literal behind which the
comparison ends, so that `IS NOT NULL` is the operator `IS NOT` and a literal.
The words AND and OR and a closing parenthesis end a comparison.

    atom? d (name ++ " " ++ op ++ " " ++ literal ++ rest) = (⟨name, op, literal⟩, rest)
-/

namespace SqlGateway.Sql

structure Atom where
  identifier : String
  operator : String
  value : Literal

/-! ## Algorithm -/

def isConnective (t : Token) : Bool :=
  t.isKeyword "AND" || t.isKeyword "OR"

def isOperatorToken (t : Token) : Bool :=
  match t with
  | .word _ => !isConnective t
  | .symbol _ => true
  | _ => false

def endsAtom (d : Dialect) (cs : List Char) : Bool :=
  match next? d cs with
  | some (t, _) => isClosing t || isConnective t
  | none => (skipBlanks cs).isEmpty

/-- A literal behind which the comparison ends. -/
def endingLiteral? (d : Dialect) : Reader Literal := fun cs =>
  (literal? d cs).filter fun (_, rest) => endsAtom d rest

/-- An operator of at most `bound` tokens as it is written, and the literal behind it. -/
def comparisonWithin? (d : Dialect) : Nat → Reader (List Char × Literal)
  | 0, _ => none
  | bound + 1, cs =>
    match endingLiteral? d cs with
    | some (l, rest) => some (([], l), rest)
    | none =>
      match next? d cs with
      | none => none
      | some (t, after) =>
        if isOperatorToken t then
          (comparisonWithin? d bound after).map fun ((op, l), rest) =>
            ((cs.take (cs.length - after.length) ++ op, l), rest)
        else none

def atom? (d : Dialect) : Reader Atom := fun cs => do
  let (identifier, cs) ← name? d cs
  let ((op, value), rest) ← comparisonWithin? d (cs.length + 1) cs
  if (skipBlanks op).isEmpty then none
  else return (⟨identifier, .ofList (skipBlanks op), value⟩, rest)

/-- Nothing but at most `bound` operator tokens. -/
def operatorsWithin (d : Dialect) : Nat → List Char → Bool
  | 0, _ => false
  | bound + 1, cs =>
    (skipBlanks cs).isEmpty ||
      match next? d cs with
      | some (t, rest) => isOperatorToken t && operatorsWithin d bound rest
      | none => false

/-- Words and operator characters without a blank around them, AND and OR apart. -/
def isOperator (d : Dialect) (op : String) : Bool :=
  op.toList.head?.any (fun c => !c.isWhitespace) &&
    op.toList.getLast?.any (fun c => !c.isWhitespace) &&
    operatorsWithin d (op.toList.length + 1) op.toList

/-! ## Where a comparison ends -/

theorem endsAtom_of_next? {d : Dialect} {cs after : List Char} {t : Token}
    (h : next? d cs = some (t, after)) :
    endsAtom d cs = (isClosing t || isConnective t) := by
  rw [endsAtom, h]

theorem endsAtom_operator {d : Dialect} {cs after : List Char} {t : Token}
    (h : next? d cs = some (t, after)) (ht : isOperatorToken t = true) : endsAtom d cs = false := by
  rw [endsAtom_of_next? h]
  cases t with
  | word w => simpa [isOperatorToken, isClosing] using ht
  | symbol w => rfl
  | _ => cases ht

/-- The keywords among the literals are no connectives. -/
theorem isConnective_of_scalar? {d : Dialect} {t : Token} {l : Literal}
    (h : scalar? d t = some l) : isClosing t = false ∧ isConnective t = false := by
  cases t with
  | word w =>
    refine ⟨rfl, ?_⟩
    have hfold : ∀ k : String, Text.sameFolded w k = true →
        (k.toList.map Char.toLower == "AND".toList.map Char.toLower) = false →
        (k.toList.map Char.toLower == "OR".toList.map Char.toLower) = false →
        isConnective (.word w) = false := by
      intro k hk h1 h2
      rw [Text.sameFolded, beq_iff_eq] at hk
      simp only [isConnective, Token.isKeyword, Text.sameFolded, hk, h1, h2, Bool.or_false]
    have hkey : keyword? d (.word w) = some l := h
    unfold keyword? at hkey
    split at hkey
    · next hk => exact hfold "NULL" hk (by decide) (by decide)
    · split at hkey
      · cases hkey
      · split at hkey
        · next hk => exact hfold "TRUE" hk (by decide) (by decide)
        · split at hkey
          · next hk => exact hfold "FALSE" hk (by decide) (by decide)
          · cases hkey
  | name s => cases h
  | symbol s => cases h
  | mark c => cases h
  | text s => exact ⟨rfl, rfl⟩
  | bytes b => exact ⟨rfl, rfl⟩
  | number r => exact ⟨rfl, rfl⟩

theorem endsAtom_literal (d : Dialect) (v : Value) (rest : List Char) (hr : Delimited rest) :
    endsAtom d ((d.literal v).toList ++ rest) = false := by
  cases hv : v.isList with
  | false =>
    obtain ⟨t, ht, -, hs⟩ := next?_literal d v rest hr hv
    obtain ⟨h1, h2⟩ := isConnective_of_scalar? hs
    rw [endsAtom_of_next? ht, h1, h2]
    rfl
  | true =>
    cases v with
    | list vs =>
      rw [toList_literal_list, endsAtom_of_next? (next?_mark d '(' _ (by decide))]
      rfl
    | _ => cases hv

theorem endsAtom_space (d : Dialect) (cs : List Char) : endsAtom d (' ' :: cs) = endsAtom d cs := by
  rw [endsAtom, endsAtom, next?_space, skipBlanks_space]

/-! ## Operators and atoms -/

theorem next?_blanks {d : Dialect} {cs : List Char} (h : skipBlanks cs = []) (more : List Char) :
    skipBlanks (cs ++ more) = skipBlanks more ∧ next? d (cs ++ more) = next? d more := by
  have hskip := skipBlanks_append_of_nil h more
  exact ⟨hskip, by rw [← next?_skipBlanks, hskip, next?_skipBlanks]⟩

/-- What `operatorsWithin` says of a text: it is blank, or an operator token begins it. -/
theorem operatorsWithin_cases {d : Dialect} {bound : Nat} {cs : List Char}
    (h : operatorsWithin d (bound + 1) cs = true) :
    skipBlanks cs = [] ∨ ∃ t after, next? d cs = some (t, after) ∧ isOperatorToken t = true ∧
      operatorsWithin d bound after = true := by
  rw [operatorsWithin, Bool.or_eq_true, List.isEmpty_iff] at h
  refine h.imp_right fun h => ?_
  split at h
  · next t after hnext =>
    rw [Bool.and_eq_true] at h
    exact ⟨t, after, hnext, h.1, h.2⟩
  · cases h

/-- Operator tokens and then a literal do not end a comparison before that literal. -/
theorem endsAtom_operators {d : Dialect} (v : Value) (rest : List Char) (hr : Delimited rest)
    (bound : Nat) (cs : List Char) (h : operatorsWithin d bound cs = true) :
    endsAtom d (cs ++ ' ' :: ((d.literal v).toList ++ rest)) = false := by
  cases bound with
  | zero => cases h
  | succ bound =>
    rcases operatorsWithin_cases h with hblank | ⟨t, after, hnext, ht, -⟩
    · obtain ⟨hskip, hnext⟩ := next?_blanks (d := d) hblank (' ' :: ((d.literal v).toList ++ rest))
      have hsame : endsAtom d (cs ++ ' ' :: ((d.literal v).toList ++ rest))
          = endsAtom d (' ' :: ((d.literal v).toList ++ rest)) := by
        rw [endsAtom, endsAtom, hskip, hnext]
      rw [hsame, endsAtom_space, endsAtom_literal d v rest hr]
    · exact endsAtom_operator ((next?_readsTo hnext).append ' ' _ (by decide)) ht

/-- An operator token is no literal, unless it is one behind which the comparison goes on. -/
theorem endingLiteral?_of_operator {d : Dialect} {cs after : List Char} {t : Token}
    (h : next? d cs = some (t, after)) (ht : isOperatorToken t = true)
    (hafter : endsAtom d after = false) : endingLiteral? d cs = none := by
  have hopen : isOpening t = false := by
    cases t with
    | mark c => cases ht
    | _ => rfl
  unfold endingLiteral? literal?
  rw [literalWithin?, h]
  show Option.filter _ (if isOpening t then _ else _) = none
  rw [hopen]
  show Option.filter _ ((scalar? d t).map fun l => (l, after)) = none
  cases scalar? d t with
  | none => rfl
  | some l =>
    rw [Option.map_some, Option.filter_some]
    show (if endsAtom d after = true then _ else _) = _
    rw [hafter]
    rfl

theorem endingLiteral?_literal (d : Dialect) (v : Value) (rest : List Char) (hr : Delimited rest)
    (hends : endsAtom d rest = true) :
    endingLiteral? d (' ' :: ((d.literal v).toList ++ rest)) = some (meaning d v, rest) := by
  rw [endingLiteral?, literal?_space, literal?_literal d v rest hr]
  simp [hends]

theorem comparisonWithin?_operators {d : Dialect} (v : Value) (rest : List Char)
    (hr : Delimited rest) (hends : endsAtom d rest = true) (bound : Nat) (cs : List Char)
    (h : operatorsWithin d bound cs = true)
    (hlast : ∀ c ∈ cs.getLast?, c.isWhitespace = false) (bound' : Nat) (hb : bound ≤ bound') :
    comparisonWithin? d bound' (cs ++ ' ' :: ((d.literal v).toList ++ rest))
      = some ((cs, meaning d v), rest) := by
  induction bound generalizing cs bound' with
  | zero => cases h
  | succ bound ih =>
    obtain ⟨bound', rfl⟩ : ∃ n, bound' = n + 1 := ⟨bound' - 1, by omega⟩
    rcases operatorsWithin_cases h with hblank | ⟨t, after, hnext, ht, hmore⟩
    · have hnil : cs = [] := by
        by_contra hne
        obtain ⟨c, hc⟩ : ∃ c, cs.getLast? = some c := Option.isSome_iff_exists.1 (by simpa using hne)
        have hall : cs.dropWhile Char.isWhitespace = [] := hblank
        have hw := List.dropWhile_eq_nil_iff.1 hall c (List.mem_of_getLast? hc)
        rw [hlast c hc] at hw
        cases hw
      subst hnil
      rw [List.nil_append, comparisonWithin?, endingLiteral?_literal d v rest hr hends]
    · obtain ⟨y, hy⟩ := (next?_readsTo hnext).suffix
      have hnext' := (next?_readsTo hnext).append ' ' ((d.literal v).toList ++ rest) (by decide)
      have hafter := endsAtom_operators v rest hr bound after hmore
      have hlast' : ∀ c ∈ after.getLast?, c.isWhitespace = false := by
        intro c hc
        apply hlast c
        rw [← hy, List.getLast?_append]
        have hc' : after.getLast? = some c := hc
        rw [hc']
        rfl
      have hmap := ih after hmore hlast' bound' (by omega)
      have htake : (cs ++ ' ' :: ((d.literal v).toList ++ rest)).take
          ((cs ++ ' ' :: ((d.literal v).toList ++ rest)).length
            - (after ++ ' ' :: ((d.literal v).toList ++ rest)).length) = y := by
        rw [← hy, List.append_assoc, List.length_append, Nat.add_sub_cancel_right,
          List.take_left]
      rw [comparisonWithin?, endingLiteral?_of_operator hnext' ht hafter]
      simp only [hnext', ht, if_true, hmap, Option.map_some, htake]
      rw [hy]

/-- What can follow a comparison. -/
structure EndsComparison (d : Dialect) (rest : List Char) : Prop where
  delimited : Delimited rest
  ends : endsAtom d rest = true

theorem operatorsWithin_space (d : Dialect) (bound : Nat) (cs : List Char) :
    operatorsWithin d bound (' ' :: cs) = operatorsWithin d bound cs := by
  cases bound with
  | zero => rfl
  | succ bound => rw [operatorsWithin, operatorsWithin, skipBlanks_space, next?_space]

/-- What `isOperator` says: no blank at either end and operator tokens between. -/
theorem isOperator_spec {d : Dialect} {op : String} (h : isOperator d op = true) :
    (∃ c cs, op.toList = c :: cs ∧ c.isWhitespace = false) ∧
      (∀ c ∈ op.toList.getLast?, c.isWhitespace = false) ∧
      operatorsWithin d (op.toList.length + 1) op.toList = true := by
  unfold isOperator at h
  rw [Bool.and_eq_true, Bool.and_eq_true, Option.any_eq_true, Option.any_eq_true] at h
  obtain ⟨⟨⟨c, hc, hcw⟩, ⟨e, he, hew⟩⟩, hops⟩ := h
  rw [Bool.not_eq_true'] at hcw hew
  refine ⟨?_, ?_, hops⟩
  · cases hop : op.toList with
    | nil =>
      rw [hop] at hc
      cases hc
    | cons c' cs =>
      rw [hop] at hc
      cases hc
      exact ⟨c, cs, rfl, hcw⟩
  · intro x hx
    rw [he] at hx
    cases hx
    exact hew

/-- The text of a comparison up to what follows it. -/
theorem atom?_text (d : Dialect) (identifier op : String) (v : Value)
    (hop : isOperator d op = true) (rest : List Char) (hr : EndsComparison d rest) :
    atom? d ((d.quoteIdentifier identifier).toList ++
        ' ' :: (op.toList ++ ' ' :: ((d.literal v).toList ++ rest)))
      = some (⟨identifier, op, meaning d v⟩, rest) := by
  obtain ⟨⟨c, cs, hcs, hcw⟩, hlast, hops⟩ := isOperator_spec hop
  have hblank : skipBlanks op.toList = op.toList := by
    rw [hcs]
    exact List.dropWhile_cons_of_neg (by simp [hcw])
  have hskip : skipBlanks (' ' :: op.toList) = op.toList := by
    rw [skipBlanks_space, hblank]
  have hlast' : ∀ x ∈ (' ' :: op.toList).getLast?, x.isWhitespace = false := by
    intro x hx
    apply hlast x
    rw [hcs, List.getLast?_cons_cons] at hx
    rw [hcs]
    exact hx
  have hread := comparisonWithin?_operators v rest hr.delimited hr.ends _ (' ' :: op.toList)
    (by rw [operatorsWithin_space]; exact hops) hlast'
  have hdot : expect? d isDot (op.toList ++ ' ' :: ((d.literal v).toList ++ rest)) = none := by
    rcases operatorsWithin_cases hops with hnil | ⟨t, after, hnext, ht, -⟩
    · rw [hblank, hcs] at hnil
      cases hnil
    · rw [expect?, ((next?_readsTo hnext).append ' ' _ (by decide))]
      cases t with
      | word w => rfl
      | symbol w => rfl
      | _ => cases ht
  unfold atom?
  rw [name?_quoteIdentifier d _ _ (endsName_space hdot)]
  show (comparisonWithin? d _ _).bind _ = _
  rw [← List.cons_append, hread]
  · show (if (skipBlanks (' ' :: op.toList)).isEmpty then _ else _) = _
    rw [hskip, if_neg (by simp [hcs]), String.ofList_toList]
    rfl
  · simp only [List.length_cons, List.length_append]
    omega

theorem atom?_space (d : Dialect) (cs : List Char) : atom? d (' ' :: cs) = atom? d cs := by
  rw [atom?, atom?, name?_space]

end SqlGateway.Sql
