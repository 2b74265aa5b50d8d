import Mathlib.Data.List.Forall2
import Mathlib.Data.Option.Basic
import SqlGateway.Condition.Json
import SqlGateway.Proofs.Condition.Flaw
import SqlGateway.Proofs.Steps

/-!
# Forms of conditions

Which JSON values are conditions, and what each of them means.  A condition is a
text, a positional list of at most four items, or an `OR` list; the branches of
an `OR` list are conditions, and a branch that starts with a list is an `AND`
list.  What is read from JSON is just that.

    ofJson j = .ok c          iff   j means c
    j means some condition    iff   j is a condition
    c comes from JSON         implies   only a blank identifier keeps c from being written
-/

namespace SqlGateway

/-! ## Grammar -/

/-- An item that is not given, or given as null. -/
def IsAbsent (item : Option Json) : Prop :=
  item = none ∨ item = some .null

/-- A list that starts with a list. -/
def IsNested (items : List Json) : Prop :=
  ∃ first, items.head? = some (.array first)

structure IsPositional (items : List Json) : Prop where
  nonempty : 1 ≤ items.length
  bounded : items.length ≤ 4
  identifier : ∃ s, items[0]? = some (.string s)
  /-- The second item is an operator where there is a third. -/
  operator : ∀ j k, items[1]? = some j → items[2]? = some k → j ≠ .null → k ≠ .null →
    ∃ op, j = .string op
  escape : ∀ j, items[3]? = some j → j = .null ∨ ∃ b, j = .bool b

mutual

inductive IsCondition : Json → Prop where
  | text (s : String) : IsCondition (.string s)
  | positional {items : List Json} (h : IsPositional items) : IsCondition (.array items)
  | or {items : List Json} (hn : IsNested items) (h : ∀ j ∈ items, IsBranch j) :
      IsCondition (.array items)

/-- A branch of an `OR` list. -/
inductive IsBranch : Json → Prop where
  | and {items : List Json} (hn : IsNested items) (h : ∀ j ∈ items, IsCondition j) :
      IsBranch (.array items)
  | alone {j : Json} (h : IsCondition j) : IsBranch j

end

/-! ## Meaning -/

/-- The escape flag, which is set unless it is given. -/
inductive MeansEscape : Option Json → Bool → Prop where
  | absent {item : Option Json} (h : IsAbsent item) : MeansEscape item true
  | given (b : Bool) : MeansEscape (some (.bool b)) b

/-- Operator and value, from the second and the third item.  One item alone is the value. -/
inductive MeansComparison : Option Json → Option Json → Option String → Option Value → Prop where
  | nothing {second third : Option Json} (h : IsAbsent second) :
      MeansComparison second third none none
  | value {j : Json} {third : Option Json} (hj : j ≠ .null) (h : IsAbsent third) :
      MeansComparison (some j) third none (some (.ofJson j))
  | operator {op : String} {j : Json} (hj : j ≠ .null) :
      MeansComparison (some (.string op)) (some j) (some op) (some (.ofJson j))

/-- The term that a positional list means. -/
structure MeansTerm (items : List Json) (t : Term) : Prop where
  bounded : items.length ≤ 4
  identifier : items[0]? = some (.string t.identifier)
  comparison : MeansComparison items[1]? items[2]? t.operator t.value
  escape : MeansEscape items[3]? t.escape

mutual

/-- The condition that a JSON value means. -/
inductive Means : Json → Condition → Prop where
  | text (s : String) : Means (.string s) (.raw s)
  | term {items : List Json} {t : Term} (h : MeansTerm items t) : Means (.array items) (.term t)
  | or {items : List Json} {cs : List Condition} (hn : IsNested items)
      (h : List.Forall₂ MeansBranch items cs) : Means (.array items) (.or cs)

/-- What starts with a list is an `AND` group here. -/
inductive MeansBranch : Json → Condition → Prop where
  | and {items : List Json} {cs : List Condition} (hn : IsNested items)
      (h : List.Forall₂ Means items cs) : MeansBranch (.array items) (.and cs)
  | alone {j : Json} {c : Condition} (hn : ∀ items, j = .array items → ¬IsNested items)
      (h : Means j c) : MeansBranch j c

end

/-- Causes that lie in the form of a JSON value. -/
def BuildError.isOfForm : BuildError → Bool
  | .notACondition _ | .emptyConditionList | .tooManyArguments _ | .identifierNotText _
  | .escapeNotBool _ | .operatorNotText _ => true
  | _ => false

/-! ## Lists -/

section

variable {α β ε : Type} {as : List α} {bs : List β}

theorem mapM_eq_ok_iff {f : α → Except ε β} :
    as.mapM f = .ok bs ↔ List.Forall₂ (fun a b => f a = .ok b) as bs := by
  induction as generalizing bs with
  | nil =>
    rw [List.mapM_nil, List.forall₂_nil_left_iff]
    exact ⟨fun h => by cases h; rfl, fun h => by rw [h]; rfl⟩
  | cons a as ih =>
    rw [List.mapM_cons, List.forall₂_cons_left_iff, bind_eq_ok_iff]
    constructor
    · rintro ⟨b, hb, h⟩
      obtain ⟨rest, hrest, hcons⟩ := bind_eq_ok_iff.1 h
      cases hcons
      exact ⟨b, rest, hb, ih.1 hrest, rfl⟩
    · rintro ⟨b, rest, hb, hrest, rfl⟩
      exact ⟨b, hb, bind_eq_ok_iff.2 ⟨rest, ih.2 hrest, rfl⟩⟩

/-- One of the items fails where all together do. -/
theorem exists_of_mapM_eq_error {f : α → Except ε β} {e : ε} (h : as.mapM f = .error e) :
    ∃ a ∈ as, f a = .error e := by
  induction as with
  | nil => cases h
  | cons a as ih =>
    rw [List.mapM_cons, bind_eq_error_iff] at h
    rcases h with h | ⟨b, -, h⟩
    · exact ⟨a, List.mem_cons_self, h⟩
    · rcases bind_eq_error_iff.1 h with h | ⟨rest, -, h⟩
      · obtain ⟨a', ha', hf⟩ := ih h
        exact ⟨a', List.mem_cons_of_mem a ha', hf⟩
      · cases h

theorem exists_map_iff {p : α → Prop} {f : α → β} : (∃ b, ∃ a, p a ∧ f a = b) ↔ ∃ a, p a := by
  constructor
  · rintro ⟨_, a, h, -⟩
    exact ⟨a, h⟩
  · rintro ⟨a, h⟩
    exact ⟨f a, a, h, rfl⟩

theorem forall₂_congr_of_mem {R S : α → β → Prop} (h : ∀ a ∈ as, ∀ b, R a b ↔ S a b) :
    List.Forall₂ R as bs ↔ List.Forall₂ S as bs := by
  induction as generalizing bs with
  | nil => rw [List.forall₂_nil_left_iff, List.forall₂_nil_left_iff]
  | cons a as ih =>
    rw [List.forall_mem_cons] at h
    simp only [List.forall₂_cons_left_iff, h.1, ih h.2]

theorem exists_forall₂_iff {R : α → β → Prop} :
    (∃ bs, List.Forall₂ R as bs) ↔ ∀ a ∈ as, ∃ b, R a b := by
  induction as with
  | nil => simp
  | cons a as ih =>
    rw [List.forall_mem_cons, ← ih]
    constructor
    · rintro ⟨bs, h⟩
      obtain ⟨b, rest, hb, hrest, -⟩ := List.forall₂_cons_left_iff.1 h
      exact ⟨⟨b, hb⟩, rest, hrest⟩
    · rintro ⟨⟨b, hb⟩, bs, hbs⟩
      exact ⟨b :: bs, .cons hb hbs⟩

/-- What comes out comes from one of the items. -/
theorem exists_mem_of_forall₂ {R : α → β → Prop} (h : List.Forall₂ R as bs) :
    ∀ b ∈ bs, ∃ a ∈ as, R a b := by
  induction h with
  | nil => simp
  | cons hab _ ih =>
    rw [List.forall_mem_cons]
    refine ⟨⟨_, List.mem_cons_self, hab⟩, fun b hb => ?_⟩
    obtain ⟨a, ha, hr⟩ := ih b hb
    exact ⟨a, List.mem_cons_of_mem _ ha, hr⟩

end

/-- Along the items of lists; the members of objects do not matter to a condition. -/
theorem Json.induction {P : Json → Prop} (scalar : ∀ j, (∀ items, j ≠ .array items) → P j)
    (array : ∀ items, (∀ j ∈ items, P j) → P (.array items)) (j : Json) : P j := by
  cases j with
  | array items => exact array items fun j _ => Json.induction scalar array j
  | null | bool | number | string | object => exact scalar _ (by simp)
termination_by sizeOf j

/-! ## Items -/

theorem absent_or (item : Option Json) : IsAbsent item ∨ ∃ j, item = some j ∧ j ≠ .null := by
  cases item with
  | none => exact .inl (.inl rfl)
  | some j =>
    by_cases h : j = .null
    · exact .inl (.inr (congrArg some h))
    · exact .inr ⟨j, rfl, h⟩

theorem IsAbsent.getD {item : Option Json} (h : IsAbsent item) : item.getD .null = .null := by
  rcases h with rfl | rfl <;> rfl

theorem not_isAbsent {j : Json} (h : j ≠ .null) : ¬IsAbsent (some j) := by
  rintro (h' | h')
  · cases h'
  · exact h (Option.some.inj h')

theorem Term.escapeFlag_eq_ok_iff {item : Option Json} {b : Bool} :
    Term.escapeFlag (item.getD .null) = .ok b ↔ MeansEscape item b := by
  constructor
  · intro h
    rcases absent_or item with ha | ⟨j, rfl, hj⟩
    · rw [ha.getD] at h
      cases h
      exact .absent ha
    · rw [Option.getD_some] at h
      cases j with
      | bool b' =>
        cases h
        exact .given b
      | null => exact absurd rfl hj
      | number | string | array | object => cases h
  · rintro (ha | _)
    · rw [ha.getD]
      rfl
    · rfl

/-- The term of two items, by what is given of them. -/
theorem Term.compared_cases (identifier : String) (escape : Bool) (second third : Option Json) :
    (∃ op v, MeansComparison second third op v ∧
      Term.compared identifier escape (second.getD .null) (third.getD .null)
        = .ok ⟨identifier, op, v, escape⟩) ∨
    (∃ j k, second = some j ∧ third = some k ∧ k ≠ .null ∧ j ≠ .null ∧ (∀ op, j ≠ .string op) ∧
      Term.compared identifier escape (second.getD .null) (third.getD .null)
        = .error (.operatorNotText j.compact)) := by
  rcases absent_or second with hsecond | ⟨j, rfl, hj⟩
  · left
    refine ⟨none, none, .nothing hsecond, ?_⟩
    rw [hsecond.getD]
    rfl
  rw [Option.getD_some]
  rcases absent_or third with hthird | ⟨k, rfl, hk⟩
  · left
    refine ⟨none, some (.ofJson j), .value hj hthird, ?_⟩
    rw [hthird.getD]
    cases j <;> first | exact absurd rfl hj | rfl
  rw [Option.getD_some]
  cases j with
  | null => exact absurd rfl hj
  | string op =>
    left
    refine ⟨some op, some (.ofJson k), .operator hk, ?_⟩
    cases k <;> first | exact absurd rfl hk | rfl
  | bool | number | array | object =>
    right
    refine ⟨_, k, rfl, rfl, hk, hj, by simp, ?_⟩
    cases k <;> first | exact absurd rfl hk | rfl

theorem MeansComparison.unique {second third : Option Json} {op op' : Option String}
    {v v' : Option Value} (h : MeansComparison second third op v)
    (h' : MeansComparison second third op' v') : op = op' ∧ v = v' := by
  cases h with
  | nothing ha =>
    cases h' with
    | nothing => exact ⟨rfl, rfl⟩
    | value hj => exact absurd ha (not_isAbsent hj)
    | operator => exact absurd ha (not_isAbsent (by simp))
  | value hj ha =>
    cases h' with
    | nothing ha' => exact absurd ha' (not_isAbsent hj)
    | value => exact ⟨rfl, rfl⟩
    | operator hk => exact absurd ha (not_isAbsent hk)
  | operator hk =>
    cases h' with
    | nothing ha' => exact absurd ha' (not_isAbsent (by simp))
    | value _ ha => exact absurd ha (not_isAbsent hk)
    | operator => exact ⟨rfl, rfl⟩

theorem Term.compared_eq_ok_iff {identifier : String} {escape : Bool} {second third : Option Json}
    {t : Term} :
    Term.compared identifier escape (second.getD .null) (third.getD .null) = .ok t ↔
      t.identifier = identifier ∧ t.escape = escape ∧
        MeansComparison second third t.operator t.value := by
  constructor
  · intro h
    rcases Term.compared_cases identifier escape second third with
      ⟨op, v, hs, hrun⟩ | ⟨j, k, -, -, -, -, -, hrun⟩
    · rw [hrun] at h
      cases h
      exact ⟨rfl, rfl, hs⟩
    · rw [hrun] at h
      cases h
  · rintro ⟨rfl, rfl, hs⟩
    rcases Term.compared_cases t.identifier t.escape second third with
      ⟨op, v, hs', hrun⟩ | ⟨j, k, rfl, rfl, hk, hj, htext, -⟩
    · obtain ⟨rfl, rfl⟩ := hs'.unique hs
      exact hrun
    · generalize t.operator = op, t.value = v at hs
      cases hs with
      | nothing ha => exact absurd ha (not_isAbsent hj)
      | value _ ha => exact absurd ha (not_isAbsent hk)
      | operator => exact absurd rfl (htext _)

/-! ## Positional lists -/

theorem Term.ofItems_eq_ok_iff {items : List Json} {t : Term} :
    Term.ofItems items = .ok t ↔ MeansTerm items t := by
  unfold Term.ofItems
  constructor
  · intro h
    split at h
    · cases h
    next hlen =>
      cases items with
      | nil => cases h
      | cons first rest =>
        cases first with
        | string identifier =>
          obtain ⟨escape, hescape, h⟩ := bind_eq_ok_iff.1 h
          obtain ⟨rfl, rfl, hcomparison⟩ := Term.compared_eq_ok_iff.1 h
          exact ⟨by omega, rfl, hcomparison, Term.escapeFlag_eq_ok_iff.1 hescape⟩
        | null | bool | number | array | object => cases h
  · rintro ⟨hlen, hidentifier, hcomparison, hescape⟩
    rw [if_neg (by omega)]
    cases items with
    | nil => cases hidentifier
    | cons first rest =>
      rw [List.getElem?_cons_zero, Option.some.injEq] at hidentifier
      subst hidentifier
      exact bind_eq_ok_iff.2 ⟨t.escape, Term.escapeFlag_eq_ok_iff.2 hescape,
        Term.compared_eq_ok_iff.2 ⟨rfl, rfl, hcomparison⟩⟩

theorem isPositional_iff {items : List Json} : IsPositional items ↔ ∃ t, MeansTerm items t := by
  constructor
  · rintro ⟨-, hbounded, ⟨identifier, hidentifier⟩, hoperator, hescape⟩
    obtain ⟨escape, hmeans⟩ : ∃ b, MeansEscape items[3]? b := by
      rcases absent_or items[3]? with ha | ⟨j, hj, hne⟩
      · exact ⟨true, .absent ha⟩
      · obtain rfl | ⟨b, rfl⟩ := hescape j hj
        · exact absurd rfl hne
        · exact ⟨b, hj ▸ .given b⟩
    rcases Term.compared_cases identifier escape items[1]? items[2]? with
      ⟨op, v, hs, -⟩ | ⟨j, k, hj, hk, hk', hj', htext, -⟩
    · exact ⟨⟨identifier, op, v, escape⟩, hbounded, hidentifier, hs, hmeans⟩
    · obtain ⟨op, rfl⟩ := hoperator j k hj hk hj' hk'
      exact absurd rfl (htext op)
  · rintro ⟨t, hbounded, hidentifier, hcomparison, hescape⟩
    refine ⟨?_, hbounded, ⟨t.identifier, hidentifier⟩, ?_, ?_⟩
    · cases items with
      | nil => cases hidentifier
      | cons first rest => simp
    · intro j k hj hk hj' hk'
      rw [hj, hk] at hcomparison
      generalize t.operator = op, t.value = v at hcomparison
      cases hcomparison with
      | nothing ha => exact absurd ha (not_isAbsent hj')
      | value _ ha => exact absurd ha (not_isAbsent hk')
      | operator => exact ⟨_, rfl⟩
    · intro j hj
      rw [hj] at hescape
      generalize t.escape = b at hescape
      cases hescape with
      | absent ha =>
        by_cases h : j = .null
        · exact .inl h
        · exact absurd ha (not_isAbsent h)
      | given b => exact .inr ⟨b, rfl⟩

/-- A positional list starts with its identifier. -/
theorem MeansTerm.not_isNested {items : List Json} {t : Term} (h : MeansTerm items t) :
    ¬IsNested items := by
  rintro ⟨first, hfirst⟩
  have hidentifier := h.identifier
  rw [← List.head?_eq_getElem?, hfirst] at hidentifier
  cases hidentifier

/-! ## Conditions -/

namespace Condition

/-- One item of an `OR` group. -/
def branch (j : Json) : Except BuildError Condition :=
  match j with
  | .array items =>
    if startsWithList items then do return .and (← items.mapM ofJson) else ofJson (.array items)
  | j => ofJson j

theorem startsWithList_iff {items : List Json} : startsWithList items = true ↔ IsNested items := by
  unfold startsWithList IsNested
  split
  · simp
  · next h =>
    simp only [Bool.false_eq_true, false_iff]
    rintro ⟨first, hfirst⟩
    obtain ⟨rest, rfl⟩ := List.head?_eq_some_iff.1 hfirst
    exact h first rest rfl

theorem ofJsonItems_eq (items : List Json) : ofJsonItems items = items.mapM ofJson := by
  induction items with
  | nil => rw [ofJsonItems, List.mapM_nil]; rfl
  | cons j rest ih => rw [ofJsonItems, List.mapM_cons, ih]

theorem branches_eq (items : List Json) : branches items = items.mapM branch := by
  induction items with
  | nil => rw [branches, List.mapM_nil]; rfl
  | cons j rest ih =>
    rw [List.mapM_cons, ← ih]
    cases j with
    | array items =>
      rw [branches, ofJsonItems_eq]
      unfold branch
      dsimp only
      by_cases h : startsWithList items
      · simp only [h, if_true, bind_assoc, pure_bind]
      · simp only [h, Bool.false_eq_true, if_false]
    | null | bool | number | string | object => rw [branches] <;> first | rfl | simp

theorem ofJson_nested {items : List Json} (h : IsNested items) :
    ofJson (.array items) = do return .or (← items.mapM branch) := by
  have hne : items.isEmpty = false := by
    obtain ⟨first, hfirst⟩ := h
    cases items with
    | nil => cases hfirst
    | cons j rest => rfl
  rw [ofJson, hne, startsWithList_iff.2 h, branches_eq]
  rfl

/-- Any other list is one term, the empty list being none. -/
theorem ofJson_flat {items : List Json} (h : ¬IsNested items) :
    ofJson (.array items) = do return .term (← Term.ofItems items) := by
  have hflat : startsWithList items = false := by
    rw [← Bool.not_eq_true, startsWithList_iff]
    exact h
  rw [ofJson, hflat]
  cases items <;> rfl

theorem branch_nested {items : List Json} (h : IsNested items) :
    branch (.array items) = do return .and (← items.mapM ofJson) := by
  unfold branch
  dsimp only
  rw [startsWithList_iff.2 h]
  rfl

theorem branch_alone {j : Json} (h : ∀ items, j = .array items → ¬IsNested items) :
    branch j = ofJson j := by
  unfold branch
  split
  · next items =>
    rw [if_neg]
    rw [startsWithList_iff]
    exact h items rfl
  · rfl

end Condition

section

variable {items : List Json} {j : Json} {c : Condition}

theorem means_nested_iff (hn : IsNested items) :
    Means (.array items) c ↔ ∃ cs, List.Forall₂ MeansBranch items cs ∧ .or cs = c := by
  constructor
  · intro h
    cases h with
    | term ht => exact absurd hn ht.not_isNested
    | or _ hcs => exact ⟨_, hcs, rfl⟩
  · rintro ⟨cs, hcs, rfl⟩
    exact .or hn hcs

theorem means_flat_iff (hn : ¬IsNested items) :
    Means (.array items) c ↔ ∃ t, MeansTerm items t ∧ .term t = c := by
  constructor
  · intro h
    cases h with
    | term ht => exact ⟨_, ht, rfl⟩
    | or hn' => exact absurd hn' hn
  · rintro ⟨t, ht, rfl⟩
    exact .term ht

theorem meansBranch_nested_iff (hn : IsNested items) :
    MeansBranch (.array items) c ↔ ∃ cs, List.Forall₂ Means items cs ∧ .and cs = c := by
  constructor
  · intro h
    cases h with
    | and _ hcs => exact ⟨_, hcs, rfl⟩
    | alone hn' => exact absurd hn (hn' items rfl)
  · rintro ⟨cs, hcs, rfl⟩
    exact .and hn hcs

theorem meansBranch_alone_iff (hn : ∀ items, j = .array items → ¬IsNested items) :
    MeansBranch j c ↔ Means j c := by
  constructor
  · intro h
    cases h with
    | and hn' => exact absurd hn' (hn _ rfl)
    | alone _ h => exact h
  · exact .alone hn

theorem alone_of_flat (hn : ¬IsNested items) :
    ∀ items', Json.array items = .array items' → ¬IsNested items' := by
  rintro _ ⟨⟩
  exact hn

theorem alone_of_scalar (h : ∀ items, j ≠ .array items) :
    ∀ items, j = .array items → ¬IsNested items :=
  fun items hj => absurd hj (h items)

end

/-- What is read is what the value means, as a condition and as a branch. -/
theorem Condition.ofJson_eq_ok_iff (j : Json) :
    (∀ c, ofJson j = .ok c ↔ Means j c) ∧ ∀ c, branch j = .ok c ↔ MeansBranch j c := by
  induction j using Json.induction with
  | scalar j hj =>
    have halone := alone_of_scalar hj
    have hmeans : ∀ c, ofJson j = .ok c ↔ Means j c := by
      intro c
      cases j with
      | string s =>
        rw [ofJson]
        constructor
        · rintro ⟨⟩
          exact .text s
        · rintro ⟨⟩
          rfl
      | array items => exact absurd rfl (hj items)
      | null | bool | number | object =>
        rw [ofJson]
        · exact ⟨nofun, nofun⟩
        all_goals nofun
    refine ⟨hmeans, fun c => ?_⟩
    rw [branch_alone halone, meansBranch_alone_iff halone]
    exact hmeans c
  | array items ih =>
    by_cases hn : IsNested items
    · refine ⟨fun c => ?_, fun c => ?_⟩
      · rw [ofJson_nested hn, map_eq_ok_iff, means_nested_iff hn]
        simp only [mapM_eq_ok_iff, forall₂_congr_of_mem fun j hj => (ih j hj).2]
      · rw [branch_nested hn, map_eq_ok_iff, meansBranch_nested_iff hn]
        simp only [mapM_eq_ok_iff, forall₂_congr_of_mem fun j hj => (ih j hj).1]
    · have halone := alone_of_flat hn
      have hmeans : ∀ c, ofJson (.array items) = .ok c ↔ Means (.array items) c := by
        intro c
        rw [ofJson_flat hn, map_eq_ok_iff, means_flat_iff hn]
        simp only [Term.ofItems_eq_ok_iff]
      refine ⟨hmeans, fun c => ?_⟩
      rw [branch_alone halone, meansBranch_alone_iff halone]
      exact hmeans c

/-! ## Acceptance -/

section

variable {items : List Json}

theorem isCondition_nested_iff (hn : IsNested items) :
    IsCondition (.array items) ↔ ∀ j ∈ items, IsBranch j := by
  constructor
  · intro h
    cases h with
    | positional hp =>
      obtain ⟨t, ht⟩ := isPositional_iff.1 hp
      exact absurd hn ht.not_isNested
    | or _ h => exact h
  · exact .or hn

theorem isCondition_flat_iff (hn : ¬IsNested items) :
    IsCondition (.array items) ↔ IsPositional items := by
  constructor
  · intro h
    cases h with
    | positional hp => exact hp
    | or hn' => exact absurd hn' hn
  · exact .positional

end

/-- A branch is a condition like any other; only what it means may differ. -/
theorem isBranch_iff (j : Json) : IsBranch j ↔ IsCondition j := by
  induction j using Json.induction with
  | scalar j hj =>
    constructor
    · intro h
      cases h with
      | and => exact absurd rfl (hj _)
      | alone h => exact h
    · exact .alone
  | array items ih =>
    constructor
    · intro h
      cases h with
      | and hn h => exact .or hn fun j hj => .alone (h j hj)
      | alone h => exact h
    · exact .alone

/-- Something is said by the conditions, and by the same values as branches. -/
theorem exists_means_iff (j : Json) :
    ((∃ c, Means j c) ↔ IsCondition j) ∧ ((∃ c, MeansBranch j c) ↔ IsCondition j) := by
  induction j using Json.induction with
  | scalar j hj =>
    have hmeans : (∃ c, Means j c) ↔ IsCondition j := by
      constructor
      · rintro ⟨c, h⟩
        cases h with
        | text s => exact .text s
        | term | or => exact absurd rfl (hj _)
      · intro h
        cases h with
        | text s => exact ⟨_, .text s⟩
        | positional | or => exact absurd rfl (hj _)
    refine ⟨hmeans, ?_⟩
    simp only [meansBranch_alone_iff (alone_of_scalar hj)]
    exact hmeans
  | array items ih =>
    by_cases hn : IsNested items
    · have hbranches : (∃ cs, List.Forall₂ MeansBranch items cs) ↔ ∀ j ∈ items, IsCondition j := by
        rw [exists_forall₂_iff]
        exact forall₂_congr fun j hj => (ih j hj).2
      have hitems : (∃ cs, List.Forall₂ Means items cs) ↔ ∀ j ∈ items, IsCondition j := by
        rw [exists_forall₂_iff]
        exact forall₂_congr fun j hj => (ih j hj).1
      rw [isCondition_nested_iff hn]
      simp only [isBranch_iff, means_nested_iff hn, meansBranch_nested_iff hn]
      rw [exists_map_iff, exists_map_iff]
      exact ⟨hbranches, hitems⟩
    · have hmeans : (∃ c, Means (.array items) c) ↔ IsCondition (.array items) := by
        rw [isCondition_flat_iff hn, isPositional_iff]
        simp only [means_flat_iff hn]
        exact exists_map_iff
      refine ⟨hmeans, ?_⟩
      simp only [meansBranch_alone_iff (alone_of_flat hn)]
      exact hmeans

/-! ## Failures -/

/-- The only failures are those of form. -/
theorem Term.isOfForm_of_ofItems {items : List Json} {e : BuildError}
    (h : Term.ofItems items = .error e) : e.isOfForm = true := by
  unfold Term.ofItems at h
  split at h
  · cases h
    rfl
  cases items with
  | nil =>
    cases h
    rfl
  | cons first rest =>
    cases first with
    | string identifier =>
      rcases bind_eq_error_iff.1 h with h | ⟨escape, -, h⟩
      · generalize rest[2]?.getD .null = j at h
        cases j <;> cases h
        all_goals rfl
      · rcases Term.compared_cases identifier escape rest[0]? rest[1]? with
          ⟨op, v, -, hrun⟩ | ⟨j, k, -, -, -, -, -, hrun⟩
        · rw [hrun] at h
          cases h
        · rw [hrun] at h
          cases h
          rfl
    | null | bool | number | array | object =>
      cases h
      rfl

theorem Condition.isOfForm_of_ofJson (j : Json) :
    (∀ e, ofJson j = .error e → e.isOfForm = true) ∧
      ∀ e, branch j = .error e → e.isOfForm = true := by
  induction j using Json.induction with
  | scalar j hj =>
    rw [branch_alone (alone_of_scalar hj), and_self]
    intro e h
    cases j with
    | string s =>
      rw [ofJson] at h
      cases h
    | array items => exact absurd rfl (hj items)
    | null | bool | number | object =>
      rw [ofJson] at h
      · cases h
        rfl
      all_goals nofun
  | array items ih =>
    by_cases hn : IsNested items
    · rw [ofJson_nested hn, branch_nested hn]
      refine ⟨fun e h => ?_, fun e h => ?_⟩
      · obtain ⟨j, hj, hjf⟩ := exists_of_mapM_eq_error (map_eq_error_iff.1 h)
        exact (ih j hj).2 e hjf
      · obtain ⟨j, hj, hjf⟩ := exists_of_mapM_eq_error (map_eq_error_iff.1 h)
        exact (ih j hj).1 e hjf
    · rw [branch_alone (alone_of_flat hn), and_self, ofJson_flat hn]
      intro e h
      exact Term.isOfForm_of_ofItems (map_eq_error_iff.1 h)

/-! ## Trees -/

/-- A group that comes from a list that starts with a list has items, and if none of them has an
empty group, nor has it. -/
theorem anyEmptyGroup_of_forall₂ {R : Json → Condition → Prop} {items : List Json}
    {cs : List Condition} (hn : IsNested items) (hcs : List.Forall₂ R items cs)
    (h : ∀ j ∈ items, ∀ c, R j c → c.hasEmptyGroup = false) :
    (cs.isEmpty || Condition.anyEmptyGroup cs) = false := by
  obtain ⟨first, hfirst⟩ := hn
  have hne : cs.isEmpty = false := by
    cases hcs with
    | nil => cases hfirst
    | cons => rfl
  rw [hne, Bool.false_or, Condition.anyEmptyGroup_eq, List.any_eq_false]
  intro c hc
  obtain ⟨j, hj, hr⟩ := exists_mem_of_forall₂ hcs c hc
  rw [h j hj c hr]
  exact Bool.false_ne_true

theorem hasEmptyGroup_of_means (j : Json) :
    (∀ c, Means j c → c.hasEmptyGroup = false) ∧ ∀ c, MeansBranch j c → c.hasEmptyGroup = false := by
  induction j using Json.induction with
  | scalar j hj =>
    simp only [meansBranch_alone_iff (alone_of_scalar hj), and_self]
    intro c h
    cases h with
    | text s => simp only [Condition.hasEmptyGroup]
    | term | or => exact absurd rfl (hj _)
  | array items ih =>
    by_cases hn : IsNested items
    · refine ⟨fun c h => ?_, fun c h => ?_⟩
      · obtain ⟨cs, hcs, rfl⟩ := (means_nested_iff hn).1 h
        simp only [Condition.hasEmptyGroup]
        exact anyEmptyGroup_of_forall₂ hn hcs fun j hj => (ih j hj).2
      · obtain ⟨cs, hcs, rfl⟩ := (meansBranch_nested_iff hn).1 h
        simp only [Condition.hasEmptyGroup]
        exact anyEmptyGroup_of_forall₂ hn hcs fun j hj => (ih j hj).1
    · simp only [meansBranch_alone_iff (alone_of_flat hn), and_self]
      intro c h
      obtain ⟨t, -, rfl⟩ := (means_flat_iff hn).1 h
      simp only [Condition.hasEmptyGroup]

/-- Without empty groups only a blank identifier keeps a condition from being written. -/
theorem Condition.exists_text_error_iff {c : Condition} (h : c.hasEmptyGroup = false)
    (d : Dialect) :
    (∃ e, c.text d = .error e) ↔ ∃ t ∈ c.terms, Text.isBlankText t.identifier = true := by
  simp only [← failure?_eq_some_iff, c.failure?_text d]
  rw [← Option.isSome_iff_exists, c.flaw?_isSome_iff]
  unfold Faulty
  rw [h]
  simp

/-! ## Texts -/

theorem Term.parse_eq_ok_iff {text : String} {t : Term} :
    Term.parse text = .ok t ↔
      ∃ items, Json.parse? Json.depthLimit text = some (.array items) ∧ MeansTerm items t := by
  unfold Term.parse
  cases Json.parse? Json.depthLimit text with
  | none => exact ⟨nofun, fun ⟨items, h, _⟩ => nomatch h⟩
  | some j =>
    cases j with
    | array items =>
      simp only [Option.some.injEq, Json.array.injEq, exists_eq_left']
      exact Term.ofItems_eq_ok_iff
    | null | bool | number | string | object => exact ⟨nofun, fun ⟨items, h, _⟩ => nomatch h⟩

/-- **Reading conditions.**  The JSON values that are conditions are read, and nothing else is; what
is read is what the value means, and what is not has a fault of form.  It has no empty group, so it
can be written in a dialect unless the identifier of a term is blank.  A text is read as a term when
it is JSON for a positional list, and as the condition that this list is read as. -/
theorem ofJson_reads :
    (∀ j, ((∃ c, Condition.ofJson j = .ok c) ↔ IsCondition j) ∧
      (∀ c, Condition.ofJson j = .ok c ↔ Means j c) ∧
      ∀ e, Condition.ofJson j = .error e → e.isOfForm = true) ∧
    (∀ j c, Condition.ofJson j = .ok c → c.hasEmptyGroup = false ∧
      ∀ d, (∃ e, c.text d = .error e) ↔ ∃ t ∈ c.terms, Text.isBlankText t.identifier = true) ∧
    ∀ text, ((∃ t, Term.parse text = .ok t) ↔ ∃ items,
        Json.parse? Json.depthLimit text = some (.array items) ∧ IsPositional items) ∧
      ∀ t, Term.parse text = .ok t → ∃ items,
        Json.parse? Json.depthLimit text = some (.array items) ∧ MeansTerm items t ∧
          Condition.ofJson (.array items) = .ok (.term t) := by
  refine ⟨fun j => ?_, fun j c h => ?_, fun text => ?_⟩
  · obtain ⟨hok, -⟩ := Condition.ofJson_eq_ok_iff j
    refine ⟨?_, hok, (Condition.isOfForm_of_ofJson j).1⟩
    simp only [hok]
    exact (exists_means_iff j).1
  · have hmeans := ((Condition.ofJson_eq_ok_iff j).1 c).1 h
    have hfull := (hasEmptyGroup_of_means j).1 c hmeans
    exact ⟨hfull, fun d => Condition.exists_text_error_iff hfull d⟩
  · refine ⟨?_, fun t h => ?_⟩
    · simp only [Term.parse_eq_ok_iff, isPositional_iff]
      constructor
      · rintro ⟨t, items, hparse, ht⟩
        exact ⟨items, hparse, t, ht⟩
      · rintro ⟨items, hparse, t, ht⟩
        exact ⟨t, items, hparse, ht⟩
    · obtain ⟨items, hparse, ht⟩ := Term.parse_eq_ok_iff.1 h
      exact ⟨items, hparse, ht, ((Condition.ofJson_eq_ok_iff _).1 _).2 (.term ht)⟩

/-- An `OR` list with an `AND` list in it, a truth value, and the text of a term. -/
theorem ofJson_reads_grouped :
    let j : Json := .array
      [.array [.array [.string "a", .string "x"], .array [.string "b", .string "<>", .string "y"]],
        .string "c IS NULL"]
    let c : Condition := .or
      [.and [.eq "a" (.text "x"), .compare "b" "<>" (.text "y")], .raw "c IS NULL"]
    let t : Term := { identifier := "id", value := some (.text "x") }
    Condition.ofJson j = .ok c ∧ c.hasEmptyGroup = false ∧ (∀ d, ¬∃ e, c.text d = .error e) ∧
      Condition.ofJson (.bool true) = .error (.notACondition "true") ∧
      (BuildError.notACondition "true").isOfForm = true ∧
      Term.parse "[\"id\", \"x\"]" = .ok t ∧
      ∃ items, Json.parse? Json.depthLimit "[\"id\", \"x\"]" = some (.array items) ∧
        Condition.ofJson (.array items) = .ok (.term t) := by
  intro j c t
  have hread : Condition.ofJson j = .ok c := by rfl
  have hbool : Condition.ofJson (.bool true) = .error (.notACondition "true") := by rfl
  have hterm : Term.parse "[\"id\", \"x\"]" = .ok t := by cbv
  obtain ⟨hjson, htree, htext⟩ := ofJson_reads
  obtain ⟨hfull, hwritten⟩ := htree j c hread
  obtain ⟨items, hparse, -, hcondition⟩ := (htext _).2 t hterm
  refine ⟨hread, hfull, fun d => ?_, hbool, (hjson (.bool true)).2.2 _ hbool, hterm, items, hparse,
    hcondition⟩
  rw [hwritten d]
  decide +kernel

end SqlGateway
