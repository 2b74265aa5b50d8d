import SqlGateway.Condition.Basic

/-!
# What is wrong with a condition

A condition has a text unless a group in it is empty or a term in it has a
blank identifier.  Of several faults the leftmost counts, and an empty group is
a fault of its own.  No dialect comes into it.

    failure? (text d c) = flaw? c
    flaw? c = none   iff   no group of c is empty, and no term of c has a blank identifier
-/

namespace SqlGateway

/-! ## Failures -/

section

variable {ε α β : Type}

/-- What a result failed with, if it failed. -/
def failure? : Except ε α → Option ε
  | .ok _ => none
  | .error e => some e

theorem failure?_eq_some_iff {r : Except ε α} {e : ε} : failure? r = some e ↔ r = .error e := by
  cases r <;> simp [failure?]

/-- How a step ends that fails in one way, whatever it goes on with. -/
theorem failure?_bind {r : Except ε α} {f : α → Except ε β} {g : Option ε}
    (h : ∀ a, failure? (f a) = g) : failure? (r >>= f) = (failure? r).or g := by
  cases r with
  | ok a => exact h a
  | error e => rfl

/-- Two steps one after the other, and what is made of both. -/
theorem failure?_bind_bind {γ : Type} (r : Except ε α) (r' : Except ε β) (f : α → β → γ) :
    failure? (r >>= fun a => r' >>= fun b => .ok (f a b)) = (failure? r).or (failure? r') := by
  refine failure?_bind fun a => ?_
  cases r' <;> rfl

end

/-! ## Algorithm -/

def Term.flaw? (t : Term) : Option BuildError :=
  if Text.isBlankText t.identifier then some .blankIdentifier else none

namespace Condition

mutual

def flaw? : Condition → Option BuildError
  | .raw _ => none
  | .term t => t.flaw?
  | .or items => if items.isEmpty then some (.emptyGroup .or) else firstFlaw? items
  | .and items => if items.isEmpty then some (.emptyGroup .and) else firstFlaw? items

/-- The flaw of the first condition that has one. -/
def firstFlaw? : List Condition → Option BuildError
  | [] => none
  | c :: cs => (flaw? c).or (firstFlaw? cs)

end

mutual

/-- Every term, at any depth. -/
def terms : Condition → List Term
  | .raw _ => []
  | .term t => [t]
  | .or items | .and items => termsOf items

def termsOf : List Condition → List Term
  | [] => []
  | c :: cs => terms c ++ termsOf cs

end

mutual

/-- A group without items, at any depth. -/
def hasEmptyGroup : Condition → Bool
  | .raw _ | .term _ => false
  | .or items | .and items => items.isEmpty || anyEmptyGroup items

def anyEmptyGroup : List Condition → Bool
  | [] => false
  | c :: cs => hasEmptyGroup c || anyEmptyGroup cs

end

/-! ## Lemmas -/

theorem termsOf_eq (cs : List Condition) : termsOf cs = cs.flatMap terms := by
  induction cs with
  | nil => rfl
  | cons c cs ih => simp [termsOf, ih]

theorem anyEmptyGroup_eq (cs : List Condition) : anyEmptyGroup cs = cs.any hasEmptyGroup := by
  induction cs with
  | nil => rfl
  | cons c cs ih => simp [anyEmptyGroup, ih]

end Condition

theorem Term.failure?_text (t : Term) (d : Dialect) : failure? (t.text d) = t.flaw? := by
  unfold text flaw?
  by_cases h : Text.isBlankText t.identifier
  · simp only [h, if_true]
    rfl
  · simp only [h]
    cases t.comparison? <;> rfl

namespace Condition

mutual

theorem failure?_text (d : Dialect) (c : Condition) : failure? (text d c) = flaw? c := by
  cases c with
  | raw sql => simp only [text, flaw?, failure?]
  | term t =>
    simp only [text, flaw?]
    exact t.failure?_text d
  | or items =>
    cases items with
    | nil => simp [text, flaw?, failure?]
    | cons c cs =>
      simp only [text, flaw?, List.isEmpty_cons, Bool.false_eq_true, if_false, firstFlaw?]
      rw [← failure?_text d c, ← failure?_texts d cs]
      exact failure?_bind_bind _ _ _
  | and items =>
    cases items with
    | nil => simp [text, flaw?, failure?]
    | cons c cs =>
      simp only [text, flaw?, List.isEmpty_cons, Bool.false_eq_true, if_false, firstFlaw?]
      rw [← failure?_text d c, ← failure?_texts d cs]
      exact failure?_bind_bind _ _ _

theorem failure?_texts (d : Dialect) (cs : List Condition) :
    failure? (texts d cs) = firstFlaw? cs := by
  cases cs with
  | nil => simp only [texts, firstFlaw?, failure?]
  | cons c cs =>
    simp only [texts, firstFlaw?]
    rw [← failure?_text d c, ← failure?_texts d cs]
    exact failure?_bind_bind _ _ _

end

/-- The two faults that a condition can have. -/
def Faulty (c : Condition) : Prop :=
  c.hasEmptyGroup = true ∨ ∃ t ∈ c.terms, Text.isBlankText t.identifier = true

/-- A group is faulty when it is empty or has a faulty item. -/
theorem faulty_group_iff {c : Condition} (items : List Condition)
    (hterms : c.terms = termsOf items)
    (hempty : c.hasEmptyGroup = (items.isEmpty || anyEmptyGroup items)) :
    Faulty c ↔ items = [] ∨ ∃ c' ∈ items, Faulty c' := by
  unfold Faulty
  rw [hterms, hempty, termsOf_eq, anyEmptyGroup_eq]
  simp only [Bool.or_eq_true, List.isEmpty_iff, List.any_eq_true, List.mem_flatMap]
  constructor
  · rintro ((h | ⟨c', hc', h⟩) | ⟨t, ⟨c', hc', ht⟩, h⟩)
    · exact .inl h
    · exact .inr ⟨c', hc', .inl h⟩
    · exact .inr ⟨c', hc', .inr ⟨t, ht, h⟩⟩
  · rintro (h | ⟨c', hc', h | ⟨t, ht, h⟩⟩)
    · exact .inl (.inl h)
    · exact .inl (.inr ⟨c', hc', h⟩)
    · exact .inr ⟨t, ⟨c', hc', ht⟩, h⟩

mutual

theorem flaw?_isSome_iff (c : Condition) : (flaw? c).isSome = true ↔ Faulty c := by
  cases c with
  | raw sql => simp [flaw?, Faulty, hasEmptyGroup, terms]
  | term t =>
    simp only [flaw?, Term.flaw?, Faulty, hasEmptyGroup, terms, List.mem_singleton, exists_eq_left]
    split <;> simp_all
  | or items =>
    rw [faulty_group_iff items (by simp [terms]) (by simp [hasEmptyGroup]),
      ← firstFlaw?_isSome_iff items]
    cases items <;> simp [flaw?]
  | and items =>
    rw [faulty_group_iff items (by simp [terms]) (by simp [hasEmptyGroup]),
      ← firstFlaw?_isSome_iff items]
    cases items <;> simp [flaw?]

theorem firstFlaw?_isSome_iff (cs : List Condition) :
    (firstFlaw? cs).isSome = true ↔ ∃ c ∈ cs, Faulty c := by
  cases cs with
  | nil => simp [firstFlaw?]
  | cons c cs =>
    simp only [firstFlaw?, Option.isSome_or, Bool.or_eq_true, List.mem_cons, exists_eq_or_imp]
    exact or_congr (flaw?_isSome_iff c) (firstFlaw?_isSome_iff cs)

end

/-- Only a fault keeps a condition from having a text. -/
theorem exists_text_iff (c : Condition) (d : Dialect) : (∃ s, text d c = .ok s) ↔ ¬ Faulty c := by
  rw [← flaw?_isSome_iff, ← failure?_text d c]
  cases text d c <;> simp [failure?]

end Condition

end SqlGateway
