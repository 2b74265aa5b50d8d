import SqlGateway.Proofs.Session.Operation

/-!
# Layers of options

An option is given or left open, and a list is left open when it has no items.
Of two records laid one on the other, each option is what the upper one gives,
else what the lower one gives.  What a record gives under every name is all of
it, so the laws of layers are the laws of `Option.or`, name by name.

    given? n (a.layeredOver b) = (given? n a).or (given? n b)
    a = b                        iff   given? n a = given? n b for every name n
    perform d kind (a.layeredOver (defaults kind)) = perform d kind a
-/

namespace SqlGateway

/-! ## Algorithm -/

inductive OptionName where
  | table
  | what
  | conditions
  | joins
  | orderBy
  | groupBy
  | having
  | number
  | offset
  | distinct
  | tableAlias
  | output
  | idField
  | lowPriority
  | ignore
  | quick
  | delayed
  | into
  | only
  deriving DecidableEq, Repr

/-- What an option holds when it is given. -/
def OptionName.Content : OptionName → Type
  | .table | .orderBy | .groupBy | .tableAlias | .idField => String
  | .what => Fields
  | .conditions | .having => List String
  | .joins => List Join
  | .number | .offset => Int
  | .output => OutputMode
  | .distinct | .lowPriority | .ignore | .quick | .delayed | .into | .only => Bool

namespace QueryOptions

/-- A list without items is not given. -/
def listed? {α : Type} (xs : List α) : Option (List α) :=
  if xs.isEmpty then none else some xs

/-- What is given under a name. -/
def given? (o : QueryOptions) : (name : OptionName) → Option name.Content
  | .table => o.table
  | .what => o.what
  | .conditions => listed? o.conditions
  | .joins => listed? o.joins
  | .orderBy => o.orderBy
  | .groupBy => o.groupBy
  | .having => listed? o.having
  | .number => o.number
  | .offset => o.offset
  | .distinct => o.distinct
  | .tableAlias => o.tableAlias
  | .output => o.output
  | .idField => o.idField
  | .lowPriority => o.lowPriority
  | .ignore => o.ignore
  | .quick => o.quick
  | .delayed => o.delayed
  | .into => o.into
  | .only => o.only

/-! ## What is given -/

section

variable {α : Type}

theorem listed?_inj {xs ys : List α} (h : listed? xs = listed? ys) : xs = ys := by
  cases xs with
  | nil =>
    cases ys with
    | nil => rfl
    | cons y ys => cases h
  | cons x xs =>
    cases ys with
    | nil => cases h
    | cons y ys => exact Option.some.inj h

theorem listed?_listOver (mine theirs : List α) :
    listed? (listOver mine theirs) = (listed? mine).or (listed? theirs) := by
  cases mine <;> rfl

end

theorem eq_iff_given? (a b : QueryOptions) : a = b ↔ ∀ name, a.given? name = b.given? name := by
  constructor
  · rintro rfl name
    rfl
  · intro h
    have hconditions : a.conditions = b.conditions := listed?_inj (h .conditions)
    have hjoins : a.joins = b.joins := listed?_inj (h .joins)
    have hhaving : a.having = b.having := listed?_inj (h .having)
    cases a
    cases b
    simp only at hconditions hjoins hhaving
    subst hconditions hjoins hhaving
    rw [QueryOptions.mk.injEq]
    exact ⟨h .table, h .what, rfl, rfl, h .orderBy, h .groupBy, rfl, h .number, h .offset,
      h .distinct, h .tableAlias, h .output, h .idField, h .lowPriority, h .ignore, h .quick,
      h .delayed, h .into, h .only⟩

theorem given?_empty (name : OptionName) : given? {} name = none := by
  cases name <;> rfl

/-- The upper layer counts where it gives anything. -/
theorem given?_layeredOver (a b : QueryOptions) (name : OptionName) :
    (a.layeredOver b).given? name = (a.given? name).or (b.given? name) := by
  cases name with
  | conditions => exact listed?_listOver a.conditions b.conditions
  | joins => exact listed?_listOver a.joins b.joins
  | having => exact listed?_listOver a.having b.having
  | _ => exact Option.orElse_eq_or ..

/-! ## Laws -/

theorem layeredOver_assoc (a b c : QueryOptions) :
    (a.layeredOver b).layeredOver c = a.layeredOver (b.layeredOver c) := by
  rw [eq_iff_given?]
  intro name
  simp only [given?_layeredOver, Option.or_assoc]

theorem empty_layeredOver (a : QueryOptions) : QueryOptions.layeredOver {} a = a := by
  rw [eq_iff_given?]
  intro name
  rw [given?_layeredOver, given?_empty, Option.none_or]

theorem layeredOver_empty (a : QueryOptions) : a.layeredOver {} = a := by
  rw [eq_iff_given?]
  intro name
  rw [given?_layeredOver, given?_empty, Option.or_none]

theorem layeredOver_self (a : QueryOptions) : a.layeredOver a = a := by
  rw [eq_iff_given?]
  intro name
  rw [given?_layeredOver, Option.or_self]

/-- A layer that lies below already adds nothing. -/
theorem layeredOver_twice (a b : QueryOptions) :
    (a.layeredOver b).layeredOver b = a.layeredOver b := by
  rw [layeredOver_assoc, layeredOver_self]

theorem laid_layeredOver (kind : QueryKind) (o : QueryOptions) :
    (o.layeredOver (.defaults kind)).laid kind = o.laid kind := by
  unfold laid
  rw [layeredOver_twice]

end QueryOptions

namespace Dialect

theorem text_layeredOver (d : Dialect) (kind : QueryKind) (idField : String) (o : QueryOptions) :
    d.text kind idField (o.layeredOver (.defaults kind)) = d.text kind idField o := by
  unfold text
  rw [QueryOptions.laid_layeredOver]

variable {σ : Type}

theorem perform_layeredOver (d : Dialect) (kind : QueryKind) (o : QueryOptions) :
    (d.perform kind (o.layeredOver (.defaults kind)) : SessionM σ Output) = d.perform kind o := by
  have hcommand : ∀ kind, (d.command kind (o.layeredOver (.defaults kind)) : SessionM σ Output)
      = d.command kind o := by
    intro kind
    unfold command
    rw [QueryOptions.layeredOver_twice]
  cases kind with
  | select =>
    show d.select _ = d.select o
    unfold select
    rw [QueryOptions.layeredOver_twice]
  | update | insert | delete => exact hcommand _

end Dialect

/-- **Layers.**  Under every name a record gives what the first of its layers gives that gives
anything, and so it does not matter how the layers are grouped, whether empty ones are among them
and whether one lies there twice.  An operation lays its options on the defaults of its kind: for
options that lie on them already it does the same, with the same text. -/
theorem QueryOptions.layers (σ : Type) :
    (∀ a b : QueryOptions, a = b ↔ ∀ name, a.given? name = b.given? name) ∧
    (∀ (a b : QueryOptions) (name : OptionName),
      (a.layeredOver b).given? name = (a.given? name).or (b.given? name)) ∧
    (∀ a b c : QueryOptions,
      (a.layeredOver b).layeredOver c = a.layeredOver (b.layeredOver c)) ∧
    (∀ a : QueryOptions,
      layeredOver {} a = a ∧ a.layeredOver {} = a ∧ a.layeredOver a = a) ∧
    ∀ (d : Dialect) (kind : QueryKind) (a : QueryOptions),
      (d.perform kind (a.layeredOver (.defaults kind)) : SessionM σ Output) = d.perform kind a ∧
        ∀ idField, d.text kind idField (a.layeredOver (.defaults kind)) = d.text kind idField a := by
  refine ⟨eq_iff_given?, given?_layeredOver, layeredOver_assoc, ?_, ?_⟩
  · intro a
    exact ⟨empty_layeredOver a, layeredOver_empty a, layeredOver_self a⟩
  · intro d kind a
    exact ⟨d.perform_layeredOver kind a, fun idField => d.text_layeredOver kind idField a⟩

end SqlGateway
