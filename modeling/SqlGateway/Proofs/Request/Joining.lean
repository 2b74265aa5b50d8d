import SqlGateway.Proofs.Decimal.Text
import SqlGateway.Proofs.Dialect.Parts
import SqlGateway.Proofs.Request.Count
import SqlGateway.Proofs.Request.SmartJoin

/-!
# Names given call by call

A select is told its table, its alias and its joins one call after another.  A
join is fixed by the call that adds it: a smart join that is given no alias is
numbered by its place, and its condition names the entity as it is called then,
whatever it is called in the end.

    joins (named s calls) = joins s ++ (one for each call that joins, made on the request so far)

So the order of calls shows in the text as soon as a table or an alias comes
after a smart join.
-/

namespace SqlGateway

open Sql (equation? fieldParts)

variable {σ ε : Type}

/-! ## Algorithm -/

/-- What a smart join is asked for with. -/
structure SmartJoin where
  table : String
  tableAlias : Option String := none
  myField : Option String := none
  theirField : String
  mandatory : Bool

inductive Joining where
  | spec (j : JoinSpec)
  | smart (j : SmartJoin)

/-- A call that says what the entity is called, or joins a table to it. -/
inductive Naming where
  | aliased (name : String)
  | fromTable (table : String)
  | join (j : Joining)

namespace Joining

/-- The alias that the call comes with. -/
def tableAlias? : Joining → Option String
  | .spec j => some j.tableAlias
  | .smart j => j.tableAlias

/-- The join that the call adds to `s`. -/
def madeOn (s : Select ε) : Joining → JoinSpec
  | .spec j => j
  | .smart j => s.smartSpec j.table j.tableAlias j.myField j.theirField j.mandatory

end Joining

namespace Naming

def apply (s : Select ε) : Naming → Select ε
  | .aliased name => s.aliased name
  | .fromTable table => s.mapRequest fun r => r.fromTable table
  | .join (.spec j) => s.join (.spec j)
  | .join (.smart j) => s.joinSmart j.table j.tableAlias j.myField j.theirField j.mandatory

/-- A call that may change what the entity is called. -/
def isRenaming : Naming → Bool
  | .aliased _ | .fromTable _ => true
  | .join _ => false

end Naming

namespace Select

/-- One call after another. -/
def named (s : Select ε) (calls : List Naming) : Select ε :=
  calls.foldl Naming.apply s

/-- The calls that join, each with the request it was made on. -/
def joinings (s : Select ε) : List Naming → List (Select ε × Joining)
  | [] => []
  | .join j :: calls => (s, j) :: joinings ((Naming.join j).apply s) calls
  | call :: calls => joinings (call.apply s) calls

/-- The name by which a select reads its table. -/
def readName (s : Select ε) : String :=
  (s.options.tableAlias.bind Text.nonBlank?).getD ((s.options.table.bind Text.nonBlank?).getD "")

def withJoins (s : Select ε) (joins : List Join) : Select ε :=
  s.mapOptions fun o => { o with joins }

end Select

/-! ## Calls -/

section

variable (s : Select ε)

namespace Naming

theorem apply_join (j : Joining) : (Naming.join j).apply s = s.join (.spec (j.madeOn s)) := by
  cases j <;> rfl

theorem renaming_or_join (call : Naming) : call.isRenaming = true ∨ ∃ j, call = .join j := by
  cases call with
  | join j => exact .inr ⟨j, rfl⟩
  | _ => exact .inl rfl

theorem apply_kept (call : Naming) :
    (call.apply s).dialect = s.dialect ∧ (call.apply s).idField = s.idField := by
  cases call with
  | join j =>
    rw [apply_join]
    exact ⟨rfl, rfl⟩
  | _ => exact ⟨rfl, rfl⟩

theorem apply_joins {call : Naming} (h : call.isRenaming = true) :
    (call.apply s).options.joins = s.options.joins := by
  cases call with
  | join j => cases h
  | _ => rfl

theorem apply_withJoins {call : Naming} (h : call.isRenaming = true) (js : List Join) :
    call.apply (s.withJoins js) = (call.apply s).withJoins js := by
  cases call with
  | join j => cases h
  | _ => rfl

end Naming

theorem Joining.madeOn_tableAlias (j : Joining) :
    (j.madeOn s).tableAlias = j.tableAlias?.getD s.joinAlias := by
  cases j <;> rfl

/-- Of the joins before it, a join depends on their number only. -/
theorem Joining.madeOn_withJoins (j : Joining) {js js' : List Join} (h : js.length = js'.length) :
    j.madeOn (s.withJoins js) = j.madeOn (s.withJoins js') := by
  have halias : (s.withJoins js).joinAlias = (s.withJoins js').joinAlias :=
    congrArg (fun n => "j" ++ Decimal.ofNat (n + 1)) h
  cases j with
  | spec j => rfl
  | smart j =>
    simp only [madeOn, Select.smartSpec, halias]
    rfl

/-! ## Runs -/

namespace Select

theorem named_cons (call : Naming) (calls : List Naming) :
    s.named (call :: calls) = (call.apply s).named calls := rfl

theorem named_append (calls later : List Naming) :
    s.named (calls ++ later) = (s.named calls).named later :=
  List.foldl_append

theorem joinings_join (j : Joining) (calls : List Naming) :
    s.joinings (.join j :: calls) = (s, j) :: ((Naming.join j).apply s).joinings calls := rfl

theorem joinings_renaming {call : Naming} (h : call.isRenaming = true) (calls : List Naming) :
    s.joinings (call :: calls) = (call.apply s).joinings calls := by
  cases call with
  | join j => cases h
  | _ => rfl

/-- Each call that joins adds its join behind the others, and no call takes one away. -/
theorem named_joins (calls : List Naming) :
    (s.named calls).options.joins
      = s.options.joins ++ (s.joinings calls).map fun m => .spec (m.2.madeOn m.1) := by
  induction calls generalizing s with
  | nil => simp [named, joinings]
  | cons call calls ih =>
    rw [named_cons, ih]
    rcases call.renaming_or_join with hcall | ⟨j, rfl⟩
    · rw [joinings_renaming s hcall, Naming.apply_joins s hcall]
    · rw [joinings_join, Naming.apply_join, List.map_cons]
      exact List.append_assoc _ _ _

/-- The request that a join is made on has the joins before it. -/
theorem joinings_at {calls : List Naming} {i : Nat} {u : Select ε} {j : Joining}
    (h : (s.joinings calls)[i]? = some (u, j)) :
    u.options.joins.length = s.options.joins.length + i ∧ u.dialect = s.dialect ∧
      u.idField = s.idField := by
  induction calls generalizing s i with
  | nil => simp [joinings] at h
  | cons call calls ih =>
    obtain ⟨hdialect, hid⟩ := Naming.apply_kept s call
    rcases call.renaming_or_join with hcall | ⟨j', rfl⟩
    · rw [joinings_renaming s hcall] at h
      obtain ⟨hlength, hdialect', hid'⟩ := ih _ h
      rw [Naming.apply_joins s hcall] at hlength
      exact ⟨hlength, hdialect'.trans hdialect, hid'.trans hid⟩
    · rw [joinings_join] at h
      cases i with
      | zero =>
        cases h
        exact ⟨rfl, rfl, rfl⟩
      | succ i =>
        obtain ⟨hlength, hdialect', hid'⟩ := ih _ h
        refine ⟨?_, hdialect'.trans hdialect, hid'.trans hid⟩
        rw [hlength, Naming.apply_join]
        show (s.options.joins ++ [_]).length + i = _
        rw [List.length_append, List.length_singleton]
        omega

/-- Later calls leave the joins so far as they are, and make the same of all that are as many. -/
theorem named_withJoins (calls : List Naming) (js : List Join) :
    ∃ (t : Select ε) (later : List Join), ∀ js', js'.length = js.length →
      (s.withJoins js').named calls = t.withJoins (js' ++ later) := by
  induction calls generalizing s js with
  | nil => exact ⟨s, [], fun js' _ => by rw [List.append_nil]; rfl⟩
  | cons call calls ih =>
    rcases call.renaming_or_join with hcall | ⟨j, rfl⟩
    · obtain ⟨t, later, ht⟩ := ih (call.apply s) js
      refine ⟨t, later, fun js' hlength => ?_⟩
      rw [named_cons, Naming.apply_withJoins s hcall, ht js' hlength]
    · have hjoin : ∀ js', (Naming.join j).apply (s.withJoins js')
          = s.withJoins (js' ++ [.spec (j.madeOn (s.withJoins js'))]) := fun js' =>
        Naming.apply_join _ j
      obtain ⟨t, later, ht⟩ := ih s (js ++ [.spec (j.madeOn (s.withJoins js))])
      refine ⟨t, .spec (j.madeOn (s.withJoins js)) :: later, fun js' hlength => ?_⟩
      rw [named_cons, hjoin, ht _ (by simp [hlength]), j.madeOn_withJoins s hlength,
        List.append_assoc, List.singleton_append]

/-! ## Names -/

theorem numbered_inj {m n : Nat} (h : "j" ++ Decimal.ofNat m = "j" ++ Decimal.ofNat n) : m = n :=
  Decimal.ofNat_inj ((String.append_right_inj "j").1 h)

section

variable {s : Select ε} {calls : List Naming} {i : Nat} {u : Select ε} {j : Joining}

theorem joinings_alias (hnone : s.options.joins = []) (h : (s.joinings calls)[i]? = some (u, j)) :
    (j.madeOn u).tableAlias = j.tableAlias?.getD ("j" ++ Decimal.ofNat (i + 1)) := by
  have hlength := (joinings_at s h).1
  rw [hnone, List.length_nil, Nat.zero_add] at hlength
  rw [Joining.madeOn_tableAlias, joinAlias, hlength]

/-- Another join has the alias that a join was given by its place only where that was asked for. -/
theorem joinings_alias_eq_iff (hnone : s.options.joins = [])
    (h : (s.joinings calls)[i]? = some (u, j)) (hj : j.tableAlias? = none) {k : Nat}
    {u' : Select ε} {j' : Joining} (h' : (s.joinings calls)[k]? = some (u', j')) (hne : k ≠ i) :
    (j'.madeOn u').tableAlias = (j.madeOn u).tableAlias
      ↔ j'.tableAlias? = some ("j" ++ Decimal.ofNat (i + 1)) := by
  rw [joinings_alias hnone h, joinings_alias hnone h', hj, Option.getD_none]
  cases j'.tableAlias? with
  | some name => simp
  | none =>
    rw [Option.getD_none]
    refine ⟨fun heq => absurd (numbered_inj heq) (by omega), fun heq => nomatch heq⟩

/-- The condition of a smart join is on the entity as it was called when the join was made. -/
theorem joinings_condition {j : SmartJoin} (h : (s.joinings calls)[i]? = some (u, .smart j)) :
    equation? s.dialect ((Joining.smart j).madeOn u).condition
      = some (fieldParts s.dialect ((Joining.smart j).madeOn u).tableAlias j.theirField,
          fieldParts s.dialect u.entityName (j.myField.getD s.idField)) := by
  obtain ⟨-, hdialect, hid⟩ := joinings_at s h
  rw [← hdialect, ← hid]
  exact equation?_smartSpec u j.table j.tableAlias j.myField j.theirField j.mandatory

end

/-! ## Texts -/

theorem sql_iff (s : Select ε) (ch : Channel σ) (sql : String) :
    (s.sql.run ch).1 = .ok sql
      ↔ (s.resolved >>= s.dialect.renderSelect ch.session.idField) = .ok sql := by
  rw [← text_eq]
  exact ⟨text_of_run_sql ch, fun h => by rw [run_sql_of_text ch h]⟩

theorem resolved_withJoins (s : Select ε) (js : List Join) :
    (s.withJoins js).resolved = s.resolved >>= fun o => .ok { o with joins := js } :=
  s.resolved_mapOptions fun _ _ _ _ => rfl

theorem sql_around {s : Select ε} {ch : Channel σ} {js later : List Join} {j : JoinSpec}
    {sql : String} (h : ((s.withJoins (js ++ .spec j :: later)).sql.run ch).1 = .ok sql) :
    ∃ before after, ∀ j' : JoinSpec, ((s.withJoins (js ++ .spec j' :: later)).sql.run ch).1
      = .ok (before ++ s.dialect.joinText (.spec j') ++ after) := by
  rw [sql_iff, resolved_withJoins] at h
  obtain ⟨o, ho, hrender⟩ := bind_eq_ok_iff.1 h
  obtain ⟨o, hresolved, hjoins⟩ := bind_eq_ok_iff.1 ho
  cases hjoins
  obtain ⟨before, after, haround⟩ := Dialect.renderSelect_around hrender
  refine ⟨before, after, fun j' => ?_⟩
  rw [sql_iff, resolved_withJoins, hresolved]
  exact haround j'

/-! ## Exchange -/

section

variable {u v : Select ε}

/-- On requests with the same joins, a smart join is written alike when the entity is called
alike. -/
theorem joinText_smart_iff (d : Dialect) (j : SmartJoin) (hdialect : v.dialect = u.dialect)
    (hid : v.idField = u.idField) (hjoins : v.options.joins = u.options.joins) :
    d.joinText (.spec ((Joining.smart j).madeOn v))
        = d.joinText (.spec ((Joining.smart j).madeOn u))
      ↔ v.entityName = u.entityName := by
  have halias : v.joinAlias = u.joinAlias := by rw [joinAlias, joinAlias, hjoins]
  constructor
  · intro htext
    have hcondition : ((Joining.smart j).madeOn v).condition
        = ((Joining.smart j).madeOn u).condition := by
      simp only [Dialect.joinText, Joining.madeOn, smartSpec, halias] at htext
      have hbehind := (String.append_right_inj _).1 htext
      simpa only [Joining.madeOn, smartSpec, halias] using hbehind
    have hv := equation?_smartSpec v j.table j.tableAlias j.myField j.theirField j.mandatory
    have hu := equation?_smartSpec u j.table j.tableAlias j.myField j.theirField j.mandatory
    have hboth := hv.symm.trans (congrArg (equation? v.dialect) hcondition)
    rw [hdialect, hid] at hboth
    exact Sql.fieldParts_inj (Prod.mk.inj (Option.some.inj (hboth.trans hu))).2
  · intro hname
    simp only [Joining.madeOn, smartSpec, halias, hname, hdialect, hid]

/-- A call behind a smart join instead of in front of it leaves the text alone if and only if it
calls the entity what it is called already. -/
theorem sql_exchanged {u : Select ε} {ch : Channel σ} {call : Naming}
    (hcall : call.isRenaming = true) {j : SmartJoin} {after : List Naming} {sql : String}
    (h : ((u.named (call :: .join (.smart j) :: after)).sql.run ch).1 = .ok sql) :
    ((u.named (.join (.smart j) :: call :: after)).sql.run ch).1 = .ok sql
      ↔ (call.apply u).entityName = u.entityName := by
  have hjoins := Naming.apply_joins u hcall
  obtain ⟨hdialect, hid⟩ := Naming.apply_kept u call
  obtain ⟨t, later, ht⟩ := named_withJoins (call.apply u) after
    (u.options.joins ++ [.spec ((Joining.smart j).madeOn u)])
  have hmade : ∀ spec, ((call.apply u).withJoins (u.options.joins ++ [.spec spec])).named after
      = t.withJoins (u.options.joins ++ .spec spec :: later) := by
    intro spec
    rw [ht _ (by simp), List.append_assoc, List.singleton_append]
  have hfront : u.named (call :: .join (.smart j) :: after)
      = t.withJoins
        (u.options.joins ++ .spec ((Joining.smart j).madeOn (call.apply u)) :: later) := by
    rw [← hmade, named_cons, named_cons, Naming.apply_join, ← hjoins]
    rfl
  have hbehind : u.named (.join (.smart j) :: call :: after)
      = t.withJoins (u.options.joins ++ .spec ((Joining.smart j).madeOn u) :: later) := by
    rw [← hmade, named_cons, named_cons, Naming.apply_join]
    exact congrArg (named · after) (Naming.apply_withJoins u hcall _)
  rw [hfront] at h
  obtain ⟨before, after, haround⟩ := sql_around h
  have hsql := Except.ok.inj (h.symm.trans (haround _))
  rw [hbehind, haround, hsql, Except.ok.injEq, String.append_left_inj, String.append_right_inj,
    eq_comm]
  exact joinText_smart_iff t.dialect j hdialect hid hjoins

end

/-- **Names and the order of calls.**  Each call that joins adds one join, made from the request as
it is then.  An alias that comes from the place of a join is that of another join only where it was
given there.  A smart join compares with the name that the table is read by in the end only if the
entity was called so when it was made, and a call can change places with a smart join only if it
calls the entity nothing new. -/
theorem named_in_order (s : Select ε) (hnone : s.options.joins = []) (calls : List Naming) :
    (s.named calls).options.joins
      = (s.joinings calls).map (fun m => .spec (m.2.madeOn m.1)) ∧
    (∀ (i : Nat) (u : Select ε) (j : Joining), (s.joinings calls)[i]? = some (u, j) →
      j.tableAlias? = none →
        (j.madeOn u).tableAlias = "j" ++ Decimal.ofNat (i + 1) ∧
        ∀ (k : Nat) (u' : Select ε) (j' : Joining), (s.joinings calls)[k]? = some (u', j') → k ≠ i →
          ((j'.madeOn u').tableAlias = (j.madeOn u).tableAlias
            ↔ j'.tableAlias? = some ("j" ++ Decimal.ofNat (i + 1)))) ∧
    (∀ (i : Nat) (u : Select ε) (j : SmartJoin), (s.joinings calls)[i]? = some (u, .smart j) →
      equation? s.dialect ((Joining.smart j).madeOn u).condition
        = some (fieldParts s.dialect ((Joining.smart j).madeOn u).tableAlias j.theirField,
          fieldParts s.dialect u.entityName (j.myField.getD s.idField)) ∧
      (equation? s.dialect ((Joining.smart j).madeOn u).condition
          = some (fieldParts s.dialect ((Joining.smart j).madeOn u).tableAlias j.theirField,
            fieldParts s.dialect (s.named calls).readName (j.myField.getD s.idField))
        ↔ u.entityName = (s.named calls).readName)) ∧
    ∀ (before after : List Naming) (call : Naming) (j : SmartJoin),
      calls = before ++ call :: .join (.smart j) :: after → call.isRenaming = true →
      ∀ (ch : Channel σ) (sql : String), ((s.named calls).sql.run ch).1 = .ok sql →
        (((s.named (before ++ .join (.smart j) :: call :: after)).sql.run ch).1 = .ok sql
          ↔ (call.apply (s.named before)).entityName = (s.named before).entityName) := by
  refine ⟨?_, ?_, ?_, ?_⟩
  · rw [named_joins, hnone, List.nil_append]
  · intro i u j hi hj
    refine ⟨?_, fun k u' j' hk hne => joinings_alias_eq_iff hnone hi hj hk hne⟩
    rw [joinings_alias hnone hi, hj, Option.getD_none]
  · intro i u j hi
    have hread := joinings_condition hi
    refine ⟨hread, ?_⟩
    rw [hread]
    refine ⟨fun h => ?_, fun h => by rw [h]⟩
    exact Sql.fieldParts_inj (Prod.mk.inj (Option.some.inj h)).2
  · rintro before after call j rfl hcall ch sql hsql
    rw [named_append] at hsql ⊢
    exact sql_exchanged hcall hsql

/-- An alias that comes after the join: its condition is on the table, which the select does not
read by that name any more. -/
theorem named_in_order_users :
    let s : Select Row :=
      { dialect := .mysql, idField := "id", options := { table := some "users" } }
    let groups : SmartJoin :=
      { table := "groups", myField := some "group_id", theirField := "id", mandatory := true }
    let t := s.named [.join (.smart groups), .aliased "u"]
    s.options.joins = [] ∧ t.readName = "u" ∧
      ∃ j : JoinSpec, t.options.joins = [.spec j] ∧ j.tableAlias = "j1" ∧
        equation? .mysql j.condition = some (["j1", "id"], ["users", "group_id"]) := by
  intro s groups t
  obtain ⟨hjoins, halias, hcondition, -⟩ :=
    named_in_order (σ := Unit) s rfl [.join (.smart groups), .aliased "u"]
  have hname := (halias 0 s (.smart groups) rfl rfl).1
  refine ⟨rfl, by decide, _, hjoins, hname, ?_⟩
  have hread := (hcondition 0 s groups rfl).1
  have hparts : (fieldParts s.dialect ("j" ++ Decimal.ofNat (0 + 1)) "id",
      fieldParts s.dialect s.entityName "group_id") = (["j1", "id"], ["users", "group_id"]) := by
    decide
  rw [hname] at hread
  exact hread.trans (congrArg some hparts)

end Select

end

end SqlGateway
