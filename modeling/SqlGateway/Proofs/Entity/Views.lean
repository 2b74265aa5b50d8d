import Mathlib.Data.List.Induction
import SqlGateway.Entity.Field
import SqlGateway.Entity.Repository

/-!
# Two views of a row

A cell is looked up by the name of its column, or it is a member of the JSON
object of its row.  A name that the cells share stands for the first of them in
the one view, and for the last in the other.  A repository files an object by
the first view, and the fields of the object are read from the second.

    get? r c = the first cell named c
    member c of toJson r = the last cell named c
-/

namespace SqlGateway

variable {ε : Type}

/-! ## Algorithm -/

namespace Row

/-- The cells of a name, in order. -/
def named (r : Row) (column : String) : List Value :=
  (r.cells.filter fun cell => cell.1 == column).map (·.2)

/-- The member of a name in the JSON object of the row. -/
def member? (r : Row) (column : String) : Option Json :=
  match r.toJson with
  | .object members => Keyed.find? column members
  | _ => none

end Row

/-- A field of an entity as a key would spell it. -/
def Scalar.spelled : Scalar → String
  | .int i => Decimal.ofInt i
  | .text s => s
  | .bool b => boolText b

/-! ## Members -/

namespace Keyed

variable {α : Type}

theorem ofList_concat (entries : List (String × α)) (e : String × α) :
    ofList (entries ++ [e]) = insert e.1 e.2 (ofList entries) := by
  unfold ofList
  rw [List.foldl_append]
  rfl

/-- The last entry of a key counts. -/
theorem find?_ofList (key : String) (entries : List (String × α)) :
    find? key (ofList entries) = ((entries.filter fun e => e.1 == key).map (·.2)).getLast? := by
  induction entries using List.reverseRecOn with
  | nil => rfl
  | append_singleton entries e ih =>
    rw [ofList_concat, find?_insert, List.filter_append, List.map_append, ih]
    by_cases h : key = e.1
    · subst h
      simp
    · simp [h, Ne.symm h]

end Keyed

namespace Row

theorem named_ne_nil {r : Row} {c : String} (h : c ∈ r.columns) : r.named c ≠ [] := by
  obtain ⟨cell, hcell, rfl⟩ := List.mem_map.1 h
  intro hnil
  have hmem : cell ∈ r.cells.filter fun d => d.1 == cell.1 :=
    List.mem_filter.2 ⟨hcell, beq_self_eq_true _⟩
  rw [List.map_eq_nil_iff.1 hnil] at hmem
  cases hmem

theorem length_named (r : Row) (c : String) : (r.named c).length = r.columns.count c := by
  rw [named, columns, List.length_map, List.count, List.countP_map, List.countP_eq_length_filter]
  rfl

/-- A column that the row has is not looked up by the case of its letters. -/
theorem get?_of_mem {r : Row} {c : String} (h : c ∈ r.columns) : r.get? c = (r.named c).head? := by
  obtain ⟨cell, hcell, rfl⟩ := List.mem_map.1 h
  rw [named, List.head?_map, List.head?_filter]
  unfold get?
  cases hfind : r.cells.find? fun d => d.1 == cell.1 with
  | some d => rfl
  | none => simpa using List.find?_eq_none.1 hfind cell hcell

theorem member?_eq (r : Row) (c : String) :
    r.member? c = ((r.named c).map Value.toJson).getLast? := by
  show Keyed.find? c (Keyed.ofList (r.cells.map fun cell => (cell.1, cell.2.toJson))) = _
  rw [Keyed.find?_ofList, named, List.filter_map, List.map_map, List.map_map]
  rfl

end Row

/-! ## Fields -/

namespace Field

/-- Members that no field names are passed over, and each other one is read by its field. -/
theorem find?_readMembers {fields : List Field} {members : Keyed Json}
    {values : Keyed (Option Scalar)} (h : readMembers fields members = .ok values) {f : Field}
    {name : String} (hf : fields.find? (fun g => g.name == name) = some f) :
    match Keyed.find? name members with
    | none => Keyed.find? name values = none
    | some j => ∃ value, f.read j = .ok value ∧ Keyed.find? name values = some value := by
  induction members generalizing values with
  | nil =>
    cases h
    rfl
  | cons m rest ih =>
    obtain ⟨k, j⟩ := m
    unfold readMembers at h
    cases hk : fields.find? (fun g => g.name == k) with
    | none =>
      have hne : name ≠ k := by
        rintro rfl
        cases hk.symm.trans hf
      rw [hk] at h
      have hrest := ih h
      simpa only [Keyed.find?, if_neg hne] using hrest
    | some g =>
      rw [hk] at h
      cases hread : g.read j with
      | error e =>
        simp only [hread] at h
        cases h
      | ok value =>
        cases hvalues : readMembers fields rest with
        | error e =>
          simp only [hread, hvalues] at h
          cases h
        | ok values' =>
          simp only [hread, hvalues] at h
          cases h
          have hrest := ih hvalues
          by_cases hne : name = k
          · subst hne
            cases hk.symm.trans hf
            simp only [Keyed.find?, if_true]
            exact ⟨value, hread, rfl⟩
          · simpa only [Keyed.find?, if_neg hne] using hrest

/-- A field that no member was read for has no value, and may have none. -/
theorem collect_eq {values : Keyed (Option Scalar)} {fields : List Field}
    {items : List (Option Scalar)} (h : collect values fields = .ok items) :
    items = fields.map (fun f => (Keyed.find? f.name values).getD none) ∧
      ∀ f ∈ fields, Keyed.find? f.name values = none → f.required = false := by
  induction fields generalizing items with
  | nil =>
    cases h
    exact ⟨rfl, nofun⟩
  | cons f rest ih =>
    unfold collect at h
    cases hrest : collect values rest with
    | error e =>
      cases hfind : Keyed.find? f.name values <;> cases hr : f.required <;>
        simp only [hfind, hr, hrest] at h <;> cases h
    | ok items' =>
      obtain ⟨hitems, hrequired⟩ := ih hrest
      rw [List.map_cons, List.forall_mem_cons, ← hitems]
      cases hfind : Keyed.find? f.name values with
      | some value =>
        simp only [hfind, hrest] at h
        cases h
        exact ⟨rfl, nofun, hrequired⟩
      | none =>
        cases hr : f.required with
        | true =>
          simp only [hfind, hr] at h
          cases h
        | false =>
          simp only [hfind, hr, hrest] at h
          cases h
          exact ⟨rfl, fun _ => rfl, hrequired⟩

/-- The field of a column is read from the last cell of that name; without one it has no value,
and may have none. -/
theorem read_of_ofRow {name : String} {fields : List Field} {row : Row}
    {items : List (Option Scalar)} (h : ofRow name fields row = .ok items) {f : Field} {c : String}
    (hf : fields.find? (fun g => g.name == c) = some f) :
    ∃ id, (f, id) ∈ fields.zip items ∧ match (row.named c).getLast? with
      | some v => f.read v.toJson = .ok id
      | none => id = none ∧ f.required = false := by
  have hmember := row.member?_eq c
  rw [List.getLast?_map] at hmember
  change Keyed.find? c (Keyed.ofList (row.cells.map fun cell => (cell.1, cell.2.toJson))) = _
    at hmember
  unfold ofRow at h
  generalize Keyed.ofList (row.cells.map fun cell => (cell.1, cell.2.toJson)) = members
    at h hmember
  cases hdecode : decode fields members with
  | error e =>
    rw [hdecode] at h
    cases h
  | ok items' =>
    rw [hdecode] at h
    cases h
    unfold decode at hdecode
    cases hread : readMembers fields members with
    | error e =>
      rw [hread] at hdecode
      cases hdecode
    | ok values =>
      rw [hread] at hdecode
      obtain ⟨hitems, hrequired⟩ := collect_eq hdecode
      have hvalue := find?_readMembers hread hf
      have hname : f.name = c := by simpa using List.find?_some hf
      have hmem : f ∈ fields := List.mem_of_find?_eq_some hf
      refine ⟨(Keyed.find? f.name values).getD none, ?_, ?_⟩
      · rw [hitems, ← List.map_prod_left_eq_zip, List.mem_map]
        exact ⟨f, hmem, rfl⟩
      · rw [hmember] at hvalue
        cases hlast : (row.named c).getLast? with
        | some v =>
          simp only [hlast, Option.map_some] at hvalue
          obtain ⟨value, hok, hfind⟩ := hvalue
          rw [hname, hfind]
          exact hok
        | none =>
          simp only [hlast, Option.map_none] at hvalue
          rw [hname, hvalue]
          exact ⟨rfl, hrequired f hmem (hname ▸ hvalue)⟩

end Field

/-! ## Spelling -/

theorem Field.read_eq_some {f : Field} {j : Json} {s : Scalar} (h : f.read j = .ok (some s)) :
    (∃ i, j = .int i ∧ s = .int i) ∨ (∃ t, j = .string t ∧ s = .text t) ∨
      ∃ b, j = .bool b ∧ s = .bool b := by
  unfold read at h
  split at h
  · split at h
    · cases h
      exact .inl ⟨_, rfl, rfl⟩
    · cases h
  · cases h
    exact .inr (.inl ⟨_, rfl, rfl⟩)
  · cases h
    exact .inr (.inr ⟨_, rfl, rfl⟩)
  · split at h <;> cases h
  · cases h

/-- What is read from the JSON of a cell spells the cell, unless the cell holds JSON itself. -/
theorem Field.spelled_of_read {f : Field} {v : Value} {s : Scalar} (hjson : ∀ j, v ≠ .json j)
    (h : f.read v.toJson = .ok (some s)) : v.display = s.spelled := by
  cases v with
  | json j => exact absurd rfl (hjson j)
  | float x =>
    have hfloat : Value.floatJson x = .number (.float x) ∨ Value.floatJson x = .null := by
      unfold Value.floatJson
      split
      · exact .inl rfl
      · exact .inr rfl
    rcases hfloat with hx | hx <;>
      rcases read_eq_some h with ⟨i, hj, -⟩ | ⟨t, hj, -⟩ | ⟨b, hj, -⟩ <;>
      cases hx.symm.trans hj
  | _ =>
    rcases read_eq_some h with ⟨i, hj, rfl⟩ | ⟨t, hj, rfl⟩ | ⟨b, hj, rfl⟩ <;> cases hj <;> rfl

/-! ## The two views -/

namespace Row

/-- What a row shows under the name of a column, of whose cells these are the first and the
last. -/
structure Shows (row : Row) (c : String) (first last : Value) : Prop where
  head : (row.named c).head? = some first
  getLast : (row.named c).getLast? = some last
  get : row.get? c = some first
  member : row.member? c = some last.toJson
  agree_iff : row.member? c = (row.get? c).map Value.toJson ↔ last.toJson = first.toJson
  once : row.columns.count c = 1 → last = first

/-- The key of a row and the id of its object, where these are the first and the last cell of the
id column. -/
structure Files (row : Row) (first last : Value) (r : Repository ε) : Prop where
  key : r.keyOf? row = if first.isNull then none else some first.display
  id : ∀ name fields f items, fields.find? (fun g => g.name == r.idField) = some f →
    Field.ofRow name fields row = .ok items →
    ∃ id, (f, id) ∈ fields.zip items ∧ f.read last.toJson = .ok id
  /-- The id is spelled as the key is, but for what JSON quotes. -/
  spelled : ∀ (f : Field) s, first = last → (∀ j, first ≠ .json j) →
    f.read last.toJson = .ok (some s) → r.keyOf? row = some s.spelled

theorem shows_of_mem {row : Row} {c : String} (hc : c ∈ row.columns) :
    ∃ first last, row.Shows c first last := by
  have hne := named_ne_nil hc
  obtain ⟨first, hfirst⟩ := Option.isSome_iff_exists.1 (List.isSome_head?.2 hne)
  obtain ⟨last, hlast⟩ := Option.isSome_iff_exists.1 (List.getLast?_isSome.2 hne)
  have hget : row.get? c = some first := (get?_of_mem hc).trans hfirst
  have hmember : row.member? c = some last.toJson := by
    rw [member?_eq, List.getLast?_map, hlast]
    rfl
  refine ⟨first, last, hfirst, hlast, hget, hmember, ?_, ?_⟩
  · rw [hget, hmember, Option.map_some, Option.some_inj]
  · intro hcount
    rw [← length_named] at hcount
    obtain ⟨v, hv⟩ := List.length_eq_one_iff.1 hcount
    rw [hv] at hfirst hlast
    cases hfirst
    cases hlast
    rfl

theorem Shows.files {row : Row} {r : Repository ε} {first last : Value}
    (h : row.Shows r.idField first last) : row.Files first last r := by
  have hkey : r.keyOf? row = if first.isNull then none else some first.display := by
    unfold Repository.keyOf?
    rw [h.get]
    cases hnull : first.isNull <;> simp [hnull]
  refine ⟨hkey, ?_, ?_⟩
  · intro name fields f items hf hok
    obtain ⟨id, hid, hread⟩ := Field.read_of_ofRow hok hf
    rw [h.getLast] at hread
    exact ⟨id, hid, hread⟩
  · rintro f s rfl hjson hread
    have hnull : first.isNull = false := by
      cases first with
      | null => rcases Field.read_eq_some hread with ⟨_, h, -⟩ | ⟨_, h, -⟩ | ⟨_, h, -⟩ <;> cases h
      | _ => rfl
    rw [hkey, hnull, Field.spelled_of_read hjson hread]
    rfl

/-- **Two views of a row.**  Under the name of a column, the first cell is looked up and the last
is the member: the views agree just when these two have one JSON, as they do where the name is
not repeated.  An object is filed under the key of the first and has the id of the last.  A name
that no column has is no member, and no id. -/
theorem views_of_cells (row : Row) (c : String) :
    (c ∈ row.columns → ∃ first last, row.Shows c first last ∧
      ∀ r : Repository ε, r.idField = c → row.Files first last r) ∧
    (c ∉ row.columns → row.member? c = none ∧
      ∀ name fields f items, fields.find? (fun g => g.name == c) = some f →
        Field.ofRow name fields row = .ok items → (f, none) ∈ fields.zip items ∧
          f.required = false) := by
  constructor
  · intro hc
    obtain ⟨first, last, h⟩ := shows_of_mem hc
    refine ⟨first, last, h, ?_⟩
    rintro r rfl
    exact h.files
  · intro hc
    have hnil : row.named c = [] := by
      rw [← List.length_eq_zero_iff, length_named, List.count_eq_zero]
      exact hc
    refine ⟨?_, ?_⟩
    · rw [member?_eq, hnil]
      rfl
    · intro name fields f items hf hok
      obtain ⟨id, hid, hread⟩ := Field.read_of_ofRow hok hf
      rw [hnil] at hread
      obtain ⟨rfl, hrequired⟩ := hread
      exact ⟨hid, hrequired⟩

/-- Of a joined row with two ids, the first is the key and the last the id of the object. -/
theorem views_of_joined_ids :
    let row : Row := ⟨[("id", .int 1), ("name", .text "ann"), ("id", .int 2)]⟩
    "id" ∈ row.columns ∧ row.get? "id" = some (.int 1) ∧ row.member? "id" = some (.int 2) ∧
      ∃ first last, row.Shows "id" first last ∧
        ∀ r : Repository Unit, r.idField = "id" → row.Files first last r := by
  intro row
  have hc : "id" ∈ row.columns := by simp [row, columns]
  exact ⟨hc, by rfl, by rfl, (views_of_cells row "id").1 hc⟩

end Row

end SqlGateway
