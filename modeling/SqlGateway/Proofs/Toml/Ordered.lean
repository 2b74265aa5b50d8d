import Mathlib.Data.Option.Basic
import SqlGateway.Proofs.Keyed.Ordered
import SqlGateway.Toml.Parser

/-!
# Documents in order

Every table of a document that can be read has its entries in the order of
their keys, one entry a key, at every depth.  Tables under construction keep to
this from one line to the next.

    parse? s = some entries  →  Ordered (.table entries)
-/

namespace SqlGateway.Toml

/-- All tables inside have their entries in order. -/
inductive Ordered : Toml → Prop where
  | string (s : String) : Ordered (.string s)
  | int (i : Int) : Ordered (.int i)
  | float (x : Float) : Ordered (.float x)
  | bool (b : Bool) : Ordered (.bool b)
  | datetime (t : Datetime) : Ordered (.datetime t)
  | array {items : List Toml} (h : ∀ v ∈ items, Ordered v) : Ordered (.array items)
  | table {entries : Keyed Toml} (hkeys : entries.Ordered) (h : ∀ e ∈ entries, Ordered e.2) :
      Ordered (.table entries)

inductive Node.Ordered : Node → Prop where
  | leaf {v : Toml} (h : v.Ordered) : Ordered (.leaf v)
  | table {implied dotted : Bool} {entries : Keyed Node} (hkeys : entries.Ordered)
      (h : ∀ e ∈ entries, Ordered e.2) : Ordered (.table implied dotted entries)
  | tables {items : List (Keyed Node)} (hkeys : ∀ es ∈ items, es.Ordered)
      (h : ∀ es ∈ items, ∀ e ∈ es, Ordered e.2) : Ordered (.tables items)

structure Table.Ordered (t : Table) : Prop where
  keys : t.entries.Ordered
  nodes : ∀ e ∈ t.entries, e.2.Ordered

/-! ## Tables under construction -/

theorem Node.Ordered.of_items {items : List (Keyed Node)}
    (h : ∀ es ∈ items, Table.Ordered { entries := es }) : (Node.tables items).Ordered :=
  .tables (fun es hes => (h es hes).keys) fun es hes => (h es hes).nodes

namespace Table

theorem Ordered.empty (implied dotted : Bool) : Ordered { implied, dotted } where
  keys := .nil
  nodes _ he := nomatch he

theorem Ordered.put {t : Table} (h : t.Ordered) (key : String) {n : Node} (hn : n.Ordered) :
    Ordered { t with entries := Keyed.insert key n t.entries } where
  keys := h.keys.insert key n
  nodes := Keyed.forall_mem_insert h.nodes hn

theorem Ordered.node {t : Table} (h : t.Ordered) {key : String} {n : Node}
    (hfind : Keyed.find? key t.entries = some n) : n.Ordered :=
  h.nodes _ (Keyed.mem_of_find? hfind)

theorem forall_mem_mapLast? {α : Type} {p : α → Prop} {f : α → Option α}
    (hf : ∀ a b, p a → f a = some b → p b) {as bs : List α} (h : mapLast? f as = some bs)
    (has : ∀ a ∈ as, p a) : ∀ b ∈ bs, p b := by
  induction as generalizing bs with
  | nil => cases h
  | cons a as ih =>
    obtain ⟨ha, has⟩ := List.forall_mem_cons.1 has
    cases as with
    | nil =>
      obtain ⟨b, hb, rfl⟩ := Option.map_eq_some_iff.1 h
      exact List.forall_mem_singleton.2 (hf a b ha hb)
    | cons a' as =>
      obtain ⟨bs, hbs, rfl⟩ := Option.map_eq_some_iff.1 h
      exact List.forall_mem_cons.2 ⟨ha, ih hbs has⟩

/-- A change at the end of a path keeps the order if it does so there. -/
theorem Ordered.change? {dotted : Bool} {f : Table → Option Table}
    (hf : ∀ t t', t.Ordered → f t = some t' → t'.Ordered) {path : List String} {t t' : Table}
    (ht : t.Ordered) (h : change? dotted f path t = some t') : t'.Ordered := by
  induction path generalizing t t' with
  | nil => exact hf t t' ht h
  | cons key path ih =>
    unfold Table.change? at h
    cases hfind : Keyed.find? key t.entries with
    | none =>
      rw [hfind] at h
      obtain ⟨child, hchild, h⟩ := Option.bind_eq_some_iff.1 h
      cases h
      have hordered := ih (.empty true dotted) hchild
      exact ht.put key (.table hordered.keys hordered.nodes)
    | some n =>
      have hn := ht.node hfind
      rw [hfind] at h
      cases hn with
      | leaf hv => cases h
      | table hkeys hnodes =>
        obtain ⟨-, -, h⟩ := Option.bind_eq_some_iff.1 h
        obtain ⟨child, hchild, h⟩ := Option.bind_eq_some_iff.1 h
        cases h
        have hordered := ih ⟨hkeys, hnodes⟩ hchild
        exact ht.put key (.table hordered.keys hordered.nodes)
      | tables hkeys hnodes =>
        obtain ⟨items, hitems, h⟩ := Option.bind_eq_some_iff.1 h
        cases h
        refine ht.put key (.of_items ?_)
        refine forall_mem_mapLast? ?_ hitems fun es hes => ⟨hkeys es hes, hnodes es hes⟩
        intro es es' hes hchange
        obtain ⟨child, hchild, rfl⟩ := Option.map_eq_some_iff.1 hchange
        have hordered := ih hes hchild
        exact ⟨hordered.keys, hordered.nodes⟩

theorem Ordered.assign? {path : List String} {key : String} {value : Toml} {t t' : Table}
    (ht : t.Ordered) (hvalue : value.Ordered) (h : assign? path key value t = some t') :
    t'.Ordered := by
  refine ht.change? ?_ h
  intro t t' ht h
  split at h
  · cases h
  · cases h
    exact ht.put key (.leaf hvalue)

theorem Ordered.openTable? {path : List String} {key : String} {t t' : Table} (ht : t.Ordered)
    (h : openTable? path key t = some t') : t'.Ordered := by
  refine ht.change? ?_ h
  intro t t' ht h
  split at h
  · cases h
    exact ht.put key (.table .nil nofun)
  · next hfind =>
    cases h
    cases ht.node hfind with
    | table hkeys hnodes => exact ht.put key (.table hkeys hnodes)
  · cases h

theorem Ordered.openItem? {path : List String} {key : String} {t t' : Table} (ht : t.Ordered)
    (h : openItem? path key t = some t') : t'.Ordered := by
  refine ht.change? ?_ h
  intro t t' ht h
  have hempty : Ordered { entries := [] } := .empty false false
  split at h
  · cases h
    exact ht.put key (.of_items (List.forall_mem_singleton.2 hempty))
  · next items hfind =>
    cases h
    cases ht.node hfind with
    | tables hkeys hnodes =>
      refine ht.put key (.of_items ?_)
      rw [List.forall_mem_append, List.forall_mem_singleton]
      exact ⟨fun es hes => ⟨hkeys es hes, hnodes es hes⟩, hempty⟩
  · cases h

end Table

/-! ## Finished tables -/

theorem finishedEntries_eq_map (es : List (String × Node)) :
    finishedEntries es = es.map fun e => (e.1, e.2.finished) := by
  induction es with
  | nil => rfl
  | cons e es ih => exact congrArg (_ :: ·) ih

theorem finishedItems_eq_map (items : List (List (String × Node))) :
    finishedItems items = items.map fun es => .table (finishedEntries es) := by
  induction items with
  | nil => rfl
  | cons es items ih => exact congrArg (_ :: ·) ih

theorem keys_finishedEntries (es : Keyed Node) : (finishedEntries es).keys = es.keys := by
  rw [finishedEntries_eq_map]
  unfold Keyed.keys
  rw [List.map_map]
  rfl

/-- Entries in order are so when they are finished. -/
theorem ordered_finishedEntries {es : Keyed Node} (hkeys : es.Ordered)
    (h : ∀ e ∈ es, e.2.finished.Ordered) : Ordered (.table (finishedEntries es)) := by
  refine .table (hkeys.of_sublist ?_) ?_
  · rw [keys_finishedEntries]
  · rw [finishedEntries_eq_map, List.forall_mem_map]
    exact h

theorem Node.Ordered.finished {n : Node} (h : n.Ordered) : n.finished.Ordered := by
  induction h with
  | leaf hv => exact hv
  | table hkeys hnodes ih => exact ordered_finishedEntries hkeys ih
  | tables hkeys hnodes ih =>
    refine .array ?_
    rw [finishedItems_eq_map, List.forall_mem_map]
    exact fun es hes => ordered_finishedEntries (hkeys es hes) (ih es hes)

theorem Table.Ordered.finished {t : Table} (h : t.Ordered) :
    Toml.Ordered (.table (finishedEntries t.entries)) :=
  ordered_finishedEntries h.keys fun e he => (h.nodes e he).finished

/-! ## Values -/

theorem ordered_scalar? {cs rest : List Char} {v : Toml} (h : scalar? cs = some (v, rest)) :
    v.Ordered := by
  unfold scalar? at h
  split at h
  · cases h
    exact .datetime _
  · split at h
    · cases h
      exact .float _
    · obtain ⟨⟨i, cs'⟩, -, heq⟩ := Option.map_eq_some_iff.1 h
      cases heq
      exact .int i

/-- What the readers of brackets and braces give. -/
structure OrderedReaders (fuel : Nat) : Prop where
  value : ∀ {depth cs v rest}, value? fuel depth cs = some (v, rest) → v.Ordered
  items : ∀ {depth cs vs rest}, items? fuel depth cs = some (vs, rest) → ∀ v ∈ vs, v.Ordered
  entries : ∀ {depth t cs t' rest}, t.Ordered → entries? fuel depth t cs = some (t', rest) →
    t'.Ordered

namespace OrderedReaders

theorem value_succ {fuel : Nat} (ih : OrderedReaders fuel) {depth : Nat} {cs rest : List Char}
    {v : Toml} (h : value? (fuel + 1) depth cs = some (v, rest)) : v.Ordered := by
  unfold value? at h
  split at h
  · obtain ⟨⟨s, cs'⟩, -, heq⟩ := Option.map_eq_some_iff.1 h
    cases heq
    exact .string s
  · obtain ⟨⟨s, cs'⟩, -, heq⟩ := Option.map_eq_some_iff.1 h
    cases heq
    exact .string s
  · split at h
    · cases h
    · obtain ⟨⟨items, cs'⟩, hitems, heq⟩ := Option.map_eq_some_iff.1 h
      cases heq
      exact .array (ih.items hitems)
  · split at h
    · cases h
    · split at h
      · cases h
        exact .table .nil nofun
      · obtain ⟨⟨t, cs'⟩, ht, heq⟩ := Option.map_eq_some_iff.1 h
        cases heq
        exact (ih.entries (.empty false false) ht).finished
  · cases h
    exact .bool true
  · cases h
    exact .bool false
  · exact ordered_scalar? h

theorem items_succ {fuel : Nat} (ih : OrderedReaders fuel) {depth : Nat} {cs rest : List Char}
    {vs : List Toml} (h : items? (fuel + 1) depth cs = some (vs, rest)) :
    ∀ v ∈ vs, v.Ordered := by
  unfold items? at h
  split at h
  · cases h
    exact nofun
  · obtain ⟨⟨item, cs'⟩, hitem, h⟩ := Option.bind_eq_some_iff.1 h
    dsimp only at h
    split at h
    · cases h
      exact List.forall_mem_singleton.2 (ih.value hitem)
    · obtain ⟨⟨items, cs'⟩, hitems, h⟩ := Option.bind_eq_some_iff.1 h
      cases h
      exact List.forall_mem_cons.2 ⟨ih.value hitem, ih.items hitems⟩
    · cases h

theorem entries_succ {fuel : Nat} (ih : OrderedReaders fuel) {depth : Nat} {t t' : Table}
    {cs rest : List Char} (ht : t.Ordered)
    (h : entries? (fuel + 1) depth t cs = some (t', rest)) : t'.Ordered := by
  unfold entries? at h
  obtain ⟨⟨⟨path, key⟩, cs'⟩, -, h⟩ := Option.bind_eq_some_iff.1 h
  obtain ⟨cs', -, h⟩ := Option.bind_eq_some_iff.1 h
  obtain ⟨⟨value, cs'⟩, hvalue, h⟩ := Option.bind_eq_some_iff.1 h
  obtain ⟨t₁, hassign, h⟩ := Option.bind_eq_some_iff.1 h
  have ht₁ := ht.assign? (ih.value hvalue) hassign
  split at h
  · cases h
    exact ht₁
  · exact ih.entries ht₁ h
  · cases h

end OrderedReaders

/-- The readers call each other with less fuel. -/
theorem orderedReaders (fuel : Nat) : OrderedReaders fuel := by
  induction fuel with
  | zero =>
    constructor
    · intro depth cs v rest h
      unfold value? at h
      cases h
    · intro depth cs vs rest h
      unfold items? at h
      cases h
    · intro depth t cs t' rest ht h
      unfold entries? at h
      cases h
  | succ fuel ih =>
    constructor
    · exact ih.value_succ
    · exact ih.items_succ
    · exact ih.entries_succ

/-! ## Lines -/

theorem ordered_header? {closing : List Char}
    {openAt : List String → String → Table → Option Table}
    (hopen : ∀ {path key t t'}, Table.Ordered t → openAt path key t = some t' → t'.Ordered)
    {p p' : Progress} {cs rest : List Char} (hp : p.root.Ordered)
    (h : header? closing openAt p cs = some (p', rest)) : p'.root.Ordered := by
  obtain ⟨⟨⟨path, key⟩, cs'⟩, -, h⟩ := Option.bind_eq_some_iff.1 h
  obtain ⟨root, hroot, h⟩ := Option.bind_eq_some_iff.1 h
  obtain ⟨-, -, h⟩ := Option.bind_eq_some_iff.1 h
  cases h
  exact hopen hp hroot

theorem ordered_assignment? {p p' : Progress} {cs rest : List Char} (hp : p.root.Ordered)
    (h : assignment? p cs = some (p', rest)) : p'.root.Ordered := by
  obtain ⟨⟨⟨path, key⟩, cs'⟩, -, h⟩ := Option.bind_eq_some_iff.1 h
  obtain ⟨cs', -, h⟩ := Option.bind_eq_some_iff.1 h
  obtain ⟨⟨value, cs'⟩, hvalue, h⟩ := Option.bind_eq_some_iff.1 h
  obtain ⟨root, hroot, h⟩ := Option.bind_eq_some_iff.1 h
  cases h
  have hordered := (orderedReaders _).value hvalue
  exact hp.change? (fun t t' ht => ht.assign? hordered) hroot

/-- What one line preserves. -/
theorem ordered_line? {p p' : Progress} {cs rest : List Char} (hp : p.root.Ordered)
    (h : line? p cs = some (p', rest)) : p'.root.Ordered := by
  unfold line? at h
  split at h
  · cases h
    exact hp
  · cases h
    exact hp
  · cases h
    exact hp
  · cases h
    exact hp
  · exact ordered_header? Table.Ordered.openItem? hp h
  · exact ordered_header? Table.Ordered.openTable? hp h
  · exact ordered_assignment? hp h

theorem ordered_lines? {fuel : Nat} {p p' : Progress} {cs : List Char} (hp : p.root.Ordered)
    (h : lines? fuel p cs = some p') : p'.root.Ordered := by
  induction fuel generalizing p cs with
  | zero => cases h
  | succ fuel ih =>
    cases cs with
    | nil =>
      cases h
      exact hp
    | cons c cs =>
      obtain ⟨⟨p₁, cs'⟩, hline, h⟩ := Option.bind_eq_some_iff.1 h
      obtain ⟨cs', -, h⟩ := Option.bind_eq_some_iff.1 h
      exact ih (ordered_line? hp hline) h

/-- Every table of a document has one entry a key, in the order of the keys. -/
theorem ordered_parse? {s : String} {entries : Keyed Toml} (h : parse? s = some entries) :
    Ordered (.table entries) := by
  obtain ⟨p, hlines, h⟩ := Option.bind_eq_some_iff.1 h
  cases h
  exact (ordered_lines? (.empty false false) hlines).finished

end SqlGateway.Toml
