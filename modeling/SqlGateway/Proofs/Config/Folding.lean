import SqlGateway.Proofs.Config.Instance
import SqlGateway.Proofs.Toml.Ordered

/-!
# Folding a document into configurations

What belongs to each instance is told by the entries of the document alone, and
so is whether there are configurations and what they say.

    Holds entries name key v   iff   name has v under key in a table of its own,
                                     or name is default, v is no table, and default has no such key
-/

namespace SqlGateway.Configs

open InstanceConfig (Lists WellTyped IsConfigOf)

/-- A top-level entry that is not a table. -/
def IsFlat (entries : Keyed Toml) (key : String) (v : Toml) : Prop :=
  Keyed.find? key entries = some v ∧ v.isTable = false

/-- The top-level tables; and `default` if there are other entries. -/
def IsInstance (entries : Keyed Toml) (name : String) : Prop :=
  (∃ es, Keyed.find? name entries = some (.table es)) ∨
    name = "default" ∧ ∃ key v, IsFlat entries key v

/-- What an instance has under a key. -/
inductive Holds (entries : Keyed Toml) : String → String → Toml → Prop where
  | own {name key : String} {es : Keyed Toml} {v : Toml}
      (htable : Keyed.find? name entries = some (.table es)) (h : Keyed.find? key es = some v) :
      Holds entries name key v
  | flat {key : String} {v : Toml} (hflat : IsFlat entries key v)
      (hown : ∀ es, Keyed.find? "default" entries = some (.table es) → Keyed.find? key es = none) :
      Holds entries "default" key v

/-- What a document comes to. -/
structure Folds (entries : Keyed Toml) (result : Except ConfigError Configs) : Prop where
  succeeds : (∃ configs, result = .ok configs)
    ↔ ∀ name, IsInstance entries name → WellTyped (Holds entries name)
  ordered : ∀ configs, result = .ok configs → configs.Ordered
  instances : ∀ configs, result = .ok configs →
    ∀ name, (∃ c, Keyed.find? name configs = some c) ↔ IsInstance entries name
  configs : ∀ configs, result = .ok configs →
    ∀ name c, Keyed.find? name configs = some c → IsConfigOf (Holds entries name) c
  /-- The first instance with a value of the wrong type is named. -/
  failure : ∀ e, result = .error e → ∃ name, e = .invalidInstance name ∧
    IsInstance entries name ∧ ¬ WellTyped (Holds entries name) ∧
    ∀ other, IsInstance entries other → other < name → WellTyped (Holds entries other)

/-! ## The two parts of a document -/

theorem keys_tables_sublist (entries : Keyed Toml) :
    (tables entries).keys.Sublist entries.keys := by
  induction entries with
  | nil => exact .slnil
  | cons e entries ih =>
    obtain ⟨key, v⟩ := e
    cases v with
    | table es => exact ih.cons_cons key
    | _ => exact ih.cons key

theorem mem_tables {entries : Keyed Toml} {name : String} {es : Keyed Toml} :
    (name, es) ∈ tables entries ↔ (name, Toml.table es) ∈ entries := by
  induction entries with
  | nil => exact iff_of_false nofun nofun
  | cons e entries ih =>
    obtain ⟨key, v⟩ := e
    cases v with
    | table es' => simp [tables, ih]
    | _ => simp [tables, ih]

theorem find?_tables {entries : Keyed Toml} (h : entries.Ordered) {name : String}
    {es : Keyed Toml} :
    Keyed.find? name (tables entries) = some es
      ↔ Keyed.find? name entries = some (.table es) := by
  rw [(h.of_sublist (keys_tables_sublist entries)).find?_eq_some_iff, mem_tables,
    h.find?_eq_some_iff]

theorem find?_flat {entries : Keyed Toml} (h : entries.Ordered) {key : String} {v : Toml} :
    Keyed.find? key (flat entries) = some v ↔ IsFlat entries key v := by
  unfold flat IsFlat
  rw [(h.filter _).find?_eq_some_iff, List.mem_filter, h.find?_eq_some_iff, Bool.not_eq_true']

theorem flat_isEmpty_iff {entries : Keyed Toml} (h : entries.Ordered) :
    (flat entries).isEmpty = false ↔ ∃ key v, IsFlat entries key v := by
  simp only [← find?_flat h, List.isEmpty_eq_false_iff_exists_mem, Prod.exists, flat,
    (h.filter _).find?_eq_some_iff]

/-- What is under a key of a table at the top. -/
theorem find?_own {entries : Keyed Toml} (h : entries.Ordered) {name key : String} {v : Toml} :
    Keyed.find? key ((Keyed.find? name (tables entries)).getD []) = some v
      ↔ ∃ es, Keyed.find? name entries = some (.table es) ∧ Keyed.find? key es = some v := by
  simp only [← find?_tables h]
  cases Keyed.find? name (tables entries) with
  | none => exact iff_of_false nofun nofun
  | some es => simp

theorem find?_own_eq_none {entries : Keyed Toml} (h : entries.Ordered) {name key : String} :
    Keyed.find? key ((Keyed.find? name (tables entries)).getD []) = none
      ↔ ∀ es, Keyed.find? name entries = some (.table es) → Keyed.find? key es = none := by
  simp only [Option.eq_none_iff_forall_ne_some, ne_eq, find?_own h, not_exists, not_and]
  exact ⟨fun h es htable v => h v es htable, fun h v es htable => h es htable v⟩

/-! ## Filling up -/

/-- The entries that are there come first. -/
theorem find?_fill (key : String) (own more : Keyed Toml) :
    Keyed.find? key (fill own more) = (Keyed.find? key own).or (Keyed.find? key more) := by
  induction more generalizing own with
  | nil => exact Option.or_none.symm
  | cons e more ih =>
    unfold fill at ih ⊢
    rw [List.foldl_cons, ih, Keyed.find?_insert_unless, Option.or_assoc, ← Keyed.find?_cons]

theorem ordered_fill {own : Keyed Toml} (h : own.Ordered) (more : Keyed Toml) :
    (fill own more).Ordered := by
  unfold fill
  induction more generalizing own with
  | nil => exact h
  | cons e more ih =>
    rw [List.foldl_cons]
    apply ih
    split
    · exact h
    · exact h.insert e.1 e.2

/-! ## Instances -/

/-- A document in order, without dates and times. -/
structure Plain (entries : Keyed Toml) : Prop where
  ordered : Toml.Ordered (.table entries)
  dateless : ∀ e ∈ entries, e.2.dateless = true

variable {entries : Keyed Toml}

theorem Plain.keys (h : Plain entries) : entries.Ordered := by
  cases h.ordered with
  | table hkeys _ => exact hkeys

theorem Plain.table (h : Plain entries) {name : String} {es : Keyed Toml}
    (hfind : Keyed.find? name entries = some (.table es)) : es.Ordered := by
  cases h.ordered with
  | table _ hvalues =>
    cases hvalues _ (Keyed.mem_of_find? hfind) with
    | table hkeys _ => exact hkeys

theorem Plain.own (h : Plain entries) {name : String} :
    Keyed.Ordered ((Keyed.find? name (tables entries)).getD []) := by
  cases hfind : Keyed.find? name (tables entries) with
  | none => exact .nil
  | some es => exact h.table ((find?_tables h.keys).1 hfind)

theorem Plain.holds (h : Plain entries) {name key : String} {v : Toml}
    (hv : Holds entries name key v) : v.dateless = true := by
  cases hv with
  | own htable hfind =>
    have hes : Toml.datelessEntries _ = true := h.dateless _ (Keyed.mem_of_find? htable)
    exact (Toml.datelessEntries_iff _).1 hes _ (Keyed.mem_of_find? hfind)
  | flat hflat hown => exact h.dateless _ (Keyed.mem_of_find? hflat.1)

theorem ordered_instances (h : Plain entries) : (instances entries).Ordered := by
  have htables := h.keys.of_sublist (keys_tables_sublist entries)
  unfold instances
  dsimp only
  split
  · exact htables
  · exact htables.insert _ _

theorem find?_instances (entries : Keyed Toml) (name : String) :
    Keyed.find? name (instances entries) = if name = "default" ∧ (flat entries).isEmpty = false
      then some (fill ((Keyed.find? name (tables entries)).getD []) (flat entries))
      else Keyed.find? name (tables entries) := by
  unfold instances
  dsimp only
  cases hflat : (flat entries).isEmpty with
  | true => simp
  | false =>
    rw [if_neg Bool.false_ne_true, Keyed.find?_insert]
    unfold defaultInstance
    by_cases hname : name = "default"
    · rw [if_pos hname, if_pos ⟨hname, rfl⟩, hname]
    · rw [if_neg hname, if_neg fun h => hname h.1]

theorem exists_find?_instances (h : Plain entries) (name : String) :
    (∃ es, Keyed.find? name (instances entries) = some es) ↔ IsInstance entries name := by
  simp only [find?_instances, IsInstance, ← find?_tables h.keys]
  rw [← flat_isEmpty_iff h.keys]
  split
  · next hfill => exact iff_of_true ⟨_, rfl⟩ (.inr hfill)
  · next hfill => exact (or_iff_left hfill).symm

theorem lists_instances (h : Plain entries) {name : String} {es : Keyed Toml}
    (hfind : Keyed.find? name (instances entries) = some es) : Lists (Holds entries name) es := by
  rw [find?_instances] at hfind
  split at hfind
  · next hfill =>
    cases hfind
    obtain ⟨rfl, -⟩ := hfill
    refine ⟨ordered_fill h.own _, fun key v => ?_, fun key v => h.holds⟩
    rw [find?_fill, Option.or_eq_some_iff, find?_own h.keys, find?_own_eq_none h.keys,
      find?_flat h.keys]
    constructor
    · rintro (⟨es, htable, hv⟩ | ⟨hown, hflat⟩)
      · exact .own htable hv
      · exact .flat hflat hown
    · intro hv
      cases hv with
      | own htable hv => exact .inl ⟨_, htable, hv⟩
      | flat hflat hown => exact .inr ⟨hown, hflat⟩
  · next hfill =>
    have htable := (find?_tables h.keys).1 hfind
    refine ⟨h.table htable, fun key v => ?_, fun key v => h.holds⟩
    constructor
    · exact .own htable
    · intro hv
      cases hv with
      | own htable' hv =>
        cases htable.symm.trans htable'
        exact hv
      | flat hflat hown =>
        exact absurd ⟨rfl, (flat_isEmpty_iff h.keys).2 ⟨key, v, hflat⟩⟩ hfill

/-! ## Configurations -/

section

variable {is : Keyed (Keyed Toml)} {configs : Configs}

theorem ofInstances_cons_ok {i : String × Keyed Toml} :
    ofInstances (i :: is) = .ok configs
      ↔ ∃ c rest, InstanceConfig.ofEntries? i.2 = some c ∧ ofInstances is = .ok rest ∧
        configs = (i.1, c) :: rest := by
  obtain ⟨name, es⟩ := i
  rw [ofInstances]
  cases InstanceConfig.ofEntries? es with
  | none => exact iff_of_false nofun nofun
  | some c =>
    cases ofInstances is with
    | error e => exact iff_of_false nofun nofun
    | ok rest => simp [Bind.bind, Except.bind, Pure.pure, Except.pure, eq_comm]

theorem exists_ofInstances_iff :
    (∃ configs, ofInstances is = .ok configs)
      ↔ ∀ i ∈ is, ∃ c, InstanceConfig.ofEntries? i.2 = some c := by
  induction is with
  | nil => exact iff_of_true ⟨[], rfl⟩ nofun
  | cons i is ih =>
    rw [List.forall_mem_cons, ← ih]
    simp only [ofInstances_cons_ok]
    constructor
    · rintro ⟨_, c, rest, hc, hrest, -⟩
      exact ⟨⟨c, hc⟩, rest, hrest⟩
    · rintro ⟨⟨c, hc⟩, rest, hrest⟩
      exact ⟨_, c, rest, hc, hrest, rfl⟩

theorem keys_ofInstances (h : ofInstances is = .ok configs) : configs.keys = is.keys := by
  induction is generalizing configs with
  | nil =>
    cases h
    rfl
  | cons i is ih =>
    obtain ⟨c, rest, -, hrest, rfl⟩ := ofInstances_cons_ok.1 h
    exact congrArg (i.1 :: ·) (ih hrest)

theorem find?_ofInstances (h : ofInstances is = .ok configs) (name : String) :
    Keyed.find? name configs = (Keyed.find? name is).bind InstanceConfig.ofEntries? := by
  induction is generalizing configs with
  | nil =>
    cases h
    rfl
  | cons i is ih =>
    obtain ⟨c, rest, hc, hrest, rfl⟩ := ofInstances_cons_ok.1 h
    simp only [Keyed.find?]
    split
    · exact hc.symm
    · exact ih hrest

/-- The first instance without a configuration is the failure. -/
theorem first_of_ofInstances (hordered : is.Ordered) {e : ConfigError}
    (h : ofInstances is = .error e) :
    ∃ name es, e = .invalidInstance name ∧ (name, es) ∈ is ∧
      InstanceConfig.ofEntries? es = none ∧
      ∀ i ∈ is, i.1 < name → ∃ c, InstanceConfig.ofEntries? i.2 = some c := by
  induction is with
  | nil => cases h
  | cons i is ih =>
    obtain ⟨hhead, htail⟩ := Keyed.ordered_cons.1 hordered
    obtain ⟨first, es⟩ := i
    rw [ofInstances] at h
    cases hc : InstanceConfig.ofEntries? es with
    | none =>
      rw [hc] at h
      cases h
      refine ⟨first, es, rfl, List.mem_cons_self, hc, ?_⟩
      rw [List.forall_mem_cons]
      exact ⟨fun hlt => absurd hlt (lt_irrefl _), fun d hd hlt => absurd hlt (hhead d hd).not_gt⟩
    | some c =>
      rw [hc] at h
      cases hrest : ofInstances is with
      | ok rest =>
        rw [hrest] at h
        cases h
      | error e' =>
        rw [hrest] at h
        cases h
        obtain ⟨name, es, hname, hmem, hnone, hbefore⟩ := ih htail hrest
        refine ⟨name, es, hname, List.mem_cons_of_mem _ hmem, hnone, ?_⟩
        exact List.forall_mem_cons.2 ⟨fun _ => ⟨c, hc⟩, hbefore⟩

end

theorem folds_ofInstances (h : Plain entries) :
    Folds entries (ofInstances (instances entries)) := by
  have hordered := ordered_instances h
  have hread : ∀ {name es}, Keyed.find? name (instances entries) = some es →
      ((∃ c, InstanceConfig.ofEntries? es = some c) ↔ WellTyped (Holds entries name)) :=
    fun hes => InstanceConfig.exists_ofEntries?_iff (lists_instances h hes)
  constructor
  case succeeds =>
    rw [exists_ofInstances_iff]
    constructor
    · intro hall name hname
      obtain ⟨es, hes⟩ := (exists_find?_instances h name).2 hname
      exact (hread hes).1 (hall _ (Keyed.mem_of_find? hes))
    · intro hall i hi
      have hes := hordered.find?_eq_some_iff.2 hi
      exact (hread hes).2 (hall _ ((exists_find?_instances h _).1 ⟨_, hes⟩))
  case ordered =>
    intro configs hok
    exact hordered.of_sublist (keys_ofInstances hok ▸ .refl _)
  case instances =>
    intro configs hok name
    rw [← exists_find?_instances h, find?_ofInstances hok]
    constructor
    · rintro ⟨c, hc⟩
      obtain ⟨es, hes, -⟩ := Option.bind_eq_some_iff.1 hc
      exact ⟨es, hes⟩
    · rintro ⟨es, hes⟩
      rw [hes]
      exact exists_ofInstances_iff.1 ⟨configs, hok⟩ _ (Keyed.mem_of_find? hes)
  case configs =>
    intro configs hok name c hc
    rw [find?_ofInstances hok] at hc
    obtain ⟨es, hes, hc⟩ := Option.bind_eq_some_iff.1 hc
    exact InstanceConfig.isConfigOf_of_ofEntries? (lists_instances h hes) hc
  case failure =>
    intro e herror
    obtain ⟨name, es, he, hmem, hnone, hbefore⟩ := first_of_ofInstances hordered herror
    have hes := hordered.find?_eq_some_iff.2 hmem
    refine ⟨name, he, (exists_find?_instances h name).1 ⟨es, hes⟩, ?_, ?_⟩
    · rw [← hread hes, hnone]
      exact nofun
    · intro other hother hlt
      obtain ⟨es', hes'⟩ := (exists_find?_instances h other).2 hother
      exact (hread hes').1 (hbefore _ (Keyed.mem_of_find? hes') hlt)

/-- **Folding.**  Whether a document has configurations, and which, is told by what each instance
holds. -/
theorem parse_folds (document : String) (entries : Keyed Toml)
    (hparse : Toml.parse? document = some entries)
    (hdates : ∀ e ∈ entries, e.2.dateless = true) : Folds entries (parse document) := by
  unfold parse
  rw [hparse]
  exact folds_ofInstances ⟨Toml.ordered_parse? hparse, hdates⟩

/-- Two keys of the default instance, one of them in its table too, and another instance. -/
def sample : String :=
  "driver = \"mysql\"\ndbname = \"app\"\n\n[default]\ndbname = \"own\"\n\n"
    ++ "[reporting]\nport = 1433\nteam = [1, 2]\n"

theorem parse_folds_sample :
    ∃ entries, Toml.parse? sample = some entries ∧ Folds entries (parse sample) := by
  have hsome : (Toml.parse? sample).isSome = true := by decide +kernel
  have hdates : (Toml.parse? sample).all Toml.datelessEntries = true := by decide +kernel
  obtain ⟨entries, hparse⟩ := Option.isSome_iff_exists.1 hsome
  rw [hparse] at hdates
  exact ⟨entries, hparse, parse_folds sample entries hparse ((Toml.datelessEntries_iff _).1 hdates)⟩

example : (parse "port = 1\nuser = \"a\"\n[default]\nuser = \"b\"\nteam = 7\n").toOption.map
      (List.map fun i => (i.1, i.2.displayText, i.2.extra.keys))
    = some [("default", "b@127.0.0.1:1/", ["team"])] := by
  decide +kernel

end SqlGateway.Configs
