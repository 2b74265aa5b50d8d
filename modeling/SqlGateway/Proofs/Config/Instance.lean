import SqlGateway.Config.Document
import SqlGateway.Proofs.Keyed.Ordered

/-!
# The configuration of one instance

An instance `has` values under keys.  They make a configuration if the known
keys have values of their types; all that is under other keys is kept.

    ofEntries? es succeeds   iff   WellTyped has
    ofEntries? es = some c   →    IsConfigOf has c
-/

namespace SqlGateway

namespace Toml

mutual

/-- No date or time inside. -/
def dateless : Toml → Bool
  | .datetime _ => false
  | .array items => datelessItems items
  | .table entries => datelessEntries entries
  | _ => true

def datelessItems : List Toml → Bool
  | [] => true
  | v :: vs => v.dateless && datelessItems vs

def datelessEntries : List (String × Toml) → Bool
  | [] => true
  | (_, v) :: es => v.dateless && datelessEntries es

end

mutual

theorem withoutDates_eq_self (v : Toml) (h : v.dateless = true) : v.withoutDates = v := by
  cases v with
  | datetime t => cases h
  | array items =>
    unfold withoutDates
    rw [withoutDatesItems_eq_self items h]
  | table entries =>
    unfold withoutDates
    rw [withoutDatesEntries_eq_self entries h]
  | _ => rfl

theorem withoutDatesItems_eq_self (vs : List Toml) (h : datelessItems vs = true) :
    withoutDatesItems vs = vs := by
  cases vs with
  | nil => rfl
  | cons v vs =>
    obtain ⟨hv, hvs⟩ := Bool.and_eq_true_iff.1 h
    unfold withoutDatesItems
    rw [withoutDates_eq_self v hv, withoutDatesItems_eq_self vs hvs]

theorem withoutDatesEntries_eq_self (es : List (String × Toml)) (h : datelessEntries es = true) :
    withoutDatesEntries es = es := by
  cases es with
  | nil => rfl
  | cons e es =>
    obtain ⟨hv, hes⟩ := Bool.and_eq_true_iff.1 h
    unfold withoutDatesEntries
    rw [withoutDates_eq_self e.2 hv, withoutDatesEntries_eq_self es hes]

end

theorem datelessEntries_iff (es : List (String × Toml)) :
    datelessEntries es = true ↔ ∀ e ∈ es, e.2.dateless = true := by
  induction es with
  | nil => exact iff_of_true rfl nofun
  | cons e es ih => rw [datelessEntries, Bool.and_eq_true_iff, List.forall_mem_cons, ih]

end Toml

theorem SslMode.ofText?_eq_some_iff (s : String) (m : SslMode) :
    ofText? s = some m ↔ s = m.text := by
  constructor
  · intro h
    have hname := List.find?_some h
    exact (beq_iff_eq.1 hname).symm
  · rintro rfl
    exact ofText?_text m

namespace InstanceConfig

/-! ## What is asked of the entries

How the value of a known key is spelled, and what is made of it if it is there or not. -/

def IsText (v : Toml) (s : String) : Prop :=
  v = .string s

def IsPath (v : Toml) (path : Option String) : Prop :=
  ∃ s, IsText v s ∧ some s = path

def IsPort (v : Toml) (port : Option Nat) : Prop :=
  ∃ p : Nat, v = .int p ∧ p ≤ 65535 ∧ port = some p

def IsFlag (v : Toml) (b : Bool) : Prop :=
  v = .bool b

/-- The name of a mode; or a table with that key alone, and nothing under it. -/
def IsMode (v : Toml) (m : SslMode) : Prop :=
  v = .string m.text ∨ v = .table [(m.text, .table [])] ∨ v = .table [(m.text, .array [])]

section

variable {α : Type}

/-- What is under the key has the type. -/
def Typed (has : String → Toml → Prop) (key : String) (means : Toml → α → Prop) : Prop :=
  ∀ v, has key v → ∃ a, means v a

/-- What is under the key, or the default if nothing is. -/
def Given (has : String → Toml → Prop) (key : String) (means : Toml → α → Prop)
    (default a : α) : Prop :=
  (∃ v, has key v ∧ means v a) ∨ (∀ v, ¬ has key v) ∧ a = default

end

structure WellTyped (has : String → Toml → Prop) : Prop where
  text : ∀ key ∈ ["driver", "host", "user", "passwd", "dbname"], Typed has key IsText
  port : Typed has "port" IsPort
  sslMode : Typed has "ssl_mode" IsMode
  acceptInvalidCerts : Typed has "accept_invalid_certs" IsFlag
  caCertPath : Typed has "ca_cert_path" IsPath

structure IsConfigOf (has : String → Toml → Prop) (c : InstanceConfig) : Prop where
  driver : Given has "driver" IsText "" c.driver
  host : Given has "host" IsText "127.0.0.1" c.host
  port : Given has "port" IsPort none c.port
  user : Given has "user" IsText "root" c.user
  passwd : Given has "passwd" IsText "" c.passwd
  dbname : Given has "dbname" IsText "" c.dbname
  sslMode : Given has "ssl_mode" IsMode .disable c.sslMode
  acceptInvalidCerts : Given has "accept_invalid_certs" IsFlag false c.acceptInvalidCerts
  caCertPath : Given has "ca_cert_path" IsPath none c.caCertPath
  ordered : c.extra.Ordered
  /-- Every other key, and only those, with what is under it. -/
  extra : ∀ key v, Keyed.find? key c.extra = some v ↔ key ∉ knownKeys ∧ has key v

/-- The entries of all that an instance has. -/
structure Lists (has : String → Toml → Prop) (es : Keyed Toml) : Prop where
  ordered : es.Ordered
  find?_iff : ∀ key v, Keyed.find? key es = some v ↔ has key v
  dateless : ∀ key v, has key v → v.dateless = true

/-! ## Values -/

section

variable {has : String → Toml → Prop} {es : Keyed Toml} {key : String} {α : Type}
  {read : Toml → Option α} {means : Toml → α → Prop} {default : α}

theorem asText?_eq_some_iff (v : Toml) (hv : v.dateless = true) (s : String) :
    v.asText? = some s ↔ IsText v s := by
  unfold IsText
  cases v with
  | datetime t => cases hv
  | string s' => simp [Toml.asText?]
  | _ => simp [Toml.asText?]

theorem path_eq_some_iff (v : Toml) (hv : v.dateless = true) (path : Option String) :
    v.asText?.map some = some path ↔ IsPath v path := by
  simp only [Option.map_eq_some_iff, asText?_eq_some_iff v hv]
  rfl

theorem readPort?_eq_some_iff (v : Toml) (port : Option Nat) :
    readPort? v = some port ↔ IsPort v port := by
  unfold IsPort
  cases v with
  | int i =>
    unfold readPort? greatestPort
    simp only [Option.ite_none_right_eq_some, Option.some.injEq, Toml.int.injEq]
    constructor
    · rintro ⟨⟨hge, hle⟩, rfl⟩
      exact ⟨i.toNat, by omega, by omega, rfl⟩
    · rintro ⟨p, rfl, hle, rfl⟩
      exact ⟨⟨by omega, by omega⟩, rfl⟩
  | _ => simp [readPort?]

theorem readFlag?_eq_some_iff (v : Toml) (b : Bool) : readFlag? v = some b ↔ IsFlag v b := by
  unfold IsFlag
  cases v <;> simp [readFlag?]

theorem ofToml?_eq_some_iff (v : Toml) (hv : v.dateless = true) (m : SslMode) :
    SslMode.ofToml? v = some m ↔ IsMode v m := by
  unfold SslMode.ofToml? IsMode
  split
  · simp [SslMode.ofText?_eq_some_iff]
  · cases hv
  · simp [SslMode.ofText?_eq_some_iff]
  · simp [SslMode.ofText?_eq_some_iff]
  · next hstring _ htable harray =>
    refine iff_of_false nofun ?_
    rintro (rfl | rfl | rfl)
    · exact hstring _ rfl
    · exact htable _ rfl
    · exact harray _ rfl

/-! ## Keys -/

theorem Given.typed {a : α} (h : Given has key means default a)
    (hone : ∀ v v', has key v → has key v' → v = v') : Typed has key means := by
  intro v hv
  rcases h with ⟨v', hv', ha⟩ | ⟨hnone, -⟩
  · cases hone v v' hv hv'
    exact ⟨a, ha⟩
  · exact absurd hv (hnone v)

/-- A key is read as it is given. -/
theorem given_of_entry? (h : Lists has es)
    (hread : ∀ v, v.dateless = true → ∀ a, read v = some a ↔ means v a) {a : α}
    (hentry : entry? es key read default = some a) : Given has key means default a := by
  unfold entry? at hentry
  cases hfind : Keyed.find? key es with
  | none =>
    rw [hfind] at hentry
    cases hentry
    refine .inr ⟨fun v hv => ?_, rfl⟩
    cases hfind.symm.trans ((h.find?_iff key v).2 hv)
  | some v =>
    rw [hfind] at hentry
    have hv := (h.find?_iff key v).1 hfind
    exact .inl ⟨v, hv, (hread v (h.dateless key v hv) a).1 hentry⟩

theorem exists_entry? (h : Lists has es)
    (hread : ∀ v, v.dateless = true → ∀ a, read v = some a ↔ means v a)
    (htyped : Typed has key means) (default : α) : ∃ a, entry? es key read default = some a := by
  unfold entry?
  cases hfind : Keyed.find? key es with
  | none => exact ⟨default, rfl⟩
  | some v =>
    have hv := (h.find?_iff key v).1 hfind
    obtain ⟨a, ha⟩ := htyped v hv
    exact ⟨a, (hread v (h.dateless key v hv) a).2 ha⟩

end

/-! ## All keys -/

variable {has : String → Toml → Prop} {es : Keyed Toml} {c : InstanceConfig}

theorem Lists.unique (h : Lists has es) {key : String} {v v' : Toml} (hv : has key v)
    (hv' : has key v') : v = v' := by
  rw [← h.find?_iff] at hv hv'
  exact Option.some.inj (hv.symm.trans hv')

theorem Lists.extra (h : Lists has es) :
    Toml.withoutDatesEntries (es.filter fun e => !knownKeys.contains e.1)
      = es.filter fun e => !knownKeys.contains e.1 := by
  apply Toml.withoutDatesEntries_eq_self
  rw [Toml.datelessEntries_iff]
  intro e he
  have hmem := (List.mem_filter.1 he).1
  exact h.dateless e.1 e.2 ((h.find?_iff _ _).1 (h.ordered.find?_eq_some_iff.2 hmem))

theorem isConfigOf_of_ofEntries? (h : Lists has es) (hof : ofEntries? es = some c) :
    IsConfigOf has c := by
  unfold ofEntries? at hof
  simp only [Option.bind_eq_bind, Option.bind_eq_some_iff, Option.pure_def,
    Option.some.injEq] at hof
  obtain ⟨driver, hdriver, host, hhost, port, hport, user, huser, passwd, hpasswd, dbname, hdbname,
    mode, hmode, flag, hflag, path, hpath, rfl⟩ := hof
  rw [h.extra]
  constructor
  · exact given_of_entry? h asText?_eq_some_iff hdriver
  · exact given_of_entry? h asText?_eq_some_iff hhost
  · exact given_of_entry? h (fun v _ => readPort?_eq_some_iff v) hport
  · exact given_of_entry? h asText?_eq_some_iff huser
  · exact given_of_entry? h asText?_eq_some_iff hpasswd
  · exact given_of_entry? h asText?_eq_some_iff hdbname
  · exact given_of_entry? h ofToml?_eq_some_iff hmode
  · exact given_of_entry? h (fun v _ => readFlag?_eq_some_iff v) hflag
  · exact given_of_entry? h path_eq_some_iff hpath
  · exact h.ordered.filter _
  · intro key v
    rw [(h.ordered.filter _).find?_eq_some_iff, List.mem_filter, ← h.find?_iff,
      h.ordered.find?_eq_some_iff]
    simp [and_comm]

theorem IsConfigOf.wellTyped (h : Lists has es) (hc : IsConfigOf has c) : WellTyped has := by
  have hone : ∀ key v v', has key v → has key v' → v = v' := fun _ _ _ => h.unique
  constructor
  · simp only [List.forall_mem_cons]
    exact ⟨hc.driver.typed (hone _), hc.host.typed (hone _), hc.user.typed (hone _),
      hc.passwd.typed (hone _), hc.dbname.typed (hone _), nofun⟩
  · exact hc.port.typed (hone _)
  · exact hc.sslMode.typed (hone _)
  · exact hc.acceptInvalidCerts.typed (hone _)
  · exact hc.caCertPath.typed (hone _)

theorem exists_ofEntries? (h : Lists has es) (hw : WellTyped has) :
    ∃ c, ofEntries? es = some c := by
  have htext := hw.text
  simp only [List.forall_mem_cons] at htext
  obtain ⟨hdriver, hhost, huser, hpasswd, hdbname, -⟩ := htext
  obtain ⟨driver, hdriver⟩ := exists_entry? h asText?_eq_some_iff hdriver ""
  obtain ⟨host, hhost⟩ := exists_entry? h asText?_eq_some_iff hhost "127.0.0.1"
  obtain ⟨port, hport⟩ := exists_entry? h (fun v _ => readPort?_eq_some_iff v) hw.port none
  obtain ⟨user, huser⟩ := exists_entry? h asText?_eq_some_iff huser "root"
  obtain ⟨passwd, hpasswd⟩ := exists_entry? h asText?_eq_some_iff hpasswd ""
  obtain ⟨dbname, hdbname⟩ := exists_entry? h asText?_eq_some_iff hdbname ""
  obtain ⟨mode, hmode⟩ := exists_entry? h ofToml?_eq_some_iff hw.sslMode .disable
  obtain ⟨flag, hflag⟩ :=
    exists_entry? h (fun v _ => readFlag?_eq_some_iff v) hw.acceptInvalidCerts false
  obtain ⟨path, hpath⟩ := exists_entry? h path_eq_some_iff hw.caCertPath none
  rw [← Option.isSome_iff_exists]
  unfold ofEntries?
  simp only [hdriver, hhost, hport, huser, hpasswd, hdbname, hmode, hflag, hpath,
    Option.bind_eq_bind, Option.bind_some]
  rfl

/-- An instance has a configuration if and only if its known keys have values of their types. -/
theorem exists_ofEntries?_iff (h : Lists has es) :
    (∃ c, ofEntries? es = some c) ↔ WellTyped has := by
  constructor
  · rintro ⟨c, hc⟩
    exact (isConfigOf_of_ofEntries? h hc).wellTyped h
  · exact exists_ofEntries? h

end InstanceConfig

end SqlGateway
