import Mathlib.Data.List.TakeWhile
import SqlGateway.Adapter
import SqlGateway.Proofs.Session.Step
import SqlGateway.Registry

/-!
# What registries make

A registry makes an adapter just when a driver, trimmed, is one of its keys and
not empty.  Anything may be registered; a factory as one expects it
(`DriverEntry.Lawful`) makes an adapter that was not there before, on the
session that it is given, and touches nothing that was there.  The factories
of the dialects are such.

    fresh e := e s makes a at d   →   a has no session at d, and afterwards it has s
-/

namespace SqlGateway

section

variable {σ ω α : Type}

/-! ## Specification -/

/-- What there is to see of the adapters in a world `ω`. -/
structure AdapterView (σ ω α : Type) where
  /-- The session of an adapter, once there is such an adapter. -/
  session : ω → α → Option (Session σ)
  /-- The world that native drivers act on. -/
  servers : ω → σ

namespace AdapterView

/-- From `d` to `d'` nothing native was done, and no adapter that was there was used. -/
structure Untouched (view : AdapterView σ ω α) (d d' : ω) : Prop where
  servers : view.servers d' = view.servers d
  session : ∀ a s, view.session d a = some s → view.session d' a = some s

/-- From `d` to `d'` adapters may have been used, but are still those of their instances. -/
def Later (view : AdapterView σ ω α) (d d' : ω) : Prop :=
  ∀ a s, view.session d a = some s →
    ∃ s', view.session d' a = some s' ∧ s'.name = s.name ∧ s'.config = s.config

end AdapterView

/-- What is expected of a factory of adapters and of one of connectors. -/
structure DriverEntry.Lawful (view : AdapterView σ ω α) (e : DriverEntry σ ω α) : Prop where
  connector : ∀ d, view.Untouched d (e.connector.run d).2
  adapter : ∀ s d, view.Untouched d ((e.adapter s).run d).2
  /-- The adapter is a new one. -/
  fresh : ∀ s d, view.session d ((e.adapter s).run d).1 = none
  /-- It is on the session that the factory was given. -/
  session : ∀ s d, view.session ((e.adapter s).run d).2 ((e.adapter s).run d).1 = some s

def Registry.Lawful (view : AdapterView σ ω α) (r : Registry σ ω α) : Prop :=
  ∀ key e, Keyed.find? key r.drivers = some e → e.Lawful view

/-- The adapters of a store are those with a number in it. -/
def AdapterStore.view : AdapterView σ (AdapterStore σ) Nat where
  session s number := s.adapters[number]?.map (·.session)
  servers s := s.world

/-- Something is done on the session of an adapter. -/
def AdapterStore.use {β : Type} (number : Nat) (act : SessionM σ β) (s : AdapterStore σ) :
    AdapterStore σ :=
  match s.adapters[number]? with
  | none => s
  | some a => s.putBack number (act.run ⟨a.session, s.world⟩).2

/-! ## Building -/

namespace Text

theorem trimChars_eq_nil_iff (cs : List Char) : trimChars cs = [] ↔ cs.all isBlank = true := by
  unfold trimChars trimEnd trimStart
  rw [List.reverse_eq_nil_iff, List.dropWhile_eq_nil_iff, List.all_eq_true]
  constructor
  · intro h
    have hnil : cs.dropWhile isBlank = [] := by
      by_contra hne
      have hhead := h _ (List.mem_reverse.2 (List.head_mem hne))
      rw [List.head_dropWhile_not isBlank hne] at hhead
      cases hhead
    exact List.dropWhile_eq_nil_iff.1 hnil
  · intro h c hc
    exact h c (List.dropWhile_subset isBlank (List.mem_reverse.1 hc))

theorem nonBlank?_eq_ite (s : String) :
    nonBlank? s = if trim s = "" then none else some (trim s) := by
  have hblank : trim s = "" ↔ isBlankText s = true := by
    rw [← String.toList_eq_nil_iff, toList_trim]
    exact trimChars_eq_nil_iff s.toList
  unfold nonBlank?
  simp only [hblank]

end Text

namespace Registry

theorem find?_register (r : Registry σ ω α) (key : String) (adapter : Session σ → StateM ω α)
    (connector : StateM ω (Connector σ)) (k : String) :
    Keyed.find? k (r.register key adapter connector).drivers
      = if k = key then some ⟨adapter, connector⟩ else Keyed.find? k r.drivers :=
  Keyed.find?_insert key k _ r.drivers

/-- A blank driver has no entry, whatever is registered. -/
theorem entry_eq_ok_iff {r : Registry σ ω α} {name driver : String} {e : DriverEntry σ ω α} :
    r.entry name driver = .ok e ↔
      Text.trim driver ≠ "" ∧ Keyed.find? (Text.trim driver) r.drivers = some e := by
  unfold entry
  rw [Text.nonBlank?_eq_ite]
  by_cases hblank : Text.trim driver = ""
  · simp [hblank]
  · simp only [if_neg hblank]
    cases Keyed.find? (Text.trim driver) r.drivers with
    | none => simp
    | some e' => simp [hblank]

theorem entry_eq_error_iff {r : Registry σ ω α} {name driver : String} {cause : ConfigError} :
    r.entry name driver = .error cause ↔
      (Text.trim driver = "" ∧ cause = .noDriver name) ∨
      (Text.trim driver ≠ "" ∧ Keyed.find? (Text.trim driver) r.drivers = none ∧
        cause = .unknownDriver name (Text.trim driver)) := by
  unfold entry
  rw [Text.nonBlank?_eq_ite]
  by_cases hblank : Text.trim driver = ""
  · simp [hblank, eq_comm]
  · simp only [if_neg hblank]
    cases Keyed.find? (Text.trim driver) r.drivers with
    | none => simp [hblank, eq_comm]
    | some e => simp [hblank]

/-- Without an entry nothing is done. -/
theorem run_build (r : Registry σ ω α) (name : String) (config : InstanceConfig) (drivers : ω) :
    (r.build name config).run drivers = match r.entry name config.driver with
      | .ok e => (.ok ((e.make name config).run drivers).1, ((e.make name config).run drivers).2)
      | .error cause => (.error cause, drivers) := by
  unfold build
  cases r.entry name config.driver <;> rfl

/-- An adapter is built just when the driver, trimmed, is a key and not empty; the entry of that
key makes it. -/
theorem run_build_eq_ok_iff {r : Registry σ ω α} {name : String} {config : InstanceConfig}
    {drivers drivers' : ω} {a : α} :
    (r.build name config).run drivers = (.ok a, drivers') ↔
      ∃ e, Text.trim config.driver ≠ "" ∧
        Keyed.find? (Text.trim config.driver) r.drivers = some e ∧
        (e.make name config).run drivers = (a, drivers') := by
  rw [run_build]
  constructor
  · intro h
    cases hentry : r.entry name config.driver with
    | error cause =>
      rw [hentry] at h
      cases h
    | ok e =>
      rw [hentry] at h
      cases h
      obtain ⟨hdriver, hfind⟩ := entry_eq_ok_iff.1 hentry
      exact ⟨e, hdriver, hfind, rfl⟩
  · rintro ⟨e, hdriver, hfind, hmake⟩
    rw [entry_eq_ok_iff.2 ⟨hdriver, hfind⟩]
    simp only [hmake]

theorem run_build_eq_error_iff {r : Registry σ ω α} {name : String} {config : InstanceConfig}
    {drivers drivers' : ω} {cause : ConfigError} :
    (r.build name config).run drivers = (.error cause, drivers') ↔
      r.entry name config.driver = .error cause ∧ drivers = drivers' := by
  rw [run_build]
  constructor
  · intro h
    cases hentry : r.entry name config.driver with
    | error cause' =>
      rw [hentry] at h
      cases h
      exact ⟨rfl, rfl⟩
    | ok e =>
      rw [hentry] at h
      cases h
  · rintro ⟨hentry, rfl⟩
    rw [hentry]

end Registry

/-! ## Lawful factories -/

namespace AdapterView

variable {view : AdapterView σ ω α} {d d' d'' : ω}

theorem Untouched.trans (h : view.Untouched d d') (h' : view.Untouched d' d'') :
    view.Untouched d d'' where
  servers := h'.servers.trans h.servers
  session a s hs := h'.session a s (h.session a s hs)

theorem Untouched.later (h : view.Untouched d d') : view.Later d d' := by
  intro a s hs
  exact ⟨s, h.session a s hs, rfl, rfl⟩

theorem Untouched.refl (view : AdapterView σ ω α) (d : ω) : view.Untouched d d :=
  ⟨rfl, fun _ _ hs => hs⟩

end AdapterView

/-- A new adapter, on a session of its own that is not connected. -/
theorem DriverEntry.Lawful.run_make {view : AdapterView σ ω α} {e : DriverEntry σ ω α}
    (h : e.Lawful view) {name : String} {config : InstanceConfig} {d d' : ω} {a : α}
    (hrun : (e.make name config).run d = (a, d')) :
    view.Untouched d d' ∧ view.session d a = none ∧
      ∃ s, view.session d' a = some s ∧ s.name = name ∧ s.config = config ∧
        s.connection = none := by
  rcases hc : e.connector.run d with ⟨connector, d₁⟩
  have huntouched := h.connector d
  rw [hc] at huntouched
  let s : Session σ := { name, config, connector }
  have hadapter : (e.adapter s).run d₁ = (a, d') := by
    rw [← hrun]
    show _ = (e.adapter { name, config, connector := (e.connector.run d).1 }).run
      (e.connector.run d).2
    rw [hc]
  have hlater := h.adapter s d₁
  have hfresh := h.fresh s d₁
  have hsession := h.session s d₁
  rw [hadapter] at hlater hfresh hsession
  refine ⟨huntouched.trans hlater, ?_, s, hsession, rfl, rfl, rfl⟩
  cases hs : view.session d a with
  | none => rfl
  | some s' => exact absurd (huntouched.session a s' hs) (by simp [hfresh])

namespace Registry

theorem Lawful.register {view : AdapterView σ ω α} {r : Registry σ ω α} (h : r.Lawful view)
    (key : String) {adapter : Session σ → StateM ω α} {connector : StateM ω (Connector σ)}
    (he : DriverEntry.Lawful view ⟨adapter, connector⟩) :
    (r.register key adapter connector).Lawful view := by
  intro k e hfind
  rw [find?_register] at hfind
  split at hfind
  · cases hfind
    exact he
  · exact h k e hfind

theorem lawful_standard {view : AdapterView σ ω α} {adapter : Dialect → Session σ → StateM ω α}
    {connector : Dialect → Connector σ}
    (h : ∀ dialect, DriverEntry.Lawful view ⟨adapter dialect, pure (connector dialect)⟩) :
    (standard adapter connector).Lawful view := by
  have hfold : ∀ (entries : List (String × Dialect)) (r : Registry σ ω α), r.Lawful view →
      (entries.foldl (fun r entry =>
        r.register entry.1 (adapter entry.2) (pure (connector entry.2))) r).Lawful view := by
    intro entries
    induction entries with
    | nil => exact fun _ hr => hr
    | cons entry entries ih => exact fun r hr => ih _ (hr.register entry.1 (h entry.2))
  exact hfold standardKeys {} fun _ _ hfind => nomatch hfind

end Registry

namespace AdapterStore

/-- The dialects' factories. -/
theorem lawful_add (dialect : Dialect) (connector : Connector σ) :
    DriverEntry.Lawful view ⟨add dialect, pure connector⟩ where
  connector d := .refl view d
  adapter s d := by
    refine ⟨rfl, fun number s' hs => ?_⟩
    obtain ⟨a, ha, rfl⟩ := Option.map_eq_some_iff.1 hs
    obtain ⟨hlt, -⟩ := List.getElem?_eq_some_iff.1 ha
    show ((d.adapters ++ [⟨dialect, s⟩])[number]?).map _ = _
    rw [List.getElem?_append_left hlt, ha]
    rfl
  fresh s d := by
    show (d.adapters[d.adapters.length]?).map _ = none
    rw [List.getElem?_eq_none (Nat.le_refl _)]
    rfl
  session s d := by
    show ((d.adapters ++ [⟨dialect, s⟩])[d.adapters.length]?).map _ = _
    rw [List.getElem?_concat_length]
    rfl

theorem session_putBack (d : AdapterStore σ) (number : Nat) (c : Channel σ) (k : Nat) :
    view.session (d.putBack number c) k
      = (view.session d k).map fun s => if number = k then c.session else s := by
  show ((d.adapters.modify number _)[k]?).map _ = (d.adapters[k]?.map _).map _
  rw [List.getElem?_modify]
  cases d.adapters[k]? with
  | none => rfl
  | some a => by_cases hk : number = k <;> simp [hk]

/-- What is done on a session does not make it one of another instance. -/
theorem later_use {β : Type} {number : Nat} {act : SessionM σ β}
    (h : ∀ c, (act.run c).2.session.name = c.session.name ∧
      (act.run c).2.session.config = c.session.config) (d : AdapterStore σ) :
    view.Later d (d.use number act) := by
  intro k s hs
  unfold use
  cases ha : d.adapters[number]? with
  | none => exact ⟨s, hs, rfl, rfl⟩
  | some a =>
    have hput := session_putBack d number (act.run ⟨a.session, d.world⟩).2 k
    rw [hs] at hput
    by_cases hk : number = k
    · subst hk
      obtain ⟨a', ha', rfl⟩ := Option.map_eq_some_iff.1 hs
      cases ha.symm.trans ha'
      exact ⟨_, hput.trans (congrArg some (if_pos rfl)), h ⟨a.session, d.world⟩⟩
    · exact ⟨s, hput.trans (congrArg some (if_neg hk)), rfl, rfl⟩

end AdapterStore

/-- A statement that is run leaves the session that of its instance. -/
theorem Session.named_execute (sql : String) (c : Channel σ) :
    ((execute sql).run c).2.session.name = c.session.name ∧
      ((execute sql).run c).2.session.config = c.session.config := by
  unfold execute
  rcases native_cases c.session c.world sql (·.execute sql) with
    ⟨f, w', -, hrun⟩ | ⟨connection, w', -, hrun⟩
  · rw [hrun]
    exact ⟨rfl, rfl⟩
  · rw [hrun]
    rcases (connection.execute sql).run w' with ⟨res, w''⟩
    cases res <;> exact ⟨rfl, rfl⟩

end

end SqlGateway
