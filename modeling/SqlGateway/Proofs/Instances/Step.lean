import SqlGateway.Instances
import SqlGateway.Proofs.Instances.Registry

/-!
# Calls on named instances

What one call on the instances can come to.  The source is asked only for an
adapter that is not kept; it may answer anything, and the registry may have
nothing for its answer.  Between the calls anything may happen to the world of
the drivers.

    get n    the adapter kept under n, or a new one, kept under n from now on
    make n   a new one, kept nowhere
    both     an error, and nothing happened
-/

namespace SqlGateway

variable {σ τ ω α : Type}

/-! ## Specification -/

/-- By the answer of a source, this is what is configured for a name. -/
def ConfigSource.Gives (answer : Except ConfigError Configs) (name : String)
    (config : InstanceConfig) : Prop :=
  ∃ configs, answer = .ok configs ∧ Keyed.find? name configs = some config

/-- `a` is what the registered entry of the driver makes, in the world `d`, of what is configured
for a name. -/
structure Registry.Builds (r : Registry σ ω α) (answer : Except ConfigError Configs)
    (name : String) (config : InstanceConfig) (d d' : ω) (a : α) : Prop where
  given : ConfigSource.Gives answer name config
  driver : Text.trim config.driver ≠ ""
  entry : ∃ e, Keyed.find? (Text.trim config.driver) r.drivers = some e ∧
    (e.make name config).run d = (a, d')

/-- Why there is no adapter for a name. -/
inductive Registry.Refuses (r : Registry σ ω α) (answer : Except ConfigError Configs)
    (name : String) : ConfigError → Prop where
  | source (cause : ConfigError) (h : answer = .error cause) : Refuses r answer name cause
  | notFound (configs : Configs) (h : answer = .ok configs)
      (hfind : Keyed.find? name configs = none) : Refuses r answer name (.notFound name)
  | noDriver (config : InstanceConfig) (h : ConfigSource.Gives answer name config)
      (hdriver : Text.trim config.driver = "") : Refuses r answer name (.noDriver name)
  | unknownDriver (config : InstanceConfig) (h : ConfigSource.Gives answer name config)
      (hdriver : Text.trim config.driver ≠ "")
      (hkey : Keyed.find? (Text.trim config.driver) r.drivers = none) :
      Refuses r answer name (.unknownDriver name (Text.trim config.driver))

/-- The adapter that is kept under a name. -/
def Instances.adapter? (i : Instances σ ω α) (name : String) : Option α :=
  Keyed.find? name i.named

/-- The instances, and the world of the drivers. -/
structure Site (σ ω α : Type) where
  instances : Instances σ ω α
  drivers : ω

inductive InstanceCall (ω : Type) where
  | get (name : Option String)
  | make (name : String)
  | isLoaded (name : String)
  /-- Something else happens, to adapters that were handed out or to the servers. -/
  | meanwhile (f : ω → ω)

inductive InstanceReply (α : Type) where
  | adapter (a : α)
  | failed (cause : ConfigError)
  | loaded (flag : Bool)
  | done
  deriving DecidableEq

namespace InstanceReply

def ofResult : Except ConfigError α → InstanceReply α
  | .ok a => .adapter a
  | .error cause => .failed cause

/-- The reply, whichever adapter it is that is returned. -/
def shape : InstanceReply α → InstanceReply Unit
  | .adapter _ => .adapter ()
  | .failed cause => .failed cause
  | .loaded flag => .loaded flag
  | .done => .done

end InstanceReply

namespace InstanceCall

/-- The call, and where it leads; `w` is what the source looks at. -/
def perform (source : ConfigSource τ) (w : τ) (s : Site σ ω α) :
    InstanceCall ω → InstanceReply α × Site σ ω α
  | .get name =>
    let (result, instances, _, drivers) :=
      (Instances.get source name).run (s.instances, w, s.drivers)
    (.ofResult result, { instances, drivers })
  | .make name =>
    let (result, instances, _, drivers) :=
      (Instances.make source name).run (s.instances, w, s.drivers)
    (.ofResult result, { instances, drivers })
  | .isLoaded name => (.loaded (s.instances.isLoaded name), s)
  | .meanwhile f => (.done, { s with drivers := f s.drivers })

/-- The name that an adapter is asked for. -/
def name? : InstanceCall ω → Option String
  | .get name => some (name.getD defaultInstance)
  | .make name => some name
  | .isLoaded _ | .meanwhile _ => none

/-- A call of the instances' own. -/
def isOwn : InstanceCall ω → Bool
  | .meanwhile _ => false
  | _ => true

/-- Adapters that are there stay those of their instances, whatever is done with them. -/
def Lawful (view : AdapterView σ ω α) : InstanceCall ω → Prop
  | .meanwhile f => ∀ d, view.Later d (f d)
  | _ => True

end InstanceCall

/-! ## Making -/

namespace Instances

theorem make_run (source : ConfigSource τ) (name : String) (i : Instances σ ω α) (w : τ) (d : ω) :
    (make source name).run (i, w, d)
      = match (source.run w).1.bind fun configs => ConfigSource.find configs name with
        | .error cause => (.error cause, i, (source.run w).2, d)
        | .ok config => (((i.registry.build name config).run d).1, i, (source.run w).2,
            ((i.registry.build name config).run d).2) := by
  have hget : (source.get name).run w
      = ((source.run w).1.bind fun configs => ConfigSource.find configs name, (source.run w).2) := by
    unfold ConfigSource.get
    rw [run_bind]
    rcases source.run w with ⟨answer, w'⟩
    cases answer with
    | ok configs => exact run_ofExcept _ _
    | error e => rfl
  unfold make
  rw [run_bind_ok (run_get (i, w, d))]
  dsimp only
  rw [hget]
  generalize ((source.run w).1.bind fun configs => ConfigSource.find configs name) = found
  cases found with
  | error cause => rfl
  | ok config =>
    simp only [MonadExcept.ofExcept, pure_bind]
    rcases (i.registry.build name config).run d with ⟨built, d'⟩
    cases built <;> rfl

/-- What making an adapter comes to: one is built, or there is a reason why not, and nothing was
done to the drivers. -/
theorem make_cases (source : ConfigSource τ) (name : String) (i : Instances σ ω α) (w : τ) (d : ω) :
    (∃ config a d', i.registry.Builds (source.run w).1 name config d d' a ∧
      (make source name).run (i, w, d) = (.ok a, i, (source.run w).2, d')) ∨
    ∃ cause, i.registry.Refuses (source.run w).1 name cause ∧
      (make source name).run (i, w, d) = (.error cause, i, (source.run w).2, d) := by
  rw [make_run]
  cases hanswer : (source.run w).1 with
  | error cause => exact .inr ⟨cause, .source cause rfl, rfl⟩
  | ok configs =>
    simp only [Except.bind, ConfigSource.find]
    cases hfind : Keyed.find? name configs with
    | none => exact .inr ⟨.notFound name, .notFound configs rfl hfind, rfl⟩
    | some config =>
      have hgives : ConfigSource.Gives (.ok configs) name config := ⟨configs, rfl, hfind⟩
      dsimp only
      rcases hbuild : (i.registry.build name config).run d with ⟨built, d'⟩
      cases built with
      | ok a =>
        obtain ⟨e, hdriver, hentry, hmake⟩ := Registry.run_build_eq_ok_iff.1 hbuild
        exact .inl ⟨config, a, d', ⟨hgives, hdriver, e, hentry, hmake⟩, rfl⟩
      | error cause =>
        obtain ⟨hentry, rfl⟩ := Registry.run_build_eq_error_iff.1 hbuild
        refine .inr ⟨cause, ?_, rfl⟩
        rcases Registry.entry_eq_error_iff.1 hentry with
          ⟨hblank, rfl⟩ | ⟨hdriver, hkey, rfl⟩
        · exact .noDriver config hgives hblank
        · exact .unknownDriver config hgives hdriver hkey

/-! ## One call -/

/-- The instances with an adapter kept under a name. -/
def naming (i : Instances σ ω α) (name : String) (a : α) : Instances σ ω α :=
  { i with named := Keyed.insert name a i.named }

theorem adapter?_naming (i : Instances σ ω α) (name : String) (a : α) (n : String) :
    (i.naming name a).adapter? n = if n = name then some a else i.adapter? n :=
  Keyed.find?_insert name n a i.named

/-- A name that had no adapter has the one that it is given. -/
theorem adapter?_naming_eq_some_iff {i : Instances σ ω α} {name : String}
    (hnew : i.adapter? name = none) (a : α) (n : String) (b : α) :
    (i.naming name a).adapter? n = some b ↔ i.adapter? n = some b ∨ (n = name ∧ b = a) := by
  rw [adapter?_naming]
  by_cases hn : n = name
  · rw [if_pos hn, hn, hnew]
    simp [eq_comm]
  · simp [hn]

theorem isLoaded_eq_isSome (i : Instances σ ω α) (name : String) :
    i.isLoaded name = (i.adapter? name).isSome := rfl

end Instances

/-- Everything that a call can come to. -/
inductive InstanceStep (source : ConfigSource τ) (w : τ) (s : Site σ ω α) :
    InstanceCall ω → InstanceReply α × Site σ ω α → Prop where
  | kept (asked : Option String) (a : α)
      (h : s.instances.adapter? (asked.getD defaultInstance) = some a) :
      InstanceStep source w s (.get asked) (.adapter a, s)
  | loaded (asked : Option String) (config : InstanceConfig) (a : α) (d' : ω)
      (hnew : s.instances.adapter? (asked.getD defaultInstance) = none)
      (hbuilds : s.instances.registry.Builds (source.run w).1 (asked.getD defaultInstance) config
        s.drivers d' a) :
      InstanceStep source w s (.get asked)
        (.adapter a, ⟨s.instances.naming (asked.getD defaultInstance) a, d'⟩)
  | notLoaded (asked : Option String) (cause : ConfigError)
      (hnew : s.instances.adapter? (asked.getD defaultInstance) = none)
      (hrefuses : s.instances.registry.Refuses (source.run w).1 (asked.getD defaultInstance)
        cause) :
      InstanceStep source w s (.get asked) (.failed cause, s)
  | made (name : String) (config : InstanceConfig) (a : α) (d' : ω)
      (hbuilds : s.instances.registry.Builds (source.run w).1 name config s.drivers d' a) :
      InstanceStep source w s (.make name) (.adapter a, ⟨s.instances, d'⟩)
  | notMade (name : String) (cause : ConfigError)
      (hrefuses : s.instances.registry.Refuses (source.run w).1 name cause) :
      InstanceStep source w s (.make name) (.failed cause, s)
  | told (name : String) :
      InstanceStep source w s (.isLoaded name) (.loaded (s.instances.isLoaded name), s)
  | passed (f : ω → ω) :
      InstanceStep source w s (.meanwhile f) (.done, ⟨s.instances, f s.drivers⟩)

theorem Instances.get_run (source : ConfigSource τ) (asked : Option String) (i : Instances σ ω α)
    (w : τ) (d : ω) :
    (get source asked).run (i, w, d) = match i.adapter? (asked.getD defaultInstance) with
      | some a => (.ok a, i, w, d)
      | none => match (make source (asked.getD defaultInstance)).run (i, w, d) with
        | (.ok a, i', worlds) => (.ok a, i'.naming (asked.getD defaultInstance) a, worlds)
        | (.error cause, state) => (.error cause, state) := by
  unfold get adapter?
  dsimp only
  generalize asked.getD defaultInstance = name
  rw [run_bind_ok (run_get (i, w, d))]
  cases Keyed.find? name i.named with
  | some a => rfl
  | none =>
    show (make source name >>= _).run (i, w, d) = _
    rw [run_bind]
    rcases (make source name).run (i, w, d) with ⟨result, i', worlds⟩
    cases result <;> rfl

theorem Site.step_perform (source : ConfigSource τ) (w : τ) (s : Site σ ω α)
    (call : InstanceCall ω) : InstanceStep source w s call (call.perform source w s) := by
  cases call with
  | get asked =>
    dsimp only [InstanceCall.perform]
    rw [Instances.get_run]
    cases hkept : s.instances.adapter? (asked.getD defaultInstance) with
    | some a => exact .kept asked a hkept
    | none =>
      rcases Instances.make_cases source (asked.getD defaultInstance) s.instances w s.drivers with
        ⟨config, a, d', hbuilds, hrun⟩ | ⟨cause, hrefuses, hrun⟩
      · rw [hrun]
        exact .loaded asked config a d' hkept hbuilds
      · rw [hrun]
        exact .notLoaded asked cause hkept hrefuses
  | make name =>
    dsimp only [InstanceCall.perform]
    rcases Instances.make_cases source name s.instances w s.drivers with
      ⟨config, a, d', hbuilds, hrun⟩ | ⟨cause, hrefuses, hrun⟩
    · rw [hrun]
      exact .made name config a d' hbuilds
    · rw [hrun]
      exact .notMade name cause hrefuses
  | isLoaded name => exact .told name
  | meanwhile f => exact .passed f

end SqlGateway
