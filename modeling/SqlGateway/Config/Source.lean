import SqlGateway.Config.Basic

/-!
# Sources of configurations

A source answers all configurations each time it is asked; it may fail and its
answer may change.  A `Cache` in front of a source keeps an answer for a
bounded time.  `τ` is the world that the source looks at.

    cached: no question to the source within ttl of a successful one, unless invalidated
-/

namespace SqlGateway

abbrev ConfigM (τ : Type) : Type → Type :=
  ExceptT ConfigError (StateM τ)

/-- Where configurations come from. -/
abbrev ConfigSource (τ : Type) : Type :=
  ConfigM τ Configs

namespace ConfigSource

variable {τ : Type}

/-- A fixed set of configurations. -/
def memory (configs : Configs) : ConfigM τ Configs :=
  pure configs

def find (configs : Configs) (name : String) : Except ConfigError InstanceConfig :=
  match Keyed.find? name configs with
  | some c => .ok c
  | none => .error (.notFound name)

/-- The configuration of one instance. -/
def get (source : ConfigSource τ) (name : String) : ConfigM τ InstanceConfig := do
  MonadExcept.ofExcept (find (← source) name)

end ConfigSource

/-- Configurations and the time they were loaded at. -/
structure Loaded where
  time : Nat
  configs : Configs

/-- Times are in nanoseconds. -/
structure Cache where
  ttl : Nat := 2 * 3600 * 1_000_000_000
  loaded : Option Loaded := none

namespace Cache

variable {τ : Type}

/-- What may be answered at `now` without asking the source. -/
def fresh? (c : Cache) (now : Nat) : Option Configs :=
  match c.loaded with
  | some l => if now - l.time < c.ttl then some l.configs else none
  | none => none

def invalidate (c : Cache) : Cache :=
  { c with loaded := none }

/-- The source behind the cache.  The clock is read before and after the source is asked; a
failure leaves the cache as it is. -/
def load (clock : τ → Nat) (source : ConfigSource τ) :
    ConfigM (Cache × τ) Configs := do
  let (c, world) ← get
  match c.fresh? (clock world) with
  | some configs => return configs
  | none =>
    let (result, world) := source.run world
    match result with
    | .ok configs =>
      set ({ c with loaded := some ⟨clock world, configs⟩ }, world)
      return configs
    | .error e =>
      set (c, world)
      throw e

end Cache

end SqlGateway
