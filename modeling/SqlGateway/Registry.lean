import SqlGateway.Dialect.Basic
import SqlGateway.Session
import SqlGateway.Text.Blank

/-!
# Drivers by key

A registry says what makes the connector and the adapter of a configuration
with a given `driver` key.  Anything may be registered that makes an adapter of
a session: `ω` is the world that it acts on, and `α` is what adapters are.
Some dialects have a second key.

    build r name c answers an adapter   iff   c.driver, trimmed, is a key of r and not empty
-/

namespace SqlGateway

structure DriverEntry (σ ω α : Type) where
  /-- Makes the adapter of a session. -/
  adapter : Session σ → StateM ω α
  connector : StateM ω (Connector σ)

/-- The adapter of a new session, not connected yet. -/
def DriverEntry.make {σ ω α : Type} (e : DriverEntry σ ω α) (name : String)
    (config : InstanceConfig) : StateM ω α := do
  let connector ← e.connector
  e.adapter { name, config, connector }

structure Registry (σ ω α : Type) where
  drivers : Keyed (DriverEntry σ ω α) := []

namespace Registry

variable {σ ω α : Type}

def register (r : Registry σ ω α) (key : String) (adapter : Session σ → StateM ω α)
    (connector : StateM ω (Connector σ)) : Registry σ ω α :=
  ⟨Keyed.insert key ⟨adapter, connector⟩ r.drivers⟩

/-- All dialects, under all their keys. -/
def standardKeys : List (String × Dialect) :=
  [("mysql", .mysql), ("mssql", .mssql), ("dblib", .mssql), ("pgsql", .pgsql), ("postgres", .pgsql)]

/-- The dialects by their keys. -/
def standard (adapter : Dialect → Session σ → StateM ω α) (connector : Dialect → Connector σ) :
    Registry σ ω α :=
  standardKeys.foldl
    (fun r entry => r.register entry.1 (adapter entry.2) (pure (connector entry.2))) {}

def contains (r : Registry σ ω α) (key : String) : Bool :=
  Keyed.contains key r.drivers

def keys (r : Registry σ ω α) : List String :=
  Keyed.keys r.drivers

/-- The entry for the driver of an instance. -/
def entry (r : Registry σ ω α) (name driver : String) :
    Except ConfigError (DriverEntry σ ω α) :=
  match Text.nonBlank? driver with
  | none => .error (.noDriver name)
  | some key =>
    match Keyed.find? key r.drivers with
    | none => .error (.unknownDriver name key)
    | some e => .ok e

/-- The adapter that the driver's entry makes. -/
def build (r : Registry σ ω α) (name : String) (config : InstanceConfig) :
    ExceptT ConfigError (StateM ω) α := do
  let e ← MonadExcept.ofExcept (r.entry name config.driver)
  e.make name config

end Registry

end SqlGateway
