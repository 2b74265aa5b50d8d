import SqlGateway.Config.Source
import SqlGateway.Registry

/-!
# Named instances

Adapters by the names of their instances, made when first asked for and kept.
Making one reads the configuration; what else it does is up to the registry.

    get n succeeded with adapter a  →  every later get n answers a
-/

namespace SqlGateway

structure Instances (σ ω α : Type) where
  registry : Registry σ ω α
  /-- The adapters that are kept, by name. -/
  named : Keyed α := []

/-- The instances, and the worlds of the configuration source and of the drivers. -/
abbrev InstancesM (σ τ ω α : Type) : Type → Type :=
  ExceptT ConfigError (StateM (Instances σ ω α × τ × ω))

namespace Instances

variable {σ τ ω α : Type}

def isLoaded (i : Instances σ ω α) (name : String) : Bool :=
  Keyed.contains name i.named

/-- A new adapter that is not kept under its name. -/
def make (source : ConfigSource τ) (name : String) : InstancesM σ τ ω α α := do
  let (i, world, drivers) ← get
  let (found, world) := (source.get name).run world
  set (i, world, drivers)
  let config ← MonadExcept.ofExcept found
  let (built, drivers) := (i.registry.build name config).run drivers
  set (i, world, drivers)
  MonadExcept.ofExcept built

/-- The adapter of a name, or of the default instance. -/
def get (source : ConfigSource τ) (name : Option String) : InstancesM σ τ ω α α := do
  let name := name.getD defaultInstance
  match Keyed.find? name (← MonadState.get).1.named with
  | some adapter => return adapter
  | none =>
    let adapter ← make source name
    modify fun (i, worlds) => ({ i with named := Keyed.insert name adapter i.named }, worlds)
    return adapter

end Instances

end SqlGateway
