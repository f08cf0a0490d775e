import ObservedConfig.Observer.ExternalOidc
import ObservedConfig.Observer.RoleBinding

/-! Observers that work together. No path of one may lie at, above or below a path of another. A
pass runs all observers on the committed configuration and puts their parts together; an observer
that fails contributes what is committed. -/
namespace ObservedConfig

def Path.overlaps : Path → Path → Bool
  | a :: s, b :: t => a == b && Path.overlaps s t
  | _, _ => true

structure Registry (σ : Type := Replica.Rules) where
  /-- In the order of registration. -/
  observers : List (Observer σ)

/-- The result of one run of all observers. -/
structure Pass where
  /-- The next committed configuration. -/
  config : Tree
  changed : Bool
  /-- Errors with the names of the observers they come from. -/
  errors : List (String × ObserveError)
  deriving Inhabited

def Pass.isOk (p : Pass) : Bool := p.errors.isEmpty

namespace Registry

variable {σ : Type}

def empty : Registry σ := ⟨[]⟩

def owners (r : Registry σ) : List (Path × String) :=
  r.observers.flatMap fun o => o.owned.map fun path => (path, o.name)

def names (r : Registry σ) : List String := r.observers.map (·.name)

def ownerOf (r : Registry σ) (path : Path) : Option String :=
  (r.owners.find? fun owner => owner.1 == path).map (·.2)

/-- The first path that overlaps an owned one, with the owner. -/
def conflict? (r : Registry σ) (paths : List Path) : Option (Path × String) :=
  paths.findSome? fun path =>
    (r.owners.find? fun owner => owner.1.overlaps path).map fun owner => (path, owner.2)

/-- Adds an observer whose paths are free. -/
def register (r : Registry σ) (o : Observer σ) : Except ObserveError (Registry σ) :=
  match r.conflict? o.owned with
  | some (path, owner) => .error (.pathOwnershipConflict path.display owner o.name)
  | none => .ok ⟨r.observers ++ [o]⟩

def standard [Replica.Syncer σ] : Except ObserveError (Registry σ) := do
  (← empty.register ExternalOidc.observer).register RoleBinding.observer

def runAll (ctx : Context) (existing : Tree) :
    List (Observer σ) → Session σ → Except Crash (List (Observer σ × Observation) × Session σ)
  | [], session => .ok ([], session)
  | o :: rest, session => do
    let (observation, session) ← o.observe ctx existing session
    let (later, session) ← runAll ctx existing rest session
    return ((o, observation) :: later, session)

def contribution (existing : Tree) : Observer σ × Observation → List Path × Tree
  | (o, observation) => (o.owned, if observation.isOk then observation.config else existing)

def taggedErrors : Observer σ × Observation → List (String × ObserveError)
  | (o, observation) => observation.errors.map fun e => (o.name, e)

def assemble (existing : Tree) (observations : List (Observer σ × Observation)) : Pass :=
  let errors := observations.flatMap taggedErrors
  let (config, errors) :=
    match orError (Slice.mergeOwned existing (observations.map (contribution existing))) with
    | .ok merged => (merged, errors)
    | .error e => (existing, errors ++ [("registry", e)])
  ⟨config, !Tree.same config (Tree.pruned existing), errors⟩

def observe (r : Registry σ) (ctx : Context) (existing : Tree) (session : Session σ) :
    Except Crash (Pass × Session σ) := do
  let (observations, session) ← runAll ctx existing r.observers session
  return (assemble existing observations, session)

end Registry

end ObservedConfig
