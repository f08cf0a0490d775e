import ObservedConfig.Cluster.Lookup

/-! Replicas: config maps in the workload's namespace that hold the content of another config map.
Whether a replica has to be copied again or deleted depends on contents: a copy is asked for only
when the replica is missing, its source is gone, or they differ. A plan is a decision nobody has
been told of yet, so that a pass can check everything before it asks for anything. -/
namespace ObservedConfig.Replica

inductive Outcome where
  /-- The replica is as it should be. -/
  | unchanged
  /-- A copy is asked for. -/
  | synced
  /-- The replica's deletion is asked for. -/
  | removed
  deriving DecidableEq, Inhabited

def Outcome.name : Outcome → String
  | unchanged => "Unchanged"
  | synced => "Synced"
  | removed => "Removed"

/-- Whether the contents at a key differ; without a key all texts count. -/
def differs (target source : TextMap) (key : Option String) : Except ObserveError Bool :=
  match key.filter fun key => !key.isEmpty with
  | none => .ok (target != source)
  | some key =>
    match Entries.find? key target, Entries.find? key source with
    | some current, some desired => .ok (current != desired)
    | none, none => .error (.comparisonKeyMissing key)
    | _, _ => .ok true

/-- Whether the config map at `target` is not a replica of `source`. -/
def needsSync (lookup : Lookup) (target source : Location) (key : Option String) :
    Except ObserveError Bool := do
  match ← lookup.configMap target with
  | none => return true
  | some existing =>
    if source.isEmpty then return true
    match ← lookup.configMap source with
    | none => throw (.sourceNotFound source)
    | some desired => differs existing.texts desired.texts key

/-- A decision about a replica, with the source to ask for, if anything is to be asked for. The
empty source asks for deletion. -/
structure Plan where
  target : Location
  request : Option Location
  outcome : Outcome
  deriving DecidableEq, Inhabited

def planSync (lookup : Lookup) (target source : Location) (key : Option String) :
    Except ObserveError Plan := do
  if ← needsSync lookup target source key then
    if source.isEmpty then return ⟨target, some .empty, .removed⟩
    else return ⟨target, some source, .synced⟩
  else return ⟨target, none, .unchanged⟩

/-- Plans a deletion, which is asked for even when the replica is not there. -/
def planRemoval (lookup : Lookup) (target : Location) : Except ObserveError Plan := do
  let present := (← lookup.configMap target).isSome
  return ⟨target, some .empty, if present then .removed else .unchanged⟩

/-- Whoever is asked for replicas. A request may be rejected, and what the next request meets may
depend on it either way. -/
class Syncer (σ : Type) where
  request : σ → Location → Location → Except ObserveError Unit × σ

def Plan.issue [Syncer σ] (plan : Plan) (syncer : σ) : Except ObserveError Unit × σ :=
  match plan.request with
  | none => (.ok (), syncer)
  | some source => Syncer.request syncer plan.target source

def carryOut [Syncer σ] (planned : Except ObserveError Plan) (syncer : σ) :
    Except ObserveError Outcome × σ :=
  match planned with
  | .error e => (.error e, syncer)
  | .ok plan =>
    match plan.issue syncer with
    | (.error e, syncer) => (.error e, syncer)
    | (.ok _, syncer) => (.ok plan.outcome, syncer)

def syncIfNeeded [Syncer σ] (lookup : Lookup) (syncer : σ) (target source : Location)
    (key : Option String) : Except ObserveError Outcome × σ :=
  carryOut (planSync lookup target source key) syncer

def remove [Syncer σ] (lookup : Lookup) (syncer : σ) (target : Location) :
    Except ObserveError Outcome × σ :=
  carryOut (planRemoval lookup target) syncer

/-- The replica of a config map at a target: its content, and nothing else of it. -/
def copied (target : Location) (source : ConfigMap) : ConfigMap where
  metadata := .located target.namespaceName target.name
  data := source.data
  binaryData := source.binaryData
  immutable := none

end ObservedConfig.Replica
