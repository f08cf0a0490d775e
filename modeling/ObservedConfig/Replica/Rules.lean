import ObservedConfig.Replica.Plan

/-! The rules by which replicas are made: for each target the source it is copied from. Asking
for what is already in force changes nothing, and the generation counts the changes. -/
namespace ObservedConfig.Replica

structure Rules where
  /-- All targets are in this namespace. -/
  namespaceName : String
  /-- Sources by target; the empty source stands for deletion. -/
  sources : List (Location × Location)
  generation : UInt64
  deriving DecidableEq, Inhabited

namespace Rules

def empty (namespaceName : String) : Rules := ⟨namespaceName, [], 0⟩

def source? (rules : Rules) (target : Location) : Option Location :=
  Entries.find? target rules.sources

def rejection? (rules : Rules) (target : Location) : Option ObserveError :=
  if target.namespaceName ≠ rules.namespaceName then
    some (.sync ("target " ++ target.display ++ " is outside namespace " ++ rules.namespaceName))
  else if target.isEmpty then some (.sync "target name is empty")
  else none

def request (rules : Rules) (target source : Location) : Except ObserveError Rules :=
  match rules.rejection? target with
  | some e => .error e
  | none =>
    if rules.source? target = some source then .ok rules
    else .ok { rules with
      sources := Entries.insert target source rules.sources
      generation := rules.generation + 1 }

def issue (rules : Rules) (plan : Plan) : Except ObserveError Rules :=
  match plan.request with
  | none => .ok rules
  | some source => rules.request plan.target source

/-- A rejected request leaves the rules as they are. -/
@[default_instance] instance : Syncer Rules where
  request rules target source :=
    match rules.request target source with
    | .ok rules => (.ok (), rules)
    | .error e => (.error e, rules)

end Rules

end ObservedConfig.Replica
