import ObservedConfig.Error

/-! Feature gates. Whether any set of gates has been seen yet, and which gates the current set
enables, are two questions: before the first set is seen a gate is unknown and not off. -/
namespace ObservedConfig

/-- Names of enabled and of disabled gates, each in increasing order. -/
structure FeatureGates where
  enabled : List String
  disabled : List String
  deriving DecidableEq, Inhabited

namespace FeatureGates

def ofLists (enabled disabled : List String) : FeatureGates :=
  ⟨Entries.distinct enabled, Entries.distinct disabled⟩

/-- A gate that the set does not know is off. -/
def isEnabled (gates : FeatureGates) (name : String) : Bool := gates.enabled.contains name

end FeatureGates

structure GateAccess where
  isObserved : Bool
  current : Except ObserveError FeatureGates
  deriving Inhabited

namespace GateAccess

def fixed (gates : FeatureGates) : GateAccess := ⟨true, .ok gates⟩

def ofLatest : Option FeatureGates → GateAccess
  | none => ⟨false, .error (.featureGates "no feature gates observed yet")⟩
  | some gates => fixed gates

def gates? (access : GateAccess) : Except ObserveError (Option FeatureGates) :=
  if access.isObserved then access.current.map some else .ok none

end GateAccess

end ObservedConfig
