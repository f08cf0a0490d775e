import ObservedConfig.Authentication.Resource
import ObservedConfig.ConfigMap
import ObservedConfig.Error

/-! Reading the state of a cluster. All queries are answered at one point in time, and each of them
may fail apart from the others; a resource that is not there is no failure. -/
namespace ObservedConfig

/-- The answers of a cluster at one point in time. -/
structure Lookup where
  authentication : String → Except ObserveError (Option Authentication)
  configMap : Location → Except ObserveError (Option ConfigMap)

structure Snapshot where
  authentications : List (String × Authentication)
  configMaps : List (Location × ConfigMap)
  deriving DecidableEq, Inhabited

namespace Snapshot

def empty : Snapshot := ⟨[], []⟩

/-- A later resource of the same name replaces an earlier one. -/
def addAuthentication (s : Snapshot) (a : Authentication) : Snapshot :=
  { s with authentications := Entries.insert a.name a s.authentications }

def addConfigMap (s : Snapshot) (c : ConfigMap) : Snapshot :=
  { s with configMaps := Entries.insert c.location c s.configMaps }

def removeAuthentication (s : Snapshot) (name : String) : Snapshot :=
  { s with authentications := Entries.erase name s.authentications }

def size (s : Snapshot) : Nat := s.authentications.length + s.configMaps.length

def authentication? (s : Snapshot) (name : String) : Option Authentication :=
  Entries.find? name s.authentications

def configMap? (s : Snapshot) (place : Location) : Option ConfigMap :=
  Entries.find? place s.configMaps

/-- Looking up in a snapshot never fails. -/
def lookup (s : Snapshot) : Lookup where
  authentication name := .ok (s.authentication? name)
  configMap place := .ok (s.configMap? place)

end Snapshot

end ObservedConfig
