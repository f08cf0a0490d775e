import ObservedConfig.Replica.Rules

/-! Applying replica rules to an API server. The server holds config maps and may refuse any
request, also one that it has answered before; a run of the rules ends at the first refusal that is
not a missing object. -/
namespace ObservedConfig.Replica

inductive Request where
  | get (place : Location)
  | delete (place : Location)
  /-- Puts an object in the place of the one that stands there, if any. -/
  | patch (place : Location) (object : ConfigMap)
  deriving DecidableEq, Inhabited

namespace Request

def verb : Request → String
  | get _ => "GET"
  | delete _ => "DELETE"
  | patch _ _ => "PATCH"

def place : Request → Location
  | get l | delete l | patch l _ => l

def path (r : Request) : String :=
  "/api/v1/namespaces/" ++ r.place.namespaceName ++ "/configmaps/" ++ r.place.name

def parameters : Request → List String
  | patch _ _ => ["fieldManager=kas-config-observer", "force=true"]
  | _ => []

def summary (r : Request) : String :=
  r.verb ++ " " ++ r.place.namespaceName ++ "/" ++ r.place.name

end Request

structure Server where
  configMaps : List (Location × ConfigMap)
  /-- The answer to a request that is refused after those that were sent before it. -/
  refusal : List Request → Request → Option ApiStatus

/-- A run against a server: the server as it is left, and the requests in their order. -/
structure Run where
  server : Server
  requests : List Request

def statusNotFound : ApiStatus := ⟨"Failure", "not found", "NotFound", 404⟩

namespace Run

def sent (run : Run) (r : Request) : Run := { run with requests := run.requests ++ [r] }

def withConfigMaps (run : Run) (configMaps : List (Location × ConfigMap)) : Run :=
  { run with server := { run.server with configMaps } }

/-- The object at a location; nothing when the server says that there is none. -/
def get (run : Run) (place : Location) : Except ApiStatus (Option ConfigMap) × Run :=
  let run' := run.sent (.get place)
  match run.server.refusal run.requests (.get place) with
  | some status => (if status.reason = "NotFound" then .ok none else .error status, run')
  | none => (.ok (Entries.find? place run.server.configMaps), run')

/-- Deletes the object at a location; a missing object is no failure. -/
def delete (run : Run) (place : Location) : Except ApiStatus Unit × Run :=
  let run' := run.sent (.delete place)
  match run.server.refusal run.requests (.delete place) with
  | some status => (if status.code = 404 then .ok () else .error status, run')
  | none => (.ok (), run'.withConfigMaps (Entries.erase place run.server.configMaps))

def patch (run : Run) (place : Location) (object : ConfigMap) : Except ApiStatus Unit × Run :=
  let run' := run.sent (.patch place object)
  match run.server.refusal run.requests (.patch place object) with
  | some status => (.error status, run')
  | none => (.ok (), run'.withConfigMaps (Entries.insert place object run.server.configMaps))

/-- Makes one target what its rule says; a source that does not exist stands for deletion. -/
def applyRule (run : Run) (target source : Location) : Except ApiStatus Unit × Run :=
  if source.isEmpty then run.delete target
  else
    match run.get source with
    | (.error status, run) => (.error status, run)
    | (.ok none, run) => run.delete target
    | (.ok (some object), run) => run.patch target (copied target object)

/-- Applies rules in order up to the first failure. -/
def applyRules (run : Run) : List (Location × Location) → Except ApiStatus Unit × Run
  | [] => (.ok (), run)
  | (target, source) :: rest =>
    match run.applyRule target source with
    | (.ok _, run) => run.applyRules rest
    | (.error status, run) => (.error status, run)

end Run

def Rules.apply (rules : Rules) (server : Server) : Except ObserveError Unit × Run :=
  let (result, run) := Run.applyRules ⟨server, []⟩ rules.sources
  (result.mapError ObserveError.api, run)

end ObservedConfig.Replica
