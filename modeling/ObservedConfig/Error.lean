import ObservedConfig.Location
import ObservedConfig.Text.Escaped
import ObservedConfig.Tree
import ObservedConfig.Yaml.Fault

/-! What can go wrong while cluster state is observed. Each cause is a constructor, `message` gives
its wording, and `isRetryable` tells which failures may pass on their own. -/
namespace ObservedConfig

structure ApiStatus where
  status : String
  text : String
  reason : String
  code : Nat
  deriving DecidableEq, Inhabited

inductive ObserveError where
  | api (status : ApiStatus)
  | notFound (kind name namespaceName : String)
  /-- Cluster state could not be looked up. -/
  | lookup (reason : String)
  /-- A resource violates what admission should have enforced. -/
  | schemaViolation (reason : String)
  | invalidField (field reason : String)
  /-- A source named for a replica does not exist. -/
  | sourceNotFound (source : Location)
  /-- The compared key is in neither of two config maps. -/
  | comparisonKeyMissing (key : String)
  /-- A request for a replica was rejected. -/
  | sync (reason : String)
  | pathTypeMismatch (path expected : String)
  | pathOwnershipConflict (path first second : String)
  | featureGates (reason : String)
  | invalidConfig (reason : String)
  | yaml (fault : Yaml.Fault)
  | io (reason : String)
  deriving Inhabited

namespace ApiStatus

def message (s : ApiStatus) : String :=
  "ApiError: " ++ s.text ++ ": " ++ s.reason ++ " (ErrorResponse \x7b status: "
    ++ Text.escaped s.status ++ ", message: " ++ Text.escaped s.text
    ++ ", reason: " ++ Text.escaped s.reason ++ ", code: " ++ toString s.code ++ " \x7d)"

end ApiStatus

namespace ObserveError

def message : ObserveError → String
  | api status => "Kubernetes API error: " ++ status.message
  | notFound kind name ns =>
    "Resource not found: " ++ kind ++ "/" ++ name ++ " in namespace " ++ ns
  | lookup reason => "Lookup failed: " ++ reason
  | schemaViolation reason => "Invalid resource: " ++ reason
  | invalidField field reason => "Invalid field " ++ field ++ ": " ++ reason
  | sourceNotFound source =>
    "Source configmap " ++ source.namespaceName ++ "/" ++ source.name ++ " not found"
  | comparisonKeyMissing key => "key '" ++ key ++ "' not found in either configmap"
  | sync reason => "Resource sync failed: " ++ reason
  | pathTypeMismatch path expected => "Value at " ++ path ++ " is not a " ++ expected
  | pathOwnershipConflict path first second =>
    "Path " ++ path ++ " is claimed by both " ++ first ++ " and " ++ second
  | featureGates reason => "Feature gates unavailable: " ++ reason
  | invalidConfig reason => "Invalid configuration: " ++ reason
  | yaml fault => "YAML serialization error: " ++ fault.message
  | io reason => "I/O error: " ++ reason

def isNotFound : ObserveError → Bool
  | notFound _ _ _ => true
  | _ => false

/-- Failures outside the observed state itself, which a later attempt may not meet. -/
def isRetryable : ObserveError → Bool
  | api _ | lookup _ | sync _ | featureGates _ => true
  | _ => false

/-- Seconds after which a retryable failure is worth another attempt. -/
def requeueDelay (e : ObserveError) : Option Nat := if e.isRetryable then some 30 else none

def missingFile : ObserveError := io "No such file or directory (os error 2)"

def ofTree : Tree.Fault → ObserveError
  | .emptyPath => invalidConfig "empty path"
  | .notMap path => pathTypeMismatch path.display "map"
  | .notList path => pathTypeMismatch path.display "list"

end ObserveError

def orError (result : Except Tree.Fault α) : Except ObserveError α :=
  result.mapError ObserveError.ofTree

end ObservedConfig
