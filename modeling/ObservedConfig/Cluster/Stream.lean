import ObservedConfig.Cluster.Lookup
import ObservedConfig.Yaml.Document

/-! Snapshots as streams of YAML documents, one resource each. Empty documents are passed over, and
every other document names the kind of its resource. -/
namespace ObservedConfig.Snapshot

def kindShape : Shape String where
  name := "struct TypeMeta"
  blank := ""
  fields := [.required "kind" .text fun kind _ => kind]

def readPart (read : Read α) (d : Datum) : Except ObserveError α :=
  (read d).mapError fun cause => .yaml (.mismatch cause)

def addDocument (s : Snapshot) (document : Except Yaml.Fault Datum) :
    Except ObserveError Snapshot := do
  match ← document.mapError ObserveError.yaml with
  | .null => return s
  | d =>
    match ← readPart (kindShape.read .yaml) d with
    | "Authentication" => return s.addAuthentication (← readPart (Authentication.read .yaml) d)
    | "ConfigMap" => return s.addConfigMap (← readPart (ConfigMap.read .yaml) d)
    | kind => throw (.invalidConfig ("unsupported kind in snapshot: " ++ kind))

/-- The snapshot that a stream describes; of two resources with one name the later counts. -/
def ofYaml (text : String) : Except ObserveError Snapshot :=
  (Yaml.readAll text).foldlM addDocument empty

end ObservedConfig.Snapshot
