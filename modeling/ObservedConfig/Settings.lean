import ObservedConfig.Error
import ObservedConfig.Violation
import ObservedConfig.Yaml.Document

/-! The namespaces, names of resources, paths of files and names of gates that observers work with.
The defaults match a stock cluster. -/
namespace ObservedConfig

/-- A replica in the workload's namespace that is mounted there as a file. -/
structure MountedFile where
  /-- The config map in the workload's namespace. -/
  configMap : String
  /-- The key that is compared and mounted. -/
  key : String
  /-- Where the key is mounted. -/
  path : String
  deriving DecidableEq, Inhabited

structure Settings where
  /-- The namespace of the workload; replicas live here. -/
  targetNamespace : String
  /-- The namespace of config maps that users provide. -/
  configNamespace : String
  /-- The namespace of config maps that are generated. -/
  managedConfigNamespace : String
  /-- The component whose client entry counts. -/
  componentName : String
  /-- The certificate bundle of the issuer. -/
  caBundle : MountedFile
  /-- The structured authentication configuration. -/
  authConfig : MountedFile
  /-- The config map the structured configuration is copied from. -/
  authConfigSource : String
  /-- The gate of the observer of external providers. -/
  externalOidcGate : String
  /-- The gate of structured configuration. -/
  structuredAuthGate : String
  deriving DecidableEq, Inhabited

namespace MountedFile

def ofKey (configMap key : String) : MountedFile :=
  ⟨configMap, key, "/etc/kubernetes/static-pod-resources/configmaps/" ++ configMap ++ "/" ++ key⟩

def shape : Shape MountedFile where
  name := "struct MirroredFile"
  blank := ⟨"", "", ""⟩
  fields := [
    .required "configMap" .text fun configMap f => { f with configMap },
    .required "key" .text fun key f => { f with key },
    .required "path" .text fun path f => { f with path }]

end MountedFile

def emptyProblem? (name value : String) : Option String :=
  if value.isEmpty then some (name ++ " must not be empty") else none

def MountedFile.violations (f : MountedFile) : List Violation :=
  Violation.field "config_map" (emptyProblem? "configMap" f.configMap) ++
    Violation.field "key" (emptyProblem? "key" f.key) ++
    Violation.field "path" (emptyProblem? "path" f.path)

namespace Settings

def standard : Settings where
  targetNamespace := "openshift-kube-apiserver"
  configNamespace := "openshift-config"
  managedConfigNamespace := "openshift-config-managed"
  componentName := "kube-apiserver"
  caBundle := .ofKey "oidc-serving-ca-bundle" "ca-bundle.crt"
  authConfig := .ofKey "auth-config" "auth-config.json"
  authConfigSource := "auth-config"
  externalOidcGate := "ExternalOIDC"
  structuredAuthGate := "ExternalOIDCWithUIDAndExtraClaimMappings"

def shape (format : Format) : Shape Settings where
  name := "struct ObserverConfig"
  blank := standard
  fields := [
    .optional "targetNamespace" .text fun targetNamespace s => { s with targetNamespace },
    .optional "configNamespace" .text fun configNamespace s => { s with configNamespace },
    .optional "managedConfigNamespace" .text
      fun managedConfigNamespace s => { s with managedConfigNamespace },
    .optional "componentName" .text fun componentName s => { s with componentName },
    .optional "caBundle" (MountedFile.shape.read format) fun caBundle s => { s with caBundle },
    .optional "authConfig" (MountedFile.shape.read format)
      fun authConfig s => { s with authConfig },
    .optional "authConfigSource" .text fun authConfigSource s => { s with authConfigSource },
    .optional "externalOidcGate" .text fun externalOidcGate s => { s with externalOidcGate },
    .optional "structuredAuthGate" .text
      fun structuredAuthGate s => { s with structuredAuthGate }]

def read (format : Format) : Read Settings := (shape format).read format

def violations (s : Settings) : List Violation :=
  Violation.field "target_namespace" (emptyProblem? "targetNamespace" s.targetNamespace) ++
    Violation.field "config_namespace" (emptyProblem? "configNamespace" s.configNamespace) ++
    Violation.field "managed_config_namespace"
      (emptyProblem? "managedConfigNamespace" s.managedConfigNamespace) ++
    Violation.field "component_name" (emptyProblem? "componentName" s.componentName) ++
    Violation.under "ca_bundle" s.caBundle.violations ++
    Violation.under "auth_config" s.authConfig.violations ++
    Violation.field "auth_config_source" (emptyProblem? "authConfigSource" s.authConfigSource)

def checked (s : Settings) : Except ObserveError Settings :=
  if s.violations.isEmpty then .ok s else .error (.invalidConfig (Violation.report s.violations))

/-- The fields of the settings, in which every scalar counts as a text. -/
def outline : Yaml.Outline :=
  let file := Yaml.Outline.record [("configMap", .text), ("key", .text), ("path", .text)]
  .record [
    ("targetNamespace", .text), ("configNamespace", .text), ("managedConfigNamespace", .text),
    ("componentName", .text), ("caBundle", file), ("authConfig", file),
    ("authConfigSource", .text), ("externalOidcGate", .text), ("structuredAuthGate", .text)]

/-- Settings from a YAML text; fields that are left out have their defaults. -/
def ofYaml (text : String) : Except ObserveError Settings := do
  ((← (Yaml.readRecord outline (shape .yaml) text).mapError ObserveError.yaml)).checked

end Settings

def MountedFile.toDatum (f : MountedFile) : Datum := .object [
  ("configMap", .text f.configMap), ("key", .text f.key), ("path", .text f.path)]

def Settings.toDatum (s : Settings) : Datum := .object [
  ("targetNamespace", .text s.targetNamespace),
  ("configNamespace", .text s.configNamespace),
  ("managedConfigNamespace", .text s.managedConfigNamespace),
  ("componentName", .text s.componentName),
  ("caBundle", s.caBundle.toDatum),
  ("authConfig", s.authConfig.toDatum),
  ("authConfigSource", .text s.authConfigSource),
  ("externalOidcGate", .text s.externalOidcGate),
  ("structuredAuthGate", .text s.structuredAuthGate)]

end ObservedConfig
