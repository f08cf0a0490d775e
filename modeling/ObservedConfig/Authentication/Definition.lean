import ObservedConfig.Authentication.Validation
import ObservedConfig.Datum
import ObservedConfig.Entries

/-! The definition of the authentication resource as it is installed in a cluster: its names, the
columns it is listed with, and the schema of its fields. All keywords stand in increasing order. -/
namespace ObservedConfig.Authentication

abbrev Schema := List (String × Datum)

namespace Schema

def toDatum (s : Schema) : Datum := .object (Entries.ofList s)

def withKey (name : String) (value : Datum) (s : Schema) : Schema := (name, value) :: s

def string : Schema := [("type", .text "string")]

def oneOf (names : List String) : Schema := string.withKey "enum" (.texts names)

def array (items : Schema) : Schema := [("type", .text "array"), ("items", items.toDatum)]

def record (properties : List (String × Schema)) (required : List String) : Schema :=
  [("type", .text "object"),
    ("properties", .object (Entries.ofList (properties.map fun (name, s) => (name, s.toDatum))))] ++
  if required.isEmpty then [] else [("required", .texts required)]

def described (text : String) : Schema → Schema := withKey "description" (.text text)

def withDefault (value : Datum) : Schema → Schema := withKey "default" value

def nullable : Schema → Schema := withKey "nullable" (.bool true)

end Schema

open Schema

def noText : Datum := .text ""
def noItems : Datum := .seq []

def text : Schema := string.withDefault noText

def textList : Schema := (array string).withDefault noItems

def referenceDefault : Datum := .object [("name", noText)]

def issuerSchema : Schema :=
  record [
    ("issuerURL", text.described "Issuer URL; must use https"),
    ("audiences", textList.described "Accepted token audiences"),
    ("issuerCertificateAuthority",
      ((record [("name", text)] []).withDefault referenceDefault).described
        "ConfigMap in the config namespace holding the issuer CA bundle")] []
  |>.described "Token issuer"
  |>.withDefault (.object [("audiences", noItems), ("issuerCertificateAuthority", referenceDefault),
    ("issuerURL", noText)])

def clientSchema : Schema :=
  record [
    ("componentName", string),
    ("componentNamespace", string),
    ("clientID", text.described "Client ID registered with the provider"),
    ("extraScopes", textList)] ["componentName", "componentNamespace"]
  |>.described "OIDC client for a single cluster component"

def usernameDefault : Datum :=
  .object [("claim", noText), ("prefix", .null), ("prefixPolicy", noText)]

def groupsDefault : Datum := .object [("claim", noText), ("prefix", noText)]

def usernameSchema : Schema :=
  record [
    ("claim", text),
    ("prefixPolicy", ((oneOf ([.noOpinion, .noPrefix, .prefixed].map PrefixPolicy.name)).described
      "How usernames get prefixed").withDefault noText),
    ("prefix", ((record [("prefixString", string)] ["prefixString"]).described
      "Required when the policy is `Prefix`").nullable)] []
  |>.described "Username claim mapping"
  |>.withDefault usernameDefault

def groupsSchema : Schema :=
  record [("claim", text), ("prefix", text)] []
  |>.described "Claim mapping with an optional prefix"
  |>.withDefault groupsDefault

def mappingsSchema : Schema :=
  record [("username", usernameSchema), ("groups", groupsSchema)] []
  |>.described "How token claims map to user attributes"
  |>.withDefault (.object [("groups", groupsDefault), ("username", usernameDefault)])

def requiredClaimSchema : Schema :=
  record [("claim", string), ("requiredValue", string)] ["claim", "requiredValue"]
  |>.described "Claim that must be present with an exact value"
  |>.nullable

def expressionSchema : Schema :=
  record [("expression", string), ("message", text)] ["expression"]
  |>.described "CEL validation rule"
  |>.nullable

def ruleSchema : Schema :=
  record [
    ("type", ((oneOf ([.requiredClaim, .expression].map RuleKind.name)).described
      "Token validation rule type").withDefault (.text RuleKind.requiredClaim.name)),
    ("requiredClaim", requiredClaimSchema),
    ("cel", expressionSchema)] []
  |>.described "Token claim validation rule"

def boundedList (items : Schema) (most : Nat) (about : String) : Schema :=
  (((array items).withKey "maxItems" (.int most)).withDefault noItems).described about

def providerSchema : Schema :=
  record [
    ("name", (string.withKey "maxLength" (.int maxProviderName)).described "Provider name"),
    ("issuer", issuerSchema),
    ("oidcClients", boundedList clientSchema maxClients "Per-component OIDC clients"),
    ("claimMappings", mappingsSchema),
    ("claimValidationRules", boundedList ruleSchema maxRules "Rules tokens must satisfy")] ["name"]
  |>.described "External OIDC provider"

def specSchema : Schema :=
  record [
    ("type", ((oneOf ([.unset, .integratedOAuth, .none, .oidc].map Kind.name)).described
      "Identity provider type").withDefault noText),
    ("oidcProviders", ((array providerSchema).withDefault noItems).described
      "External OIDC providers (admission allows at most one)")] []
  |>.described ("Authentication custom resource definition\n\n" ++
    "Cluster-wide authentication settings. The observers read the singleton named `cluster`.")

def resourceSchema : Schema :=
  record [("spec", specSchema)] ["spec"]
  |>.described "Auto-generated derived type for AuthenticationSpec via `CustomResource`"
  |>.withKey "title" (.text "Authentication")

def column (name type path : String) : Datum :=
  .object [("jsonPath", .text path), ("name", .text name), ("type", .text type)]

def group : String := "config.openshift.io"
def plural : String := "authentications"

def version : Datum := .object [
  ("additionalPrinterColumns", .seq [
    column "Type" "string" ".spec.type",
    column "Age" "date" ".metadata.creationTimestamp"]),
  ("name", .text "v1"),
  ("schema", .object [("openAPIV3Schema", resourceSchema.toDatum)]),
  ("served", .bool true),
  ("storage", .bool true),
  ("subresources", .object [])]

def definition : Datum := .object [
  ("apiVersion", .text "apiextensions.k8s.io/v1"),
  ("kind", .text "CustomResourceDefinition"),
  ("metadata", .object [("name", .text (plural ++ "." ++ group))]),
  ("spec", .object [
    ("group", .text group),
    ("names", .object [
      ("categories", .seq []),
      ("kind", .text "Authentication"),
      ("plural", .text plural),
      ("shortNames", .seq []),
      ("singular", .text "authentication")]),
    ("scope", .text "Cluster"),
    ("versions", .seq [version])])]

end ObservedConfig.Authentication
