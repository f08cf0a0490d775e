import ObservedConfig.Authentication.Spec
import ObservedConfig.Datum.Shape

/-! Authentication specs as documents. Every field that may be absent has a default, and writing
gives all of them. -/
namespace ObservedConfig.Authentication

def Kind.read (format : Format) : Read Kind :=
  .variant format ([.unset, .integratedOAuth, .none, .oidc].map fun kind => (kind.name, kind))

def PrefixPolicy.read (format : Format) : Read PrefixPolicy :=
  .variant format ([.noOpinion, .noPrefix, .prefixed].map fun policy => (policy.name, policy))

def RuleKind.read (format : Format) : Read RuleKind :=
  .variant format ([.requiredClaim, .expression].map fun kind => (kind.name, kind))

def texts (format : Format) : Read (List String) := .list format .text

/-- A reference to a config map is read as the name it gives. -/
def referenceShape : Shape String where
  name := "struct ConfigMapNameReference"
  blank := ""
  fields := [.optional "name" .text fun name _ => name]

def issuerShape (format : Format) : Shape Issuer where
  name := "struct TokenIssuer"
  blank := ⟨"", [], ""⟩
  fields := [
    .optional "issuerURL" .text fun url r => { r with url },
    .optional "audiences" (texts format) fun audiences r => { r with audiences },
    .optional "issuerCertificateAuthority" (referenceShape.read format)
      fun certificateAuthority r => { r with certificateAuthority }]

def clientShape (format : Format) : Shape Client where
  name := "struct OidcClientConfig"
  blank := ⟨"", "", "", []⟩
  fields := [
    .required "componentName" .text fun componentName r => { r with componentName },
    .required "componentNamespace" .text fun componentNamespace r => { r with componentNamespace },
    .optional "clientID" .text fun clientId r => { r with clientId },
    .optional "extraScopes" (texts format) fun extraScopes r => { r with extraScopes }]

def leadShape : Shape String where
  name := "struct UsernamePrefix"
  blank := ""
  fields := [.required "prefixString" .text fun text _ => text]

def usernameShape (format : Format) : Shape UsernameMapping where
  name := "struct UsernameClaimMapping"
  blank := ⟨"", .noOpinion, none⟩
  fields := [
    .optional "claim" .text fun claim r => { r with claim },
    .optional "prefixPolicy" (PrefixPolicy.read format) fun policy r => { r with policy },
    .optional "prefix" (.option (leadShape.read format)) fun lead r => { r with lead }]

def groupsShape : Shape GroupsMapping where
  name := "struct PrefixedClaimMapping"
  blank := ⟨"", ""⟩
  fields := [
    .optional "claim" .text fun claim r => { r with claim },
    .optional "prefix" .text fun lead r => { r with lead }]

def mappingsShape (format : Format) : Shape ClaimMappings where
  name := "struct TokenClaimMappings"
  blank := ⟨(usernameShape format).blank, groupsShape.blank⟩
  fields := [
    .optional "username" ((usernameShape format).read format) fun username r => { r with username },
    .optional "groups" (groupsShape.read format) fun groups r => { r with groups }]

def requiredClaimShape : Shape RequiredClaim where
  name := "struct TokenRequiredClaim"
  blank := ⟨"", ""⟩
  fields := [
    .required "claim" .text fun claim r => { r with claim },
    .required "requiredValue" .text fun value r => { r with value }]

def expressionShape : Shape Expression where
  name := "struct TokenClaimValidationCelRule"
  blank := ⟨"", ""⟩
  fields := [
    .required "expression" .text fun text r => { r with text },
    .optional "message" .text fun message r => { r with message }]

def ruleShape (format : Format) : Shape Rule where
  name := "struct TokenClaimValidationRule"
  blank := ⟨.requiredClaim, none, none⟩
  fields := [
    .optional "type" (RuleKind.read format) fun kind r => { r with kind },
    .optional "requiredClaim" (.option (requiredClaimShape.read format))
      fun requiredClaim r => { r with requiredClaim },
    .optional "cel" (.option (expressionShape.read format))
      fun expression r => { r with expression }]

def providerShape (format : Format) : Shape Provider where
  name := "struct OidcProvider"
  blank := ⟨"", (issuerShape format).blank, [], (mappingsShape format).blank, []⟩
  fields := [
    .required "name" .text fun name r => { r with name },
    .optional "issuer" ((issuerShape format).read format) fun issuer r => { r with issuer },
    .optional "oidcClients" (.list format ((clientShape format).read format))
      fun clients r => { r with clients },
    .optional "claimMappings" ((mappingsShape format).read format)
      fun mappings r => { r with mappings },
    .optional "claimValidationRules" (.list format ((ruleShape format).read format))
      fun rules r => { r with rules }]

def specShape (format : Format) : Shape Spec where
  name := "struct AuthenticationSpec"
  blank := ⟨.unset, []⟩
  fields := [
    .optional "type" (Kind.read format) fun kind r => { r with kind },
    .optional "oidcProviders" (.list format ((providerShape format).read format))
      fun providers r => { r with providers }]

def Spec.read (format : Format) : Read Spec := (specShape format).read format

def orNull (write : α → Datum) : Option α → Datum
  | none => .null
  | some a => write a

def Issuer.toDatum (i : Issuer) : Datum := .object [
  ("issuerURL", .text i.url),
  ("audiences", .texts i.audiences),
  ("issuerCertificateAuthority", .object [("name", .text i.certificateAuthority)])]

def Client.toDatum (c : Client) : Datum := .object [
  ("componentName", .text c.componentName),
  ("componentNamespace", .text c.componentNamespace),
  ("clientID", .text c.clientId),
  ("extraScopes", .texts c.extraScopes)]

def UsernameMapping.toDatum (m : UsernameMapping) : Datum := .object [
  ("claim", .text m.claim),
  ("prefixPolicy", .text m.policy.name),
  ("prefix", orNull (fun text => .object [("prefixString", .text text)]) m.lead)]

def GroupsMapping.toDatum (m : GroupsMapping) : Datum := .object [
  ("claim", .text m.claim), ("prefix", .text m.lead)]

def ClaimMappings.toDatum (m : ClaimMappings) : Datum := .object [
  ("username", m.username.toDatum), ("groups", m.groups.toDatum)]

def RequiredClaim.toDatum (c : RequiredClaim) : Datum := .object [
  ("claim", .text c.claim), ("requiredValue", .text c.value)]

def Expression.toDatum (e : Expression) : Datum := .object [
  ("expression", .text e.text), ("message", .text e.message)]

def Rule.toDatum (r : Rule) : Datum := .object [
  ("type", .text r.kind.name),
  ("requiredClaim", orNull RequiredClaim.toDatum r.requiredClaim),
  ("cel", orNull Expression.toDatum r.expression)]

def Provider.toDatum (p : Provider) : Datum := .object [
  ("name", .text p.name),
  ("issuer", p.issuer.toDatum),
  ("oidcClients", .seq (p.clients.map Client.toDatum)),
  ("claimMappings", p.mappings.toDatum),
  ("claimValidationRules", .seq (p.rules.map Rule.toDatum))]

def Spec.toDatum (s : Spec) : Datum := .object [
  ("type", .text s.kind.name),
  ("oidcProviders", .seq (s.providers.map Provider.toDatum))]

end ObservedConfig.Authentication
