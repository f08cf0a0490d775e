import ObservedConfig.Authentication.Validation
import ObservedConfig.Observer
import ObservedConfig.Url

/-! The observer of external providers of OpenID Connect. It turns the provider of the
authentication resource into command-line arguments, or into one structured configuration file
where that is enabled and has been generated. The issuer's certificate bundle and the structured
configuration are copied to where the workload can mount them. -/
namespace ObservedConfig.ExternalOidc

open Authentication (Provider Client Rule Spec)

def name : String := "ObserveExternalOIDC"

def issuerUrl : String := "oidc-issuer-url"
def clientId : String := "oidc-client-id"
def usernameClaim : String := "oidc-username-claim"
def usernamePrefix : String := "oidc-username-prefix"
def groupsClaim : String := "oidc-groups-claim"
def groupsPrefix : String := "oidc-groups-prefix"
def requiredClaim : String := "oidc-required-claim"
def caFile : String := "oidc-ca-file"
def structuredFile : String := "authentication-config"

def argumentNames : List String := [issuerUrl, clientId, usernameClaim, usernamePrefix, groupsClaim,
  groupsPrefix, requiredClaim, caFile, structuredFile]

def owned : List Path := argumentNames.map fun argument => [argumentsKey, argument]

def noPrefixValue : String := "-"

def removedMessage : String := "Removed ExternalOIDC configuration"
def caSyncedMessage : String := "ExternalOIDC CA bundle configmap synced"
def caRemovedMessage : String := "ExternalOIDC CA bundle configmap removed"
def structuredSyncedMessage : String := "ExternalOIDC authentication config configmap synced"
def structuredRemovedMessage : String := "ExternalOIDC authentication config configmap removed"
def changedMessage : String := "ExternalOIDC configuration changed"

def caTarget (s : Settings) : Location := ⟨s.targetNamespace, s.caBundle.configMap⟩

def structuredTarget (s : Settings) : Location := ⟨s.targetNamespace, s.authConfig.configMap⟩

def structuredSource (s : Settings) : Location := ⟨s.managedConfigNamespace, s.authConfigSource⟩

/-- Where the issuer's certificate bundle comes from, if the provider names one. -/
def caSource (s : Settings) (p : Provider) : Location :=
  if p.issuer.certificateAuthority.isEmpty then .empty
  else ⟨s.configNamespace, p.issuer.certificateAuthority⟩

abbrev Arguments := List (String × List String)

/-- The configuration that holds just these arguments; arguments without values are left out. -/
def Arguments.toTree (arguments : Arguments) : Tree :=
  Tree.pruned [(argumentsKey,
    .tree (Entries.ofList (arguments.map fun (argument, values) => (argument, .list values))))]

/-- An argument of one value, which is left out when the value is empty. -/
def unlessEmpty (argument value : String) : Arguments :=
  if value.isEmpty then [] else [(argument, [value])]

def prefixArgument (m : Authentication.UsernameMapping) : Arguments :=
  match m.policy, m.lead with
  | .noOpinion, _ => []
  | .noPrefix, _ => [(usernamePrefix, [noPrefixValue])]
  | .prefixed, some lead => [(usernamePrefix, [lead])]
  | .prefixed, none => []

/-- The arguments for a provider and the client entry of the component, with a file of its own for
the certificate bundle. -/
def arguments (s : Settings) (p : Provider) (client : Client) : Arguments :=
  [(issuerUrl, [p.issuer.url])] ++
    unlessEmpty clientId client.clientId ++
    unlessEmpty usernameClaim p.mappings.username.claim ++
    unlessEmpty groupsClaim p.mappings.groups.claim ++
    unlessEmpty groupsPrefix p.mappings.groups.lead ++
    prefixArgument p.mappings.username ++
    [(requiredClaim, p.rules.filterMap fun rule => rule.requiredClaim.map (·.argument))] ++
    if p.issuer.certificateAuthority.isEmpty then [] else [(caFile, [s.caBundle.path])]

def urlErrors (url : String) : List ObserveError :=
  match Url.scheme url with
  | .error fault => [.invalidField "issuer.issuerURL" fault.message]
  | .ok scheme =>
    if scheme = "https" then []
    else [.invalidField "issuer.issuerURL" "https is required for provider URL"]

def clientErrors (client : Client) : List ObserveError :=
  if client.clientId.isEmpty then
    [.invalidField "oidcClients.clientID" "OIDC client ID not set"]
  else []

def prefixErrors (m : Authentication.UsernameMapping) : List ObserveError :=
  match m.policy, m.lead with
  | .prefixed, none =>
    [.invalidField "claimMappings.username.prefix" "nil username prefix while policy expects one"]
  | _, _ => []

def ruleField (index : Nat) : String := "claimValidationRules[" ++ toString index ++ "]"

/-- Only rules that require a claim become arguments. -/
def ruleErrorsAt (index : Nat) (rule : Rule) : List ObserveError :=
  (if rule.kind = .requiredClaim then []
    else [.invalidField (ruleField index)
      ("invalid claim validation rule type: " ++ rule.kind.name)]) ++
  if rule.requiredClaim.isSome then []
    else [.invalidField (ruleField index) ("empty validation rule at index " ++ toString index)]

def ruleErrors : Nat → List Rule → List ObserveError
  | _, [] => []
  | index, rule :: rest => ruleErrorsAt index rule ++ ruleErrors (index + 1) rest

/-- All that is wrong with the fields of a provider. Rules do not matter to a structured
configuration, which expresses all kinds of them itself. -/
def fieldErrors (p : Provider) (client : Client) (structured : Bool) : List ObserveError :=
  urlErrors p.issuer.url ++ clientErrors client ++ prefixErrors p.mappings.username ++
    if structured then [] else ruleErrors 0 p.rules

def noClientReason (s : Settings) : String :=
  "no OIDC client config found for component " ++ s.componentName ++ "/" ++ s.targetNamespace

def providerCountReason : String :=
  "exactly one OIDC provider must be configured in authentication.config/cluster resource"

def announcement (synced removed : String) : Replica.Outcome → List String
  | .unchanged => []
  | .synced => [synced]
  | .removed => [removed]

def checkSpec (spec : Spec) : Except Failure Unit :=
  match spec.validate with
  | .error cause => .error (.crash cause)
  | .ok [] => .ok ()
  | .ok violations => .error (.errors [.schemaViolation (Violation.report violations)])

def soleProvider (spec : Spec) : Except Failure Provider :=
  match spec.providers with
  | [p] => .ok p
  | _ => .error (.errors [.schemaViolation providerCountReason])

/-- Whether a structured configuration takes the place of single arguments. -/
def isStructured (ctx : Context) (gates : FeatureGates) : Except Failure Bool :=
  if gates.isEnabled ctx.settings.structuredAuthGate then
    (failing (ctx.lookup.configMap (structuredSource ctx.settings))).map Option.isSome
  else .ok false

/-- The client entry of the component, when no field of the provider is at fault. -/
def checkProvider (s : Settings) (p : Provider) (structured : Bool) : Except Failure Client :=
  match p.clientFor s.componentName s.targetNamespace with
  | none => .error (.errors [.schemaViolation (noClientReason s)])
  | some client =>
    match fieldErrors p client structured with
    | [] => .ok client
    | errors => .error (.errors errors)

def caPlan (ctx : Context) (p : Provider) : Except ObserveError Replica.Plan :=
  let source := caSource ctx.settings p
  if source.isEmpty then Replica.planRemoval ctx.lookup (caTarget ctx.settings)
  else Replica.planSync ctx.lookup (caTarget ctx.settings) source ctx.settings.caBundle.key

def structuredPlan (ctx : Context) (structured : Bool) : Except ObserveError Replica.Plan :=
  if structured then
    Replica.planSync ctx.lookup (structuredTarget ctx.settings) (structuredSource ctx.settings)
      ctx.settings.authConfig.key
  else Replica.planRemoval ctx.lookup (structuredTarget ctx.settings)

/-- Both plans, or the errors of all that fail. -/
def bothPlans : Except ObserveError Replica.Plan → Except ObserveError Replica.Plan →
    Except Failure (Replica.Plan × Replica.Plan)
  | .ok a, .ok b => .ok (a, b)
  | .ok _, .error e => .error (.errors [e])
  | .error e, .ok _ => .error (.errors [e])
  | .error e, .error f => .error (.errors [e, f])

def reset (ctx : Context) (existing : Tree) : Except Failure Decision := do
  let ca ← failing (Replica.planRemoval ctx.lookup (caTarget ctx.settings))
  let structured ← failing (Replica.planRemoval ctx.lookup (structuredTarget ctx.settings))
  let configured ← failing (orError (existing.containsAnyList owned))
  return ⟨[ca, structured], if configured then [removedMessage] else [], []⟩

def deriveDecision (ctx : Context) (gates : FeatureGates) (spec : Spec) (existing : Tree) :
    Except Failure Decision := do
  checkSpec spec
  let p ← soleProvider spec
  let structured ← isStructured ctx gates
  let client ← checkProvider ctx.settings p structured
  let candidate :=
    if structured then Arguments.toTree [(structuredFile, [ctx.settings.authConfig.path])]
    else Arguments.toTree (arguments ctx.settings p client)
  let (ca, file) ← bothPlans (caPlan ctx p) (structuredPlan ctx structured)
  let outcome ← failing (orError (Slice.diff existing candidate owned))
  return {
    plans := [ca, file]
    messages :=
      announcement caSyncedMessage caRemovedMessage ca.outcome ++
      announcement structuredSyncedMessage structuredRemovedMessage file.outcome ++
      if outcome.changed then [changedMessage] else []
    fragment := outcome.fragment }

def decide (ctx : Context) (existing : Tree) : Except Failure Decision := do
  match ← failing ctx.gates.gates? with
  | none => return .keep existing
  | some gates =>
    if !gates.isEnabled ctx.settings.externalOidcGate then return .keep existing
    match ← failing (ctx.lookup.authentication Authentication.resourceName) with
    | none => reset ctx existing
    | some auth =>
      match auth.spec.kind with
      | .oidc => deriveDecision ctx gates auth.spec existing
      | _ => reset ctx existing

def observer {σ : Type} [Replica.Syncer σ] : Observer σ := .deciding name owned decide

end ObservedConfig.ExternalOidc
