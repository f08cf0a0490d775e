import ObservedConfig.Authentication.Spec
import ObservedConfig.Text.Part
import ObservedConfig.Text.Space
import ObservedConfig.Violation

/-! What admission should have enforced on an authentication spec. Names follow the rule for names
of resources, claims hold neither an equals sign nor white space, and the lists of a provider are
bounded. -/
namespace ObservedConfig.Authentication

def isNameChar (c : Char) : Bool := ('a' ≤ c && c ≤ 'z') || c.isDigit

def isLabel (cs : List Char) : Bool :=
  cs.all (fun c => isNameChar c || c == '-') &&
    cs.head?.any (· != '-') && cs.getLast?.any (· != '-')

/-- Longest name, in bytes. -/
def maxNameSize : Nat := 253

/-- Why a text is no name of a resource. The empty text stands for no resource. -/
def nameProblem? (name : String) : Option String :=
  if name.isEmpty then none
  else if name.utf8ByteSize > maxNameSize then some "name exceeds 253 characters"
  else if (Text.splitOn '.' name.toList).all isLabel then none
  else some ("'" ++ name ++ "' is not a valid Kubernetes name (RFC 1123)")

def isClaimChar (c : Char) : Bool := c != '=' && !Text.isWhiteSpace c

def claimProblem? (claim : String) : Option String :=
  if claim.toList.all isClaimChar then none
  else some ("claim '" ++ claim ++ "' must not contain '=' or whitespace")

/-- Longest name of a provider, in characters. -/
def maxProviderName : Nat := 253
def maxClients : Nat := 20
def maxRules : Nat := 64

def Issuer.violations (i : Issuer) : List Violation :=
  Violation.under "certificate_authority"
    (Violation.field "name" (nameProblem? i.certificateAuthority))

def Client.violations (c : Client) : List Violation :=
  Violation.field "component_name" (nameProblem? c.componentName) ++
    Violation.field "component_namespace" (nameProblem? c.componentNamespace)

def ClaimMappings.violations (m : ClaimMappings) : List Violation :=
  Violation.under "username" (Violation.field "claim" (claimProblem? m.username.claim)) ++
    Violation.under "groups" (Violation.field "claim" (claimProblem? m.groups.claim))

def Rule.violations (r : Rule) : List Violation :=
  match r.requiredClaim with
  | none => []
  | some c => Violation.under "required_claim" (Violation.field "claim" (claimProblem? c.claim))

def Provider.clientViolations (p : Provider) : List Violation :=
  Violation.each "oidc_clients" Client.violations p.clients

def Provider.ruleViolations (p : Provider) : List Violation :=
  Violation.each "claim_validation_rules" Rule.violations p.rules

def Provider.violations (p : Provider) : List Violation :=
  Violation.field "name"
      (if p.name.length > maxProviderName then some "provider name exceeds 253 characters"
        else none) ++
    Violation.under "issuer" p.issuer.violations ++
    p.clientViolations ++
    Violation.field "oidc_clients"
      (if p.clients.length > maxClients then some "maximum 20 OIDC clients allowed" else none) ++
    Violation.under "claim_mappings" p.mappings.violations ++
    p.ruleViolations ++
    Violation.field "claim_validation_rules"
      (if p.rules.length > maxRules then some "maximum 64 claim validation rules allowed" else none)

/-- A list that is too long and holds an invalid element has two kinds of faults in one place,
which cannot be reported together. -/
def Provider.clashes (p : Provider) : Bool :=
  (p.clients.length > maxClients && !p.clientViolations.isEmpty) ||
    (p.rules.length > maxRules && !p.ruleViolations.isEmpty)

def Spec.violations (s : Spec) : List Violation :=
  Violation.each "oidc_providers" Provider.violations s.providers

def Spec.validate (s : Spec) : Except Crash (List Violation) :=
  if s.providers.any Provider.clashes then
    .error ⟨"Attempt to replace non-empty ValidationErrors entry"⟩
  else .ok s.violations

end ObservedConfig.Authentication
