/-! What the cluster-wide authentication resource asks for: how users are authenticated, and, for
an external provider of OpenID Connect, who issues tokens, which client each component is, and how
the claims of a token become users and groups. -/
namespace ObservedConfig.Authentication

inductive Kind where
  /-- Nothing is said; the built-in server does. -/
  | unset
  | integratedOAuth
  | none
  | oidc
  deriving DecidableEq, Inhabited

namespace Kind

def name : Kind → String
  | unset => ""
  | integratedOAuth => "IntegratedOAuth"
  | none => "None"
  | oidc => "OIDC"

def isIntegrated : Kind → Bool
  | unset | integratedOAuth => true
  | none | oidc => false

end Kind

structure Issuer where
  url : String
  audiences : List String
  /-- The config map that holds the certificate bundle; empty when there is none. -/
  certificateAuthority : String
  deriving DecidableEq, Inhabited

structure Client where
  componentName : String
  componentNamespace : String
  clientId : String
  extraScopes : List String
  deriving DecidableEq, Inhabited

inductive PrefixPolicy where
  | noOpinion
  | noPrefix
  | prefixed
  deriving DecidableEq, Inhabited

def PrefixPolicy.name : PrefixPolicy → String
  | noOpinion => ""
  | noPrefix => "NoPrefix"
  | prefixed => "Prefix"

structure UsernameMapping where
  claim : String
  policy : PrefixPolicy
  /-- What is put in front, which the policy `prefixed` asks for. -/
  lead : Option String
  deriving DecidableEq, Inhabited

structure GroupsMapping where
  claim : String
  lead : String
  deriving DecidableEq, Inhabited

structure ClaimMappings where
  username : UsernameMapping
  groups : GroupsMapping
  deriving DecidableEq, Inhabited

inductive RuleKind where
  | requiredClaim
  | expression
  deriving DecidableEq, Inhabited

def RuleKind.name : RuleKind → String
  | requiredClaim => "RequiredClaim"
  | expression => "CEL"

structure RequiredClaim where
  claim : String
  value : String
  deriving DecidableEq, Inhabited

def RequiredClaim.argument (c : RequiredClaim) : String := c.claim ++ "=" ++ c.value

structure Expression where
  text : String
  message : String
  deriving DecidableEq, Inhabited

structure Rule where
  kind : RuleKind
  requiredClaim : Option RequiredClaim
  expression : Option Expression
  deriving DecidableEq, Inhabited

structure Provider where
  name : String
  issuer : Issuer
  clients : List Client
  mappings : ClaimMappings
  rules : List Rule
  deriving DecidableEq, Inhabited

/-- The first client entry of a component. -/
def Provider.clientFor (p : Provider) (componentName componentNamespace : String) :
    Option Client :=
  p.clients.find? fun client =>
    client.componentName == componentName && client.componentNamespace == componentNamespace

structure Spec where
  kind : Kind
  providers : List Provider
  deriving DecidableEq, Inhabited

/-- The name of the one resource that counts. -/
def resourceName : String := "cluster"

end ObservedConfig.Authentication
