import ObservedConfig.Authentication.Document
import ObservedConfig.Proofs.Datum.Shape
import ObservedConfig.Proofs.Json.Writing

/-! Authentication specs as documents. Each part of a spec is restored from what is written for it,
whether or not its fields may be absent, and so the whole is. -/
namespace ObservedConfig

namespace Authentication

open Read (Restores restores_text)
open ObservedConfig.Field (given_optional given_required)

theorem restores_texts : Restores (texts .json) .texts := restores_text.list

theorem Kind.restores : Restores (Kind.read .json) fun kind => .text kind.name :=
  .of_text fun kind => by cases kind <;> rfl

theorem PrefixPolicy.restores :
    Restores (PrefixPolicy.read .json) fun policy => .text policy.name :=
  .of_text fun policy => by cases policy <;> rfl

theorem RuleKind.restores : Restores (RuleKind.read .json) fun kind => .text kind.name :=
  .of_text fun kind => by cases kind <;> rfl

/-- Null is read as an absent value, so it must not be written for any other. -/
theorem restores_orNull {α : Type} {read : Read α} {write : α → Datum}
    (restores : Restores read write) (visible : ∀ a, ∃ fields, write a = .object fields) :
    Restores (.option read) (orNull write) where
  textual a := by
    cases a with
    | none => exact .null
    | some a => exact restores.textual a
  reads a d moved := by
    cases a with
    | none =>
      rw [moved.eq_null]
      rfl
    | some a =>
      obtain ⟨fields, written⟩ := visible a
      obtain ⟨_, _, rfl, -, -⟩ := (written ▸ moved : (Datum.object fields).Rearranged d).of_object
      change (read (.object _)).map some = .ok (some a)
      rw [restores.reads a _ moved]
      rfl

theorem restores_reference :
    Restores (referenceShape.read .json) fun name => .object [("name", .text name)] := by
  refine Shape.restores (by decide) fun name => ⟨_, _, rfl,
    .cons (given_optional restores_text _ _ name) .nil, ?_, rfl⟩
  simp

theorem Issuer.restores : Restores ((issuerShape .json).read .json) Issuer.toDatum := by
  refine Shape.restores (by decide) fun issuer => ⟨_, _, rfl,
    .cons (given_optional restores_text _ _ issuer.url) <|
    .cons (given_optional restores_texts _ _ issuer.audiences) <|
    .cons (given_optional restores_reference _ _ issuer.certificateAuthority) .nil, ?_, rfl⟩
  simp

theorem Client.restores : Restores ((clientShape .json).read .json) Client.toDatum := by
  refine Shape.restores (by decide) fun client => ⟨_, _, rfl,
    .cons (given_required restores_text _ _ client.componentName) <|
    .cons (given_required restores_text _ _ client.componentNamespace) <|
    .cons (given_optional restores_text _ _ client.clientId) <|
    .cons (given_optional restores_texts _ _ client.extraScopes) .nil, ?_, rfl⟩
  simp

theorem restores_lead :
    Restores (leadShape.read .json) fun text => .object [("prefixString", .text text)] := by
  refine Shape.restores (by decide) fun text => ⟨_, _, rfl,
    .cons (given_required restores_text _ _ text) .nil, ?_, rfl⟩
  simp

theorem UsernameMapping.restores :
    Restores ((usernameShape .json).read .json) UsernameMapping.toDatum := by
  refine Shape.restores (by decide) fun mapping => ⟨_, _, rfl,
    .cons (given_optional restores_text _ _ mapping.claim) <|
    .cons (given_optional PrefixPolicy.restores _ _ mapping.policy) <|
    .cons (given_optional (restores_orNull restores_lead fun _ => ⟨_, rfl⟩) _ _ mapping.lead) .nil,
    ?_, rfl⟩
  simp

theorem GroupsMapping.restores : Restores (groupsShape.read .json) GroupsMapping.toDatum := by
  refine Shape.restores (by decide) fun mapping => ⟨_, _, rfl,
    .cons (given_optional restores_text _ _ mapping.claim) <|
    .cons (given_optional restores_text _ _ mapping.lead) .nil, ?_, rfl⟩
  simp

theorem ClaimMappings.restores :
    Restores ((mappingsShape .json).read .json) ClaimMappings.toDatum := by
  refine Shape.restores (by decide) fun mappings => ⟨_, _, rfl,
    .cons (given_optional UsernameMapping.restores _ _ mappings.username) <|
    .cons (given_optional GroupsMapping.restores _ _ mappings.groups) .nil, ?_, rfl⟩
  simp

theorem RequiredClaim.restores :
    Restores (requiredClaimShape.read .json) RequiredClaim.toDatum := by
  refine Shape.restores (by decide) fun required => ⟨_, _, rfl,
    .cons (given_required restores_text _ _ required.claim) <|
    .cons (given_required restores_text _ _ required.value) .nil, ?_, rfl⟩
  simp

theorem Expression.restores : Restores (expressionShape.read .json) Expression.toDatum := by
  refine Shape.restores (by decide) fun expression => ⟨_, _, rfl,
    .cons (given_required restores_text _ _ expression.text) <|
    .cons (given_optional restores_text _ _ expression.message) .nil, ?_, rfl⟩
  simp

theorem Rule.restores : Restores ((ruleShape .json).read .json) Rule.toDatum := by
  refine Shape.restores (by decide) fun rule => ⟨_, _, rfl,
    .cons (given_optional RuleKind.restores _ _ rule.kind) <|
    .cons (given_optional (restores_orNull RequiredClaim.restores fun _ => ⟨_, rfl⟩) _ _
      rule.requiredClaim) <|
    .cons (given_optional (restores_orNull Expression.restores fun _ => ⟨_, rfl⟩) _ _
      rule.expression) .nil,
    ?_, rfl⟩
  simp

theorem Provider.restores : Restores ((providerShape .json).read .json) Provider.toDatum := by
  refine Shape.restores (by decide) fun provider => ⟨_, _, rfl,
    .cons (given_required restores_text _ _ provider.name) <|
    .cons (given_optional Issuer.restores _ _ provider.issuer) <|
    .cons (given_optional Client.restores.list _ _ provider.clients) <|
    .cons (given_optional ClaimMappings.restores _ _ provider.mappings) <|
    .cons (given_optional Rule.restores.list _ _ provider.rules) .nil, ?_, rfl⟩
  simp

theorem Spec.restores : Restores (Spec.read .json) Spec.toDatum := by
  refine Shape.restores (by decide) fun spec => ⟨_, _, rfl,
    .cons (given_optional Kind.restores _ _ spec.kind) <|
    .cons (given_optional Provider.restores.list _ _ spec.providers) .nil, ?_, rfl⟩
  simp

/-- A spec is restored from the JSON text that is written for it, and from every value that differs
from the written one in the order of members only. The spec that a document is read as is restored
too, so the defaults that writing gives for absent fields mean the same as their absence. -/
theorem Spec.document_restores :
    (∀ s : Spec, ∃ d, Json.read? (Json.compact s.toDatum) = some d ∧ Spec.read .json d = .ok s) ∧
    (∀ (s : Spec) d, s.toDatum.Rearranged d → Spec.read .json d = .ok s) ∧
    ∀ d s, Spec.read .json d = .ok s →
      ∃ again, Json.read? (Json.compact s.toDatum) = some again ∧ Spec.read .json again = .ok s :=
  ⟨restores.of_json, restores.reads, fun _ s _ => restores.of_json s⟩

/-! A document that leaves out whatever has a default, next to the spec it is read as. -/

def sparseText : String :=
  "\x7b\"type\":\"OIDC\",\"oidcProviders\":[\x7b\"name\":\"say \\\"hi\\\"\",\"oidcClients\":" ++
    "[\x7b\"componentName\":\"console\",\"componentNamespace\":\"openshift\"\x7d]\x7d]\x7d"

def sparseSpec : Spec where
  kind := .oidc
  providers := [{
    name := "say \"hi\""
    issuer := ⟨"", [], ""⟩
    clients := [⟨"console", "openshift", "", []⟩]
    mappings := ⟨⟨"", .noOpinion, none⟩, ⟨"", ""⟩⟩
    rules := [] }]

theorem Spec.document_restores_sparse : ∃ d, Json.read? sparseText = some d ∧
    Spec.read .json d = .ok sparseSpec ∧
    (∃ again, Json.read? (Json.compact sparseSpec.toDatum) = some again ∧
      Spec.read .json again = .ok sparseSpec) ∧
    Spec.read .json (.object [
      ("oidcProviders", .seq (sparseSpec.providers.map Provider.toDatum)),
      ("type", .text sparseSpec.kind.name)]) = .ok sparseSpec := by
  have evaluated : (match Json.read? sparseText with
      | some d => (match Spec.read .json d with
        | .ok s => decide (s = sparseSpec)
        | .error _ => false)
      | none => false) = true := by decide +kernel
  split at evaluated
  next d found =>
    split at evaluated
    next s read =>
      obtain rfl := of_decide_eq_true evaluated
      obtain ⟨-, rearranged, again⟩ := Spec.document_restores
      refine ⟨d, found, read, again d _ read, rearranged _ _ ?_⟩
      exact .object rfl (List.forall₂_same.mpr fun _ _ => .same _) (.swap _ _ _)
    next => cases evaluated
  next => cases evaluated

end Authentication

end ObservedConfig
