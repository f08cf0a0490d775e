import ObservedConfig.Proofs.Authentication.Name
import ObservedConfig.Proofs.Authentication.Validation

/-! Which authentication specs are admitted. Every place of a spec that admission looks at has a
condition of its own, and a spec passes exactly when each of its providers meets all of them. -/
namespace ObservedConfig.Authentication

def ValidClaim (claim : String) : Prop :=
  ∀ c ∈ claim.toList, c ≠ '=' ∧ Text.isWhiteSpace c = false

/-- What admission asks of a provider, place by place. -/
structure Provider.Valid (p : Provider) : Prop where
  name : p.name.length ≤ 253
  clients : p.clients.length ≤ 20
  rules : p.rules.length ≤ 64
  authority : ValidName p.issuer.certificateAuthority
  components : ∀ client ∈ p.clients,
    ValidName client.componentName ∧ ValidName client.componentNamespace
  username : ValidClaim p.mappings.username.claim
  groups : ValidClaim p.mappings.groups.claim
  /-- Of whichever kind the rule is. -/
  required : ∀ rule ∈ p.rules, ∀ c, rule.requiredClaim = some c → ValidClaim c.claim

theorem Provider.violations_eq_nil {p : Provider} : p.violations = [] ↔ p.Valid := by
  have bound {size most : Nat} {problem : String} :
      (if size > most then some problem else none) = none ↔ size ≤ most := by
    rw [ite_eq_right_iff, ← Nat.not_lt]
    simp
  have issuer : p.issuer.violations = [] ↔ ValidName p.issuer.certificateAuthority := by
    simp [Issuer.violations, nameProblem?_eq_none]
  have mappings : p.mappings.violations = [] ↔
      ValidClaim p.mappings.username.claim ∧ ValidClaim p.mappings.groups.claim := by
    simp [ClaimMappings.violations, claimProblem?_eq_none, ValidClaim]
  have clients : p.clientViolations = [] ↔ ∀ client ∈ p.clients,
      ValidName client.componentName ∧ ValidName client.componentNamespace := by
    simp [clientViolations, Client.violations_eq_nil, nameProblem?_eq_none]
  have rules : p.ruleViolations = [] ↔
      ∀ rule ∈ p.rules, ∀ c, rule.requiredClaim = some c → ValidClaim c.claim := by
    simp [ruleViolations, Rule.violations_eq_nil, claimProblem?_eq_none, ValidClaim]
  simp only [violations, List.append_eq_nil_iff, Violation.field_eq_nil, Violation.under_eq_nil,
    bound, issuer, mappings, clients, rules]
  constructor
  · rintro ⟨⟨⟨⟨⟨⟨name, authority⟩, components⟩, few⟩, username, groups⟩, required⟩, short⟩
    exact ⟨name, few, short, authority, components, username, groups, required⟩
  · rintro ⟨name, few, short, authority, components, username, groups, required⟩
    exact ⟨⟨⟨⟨⟨⟨name, authority⟩, components⟩, few⟩, username, groups⟩, required⟩, short⟩

/-- No list of a valid provider is too long, so its violations never clash. -/
theorem Provider.Valid.not_overfull {p : Provider} (valid : p.Valid) : ¬ p.Overfull := by
  rintro (⟨many, -⟩ | ⟨many, -⟩)
  · exact absurd many (Nat.not_lt.mpr valid.clients)
  · exact absurd many (Nat.not_lt.mpr valid.rules)

/-- Admission passes exactly the specs whose providers are all valid, and the names that count as
valid are exactly the texts that match the regular expression of names. -/
theorem validate_passes_iff (s : Spec) :
    (s.validate = .ok [] ↔ ∀ p ∈ s.providers, p.Valid) ∧
      ∀ name : String, ValidName name ↔
        name = "" ∨ (name.utf8ByteSize ≤ 253 ∧ name.toList ∈ namePattern.matches') := by
  constructor
  · constructor
    · intro validated p member
      exact Provider.violations_eq_nil.mp (Spec.violations_of_validated validated p member)
    · intro valid
      have calm : s.providers.any Provider.clashes = false := by
        rw [List.any_eq_false]
        intro p member
        rw [Provider.clashes_iff]
        exact (valid p member).not_overfull
      have clean : s.violations = [] := Violation.each_eq_nil.mpr fun p member =>
        Provider.violations_eq_nil.mpr (valid p member)
      rw [Spec.validate, calm, clean]
      rfl
  · intro name
    rw [mem_namePattern, ValidName]

end ObservedConfig.Authentication
