import ObservedConfig.Authentication.Validation

/-! Admission of an authentication spec. A value has no violation exactly when none of its parts has
one. The violations of a spec can be put together unless one of its providers has a list that is too
long and holds an invalid item as well. -/
namespace ObservedConfig

namespace Violation

variable {α : Type}

@[simp] theorem field_eq_nil {name : String} {problem : Option String} :
    field name problem = [] ↔ problem = none := by
  cases problem <;> simp [field]

@[simp] theorem under_eq_nil {name : String} {violations : List Violation} :
    under name violations = [] ↔ violations = [] := by
  simp [under]

theorem eachFrom_eq_nil {name : String} {violations : α → List Violation} {index : Nat}
    {items : List α} :
    eachFrom name violations index items = [] ↔ ∀ item ∈ items, violations item = [] := by
  induction items generalizing index with
  | nil => simp [eachFrom]
  | cons item rest ih => simp [eachFrom, ih]

@[simp] theorem each_eq_nil {name : String} {violations : α → List Violation} {items : List α} :
    each name violations items = [] ↔ ∀ item ∈ items, violations item = [] :=
  eachFrom_eq_nil

end Violation

namespace Authentication

theorem claimProblem?_eq_none {claim : String} :
    claimProblem? claim = none ↔ ∀ c ∈ claim.toList, c ≠ '=' ∧ Text.isWhiteSpace c = false := by
  simp [claimProblem?, isClaimChar]

theorem Client.violations_eq_nil {c : Client} :
    c.violations = [] ↔
      nameProblem? c.componentName = none ∧ nameProblem? c.componentNamespace = none := by
  simp [Client.violations]

theorem Rule.violations_eq_nil {r : Rule} :
    r.violations = [] ↔ ∀ c, r.requiredClaim = some c → claimProblem? c.claim = none := by
  unfold Rule.violations
  cases r.requiredClaim <;> simp

/-- The claims of the rules of an admitted provider. -/
theorem Provider.claimProblem?_of_admitted {p : Provider} (admitted : p.violations = [])
    {rule : Rule} (member : rule ∈ p.rules) {c : RequiredClaim}
    (required : rule.requiredClaim = some c) : claimProblem? c.claim = none := by
  simp only [Provider.violations, List.append_eq_nil_iff] at admitted
  obtain ⟨⟨-, rules⟩, -⟩ := admitted
  exact Rule.violations_eq_nil.mp (Violation.each_eq_nil.mp rules rule member) c required

/-- A list of the provider holds more than is allowed, and an invalid item besides. -/
def Provider.Overfull (p : Provider) : Prop :=
  (20 < p.clients.length ∧ ∃ client ∈ p.clients,
    nameProblem? client.componentName ≠ none ∨ nameProblem? client.componentNamespace ≠ none) ∨
  (64 < p.rules.length ∧ ∃ rule ∈ p.rules, ∃ c, rule.requiredClaim = some c ∧
    ∃ char ∈ c.claim.toList, char = '=' ∨ Text.isWhiteSpace char = true)

theorem Provider.clashes_iff {p : Provider} : p.clashes = true ↔ p.Overfull := by
  have clients : p.clientViolations.isEmpty = false ↔ ∃ client ∈ p.clients,
      nameProblem? client.componentName ≠ none ∨
        nameProblem? client.componentNamespace ≠ none := by
    rw [← Bool.not_eq_true, List.isEmpty_iff, clientViolations, Violation.each_eq_nil]
    simp only [Client.violations_eq_nil, Classical.not_forall, exists_prop,
      Classical.not_and_iff_not_or_not, ne_eq]
  have rules : p.ruleViolations.isEmpty = false ↔ ∃ rule ∈ p.rules, ∃ c,
      rule.requiredClaim = some c ∧
        ∃ char ∈ c.claim.toList, char = '=' ∨ Text.isWhiteSpace char = true := by
    rw [← Bool.not_eq_true, List.isEmpty_iff, ruleViolations, Violation.each_eq_nil]
    simp only [Rule.violations_eq_nil, claimProblem?_eq_none, Classical.not_forall, exists_prop,
      Classical.not_and_iff_not_or_not, ne_eq, Classical.not_not, Bool.not_eq_false]
  simp only [clashes, Overfull, Bool.or_eq_true, Bool.and_eq_true, Bool.not_eq_true', clients,
    rules, decide_eq_true_eq, maxClients, maxRules, gt_iff_lt]

def clash : Crash := ⟨"Attempt to replace non-empty ValidationErrors entry"⟩

theorem Spec.validate_eq_error {s : Spec} {cause : Crash} :
    s.validate = .error cause ↔ cause = clash ∧ ∃ p ∈ s.providers, p.Overfull := by
  have clashing : s.providers.any Provider.clashes = true ↔ ∃ p ∈ s.providers, p.Overfull := by
    simp [Provider.clashes_iff]
  rw [← clashing, Spec.validate]
  cases s.providers.any Provider.clashes <;> simp [clash, eq_comm]

/-- A provider with one client entry more than is allowed. The last of them has no valid name. -/
def overfullProvider : Provider where
  name := "corp"
  issuer := ⟨"https://login.example", [], ""⟩
  clients := List.replicate 20 ⟨"kube-apiserver", "openshift-kube-apiserver", "console", []⟩ ++
    [⟨"Bad_", "openshift-kube-apiserver", "console", []⟩]
  mappings := ⟨⟨"email", .noPrefix, none⟩, ⟨"groups", ""⟩⟩
  rules := []

theorem overfull_overfullProvider : overfullProvider.Overfull := by
  refine .inl ⟨by decide, ⟨"Bad_", _, _, _⟩, List.mem_append_right _ List.mem_cons_self, .inl ?_⟩
  decide +kernel

/-- The providers of a spec that passes have no violations. -/
theorem Spec.violations_of_validated {s : Spec} (validated : s.validate = .ok []) :
    ∀ p ∈ s.providers, p.violations = [] := by
  unfold Spec.validate at validated
  split at validated
  · cases validated
  · exact Violation.each_eq_nil.mp (Except.ok.inj validated)

end Authentication

end ObservedConfig
