import ObservedConfig.Proofs.Observer.RoleBinding
import ObservedConfig.Proofs.Registry.History
import ObservedConfig.Proofs.Replica.Acceptance

/-! Failing without effects. An observer decides before it acts, so a decision that is not reached
leaves no trace. Of a decision that is reached the requests come first, and those of one observer are
for one namespace: when one of them is rejected none has been accepted before. -/
namespace ObservedConfig

/-- A run that reports errors has no effect, provided that rejected plans leave the rules alone. -/
theorem Carried.unchanged {name : String} {existing : Tree} {session session' : Session}
    {result : Except Failure Decision} {observation : Observation}
    (carried : Carried name existing session result observation session')
    (harmless : ∀ decision e rules, result = .ok decision →
      Decision.issueAll decision.plans session.rules = (.error e, rules) → rules = session.rules)
    (failed : observation.errors ≠ []) : observation.config = existing ∧ session' = session := by
  cases carried with
  | failed => exact ⟨rfl, rfl⟩
  | rejected rejection =>
    obtain rfl := harmless _ _ _ rfl rejection
    exact ⟨rfl, rfl⟩
  | accepted => exact absurd rfl failed

/-- Both replicas are in the namespace of the workload, and their names are not empty. -/
theorem ExternalOidc.rules_of_rejected {ctx : Context} {existing : Tree} {d : Decision}
    {rules rules' : Replica.Rules} {e : ObserveError}
    (caNamed : ctx.settings.caBundle.configMap ≠ "")
    (fileNamed : ctx.settings.authConfig.configMap ≠ "")
    (decided : decide ctx existing = .ok d)
    (rejected : Decision.issueAll d.plans rules = (.error e, rules')) : rules' = rules := by
  obtain ⟨i, intended, settled⟩ := decide_eq_ok decided
  rcases plans_of_settle (intends intended) settled with none | ⟨ca, file, both, caAt, fileAt⟩
  · rw [none] at rejected
    cases rejected
  · have targets : ∀ plan ∈ d.plans,
        plan.target = caTarget ctx.settings ∨ plan.target = structuredTarget ctx.settings := by
      simp [both, caAt, fileAt]
    have inside : ∀ plan ∈ d.plans,
        plan.target.namespaceName = ctx.settings.targetNamespace := by
      intro plan member
      rcases targets plan member with same | same <;> rw [same] <;> rfl
    have named : ∀ plan ∈ d.plans, plan.target.isEmpty = false := by
      intro plan member
      rcases targets plan member with same | same <;> rw [same]
      · simpa [caTarget, Location.isEmpty] using caNamed
      · simpa [structuredTarget, Location.isEmpty] using fileNamed
    exact Replica.issueAll_error inside named rejected

namespace Registry

/-- An observer that reports an error keeps the committed configuration, records no event and leaves
the rules with their generation as they were. -/
theorem observe_unchanged_of_errors {ctx : Context} {existing : Tree} {session session' : Session}
    {o : Observer} {observation : Observation}
    (known : o = ExternalOidc.observer ∨ o = RoleBinding.observer)
    (caNamed : ctx.settings.caBundle.configMap ≠ "")
    (fileNamed : ctx.settings.authConfig.configMap ≠ "")
    (observed : o.observe ctx existing session = .ok (observation, session'))
    (failed : observation.errors ≠ []) : observation.config = existing ∧ session' = session := by
  rcases known with rfl | rfl
  · apply (deciding_observe.mp observed).unchanged _ failed
    intro d e rules decided rejected
    exact ExternalOidc.rules_of_rejected caNamed fileNamed decided rejected
  · apply (deciding_observe.mp observed).unchanged _ failed
    intro d e rules decided rejected
    -- There is nothing to be rejected, since this observer has no plans.
    obtain ⟨_, _, -, -, rfl⟩ := RoleBinding.decide_eq_ok.mp decided
    cases rejected

/-- The replica of the bundle is in place and the deletion of the other one is rejected, so the
second of two plans is the first to be asked for and fails. -/
theorem observe_unchanged_of_errors_foreign_rules :
    ∃ (observation : Observation) (session' : Session),
      (ExternalOidc.observer : Observer).observe (sampleContext (mirroredCluster "corp-ca")) []
        ⟨.empty "elsewhere", []⟩ = .ok (observation, session') ∧
      observation.errors ≠ [] ∧ observation.config = [] ∧
      session' = ⟨.empty "elsewhere", []⟩ := by
  have seen : (((ExternalOidc.observer : Observer).observe
      (sampleContext (mirroredCluster "corp-ca")) [] ⟨.empty "elsewhere", []⟩).toOption.map
        fun result => result.1.errors.isEmpty) = some false := by
    decide +kernel
  obtain ⟨⟨observation, session'⟩, observed, errors⟩ := Option.map_eq_some_iff.mp seen
  rw [toOption_eq_some] at observed
  have failed : observation.errors ≠ [] := by simpa using errors
  obtain ⟨config, session⟩ :=
    observe_unchanged_of_errors (.inl rfl) (by decide) (by decide) observed failed
  exact ⟨observation, session', observed, failed, config, session⟩

end Registry

end ObservedConfig
