import ObservedConfig.Observer
import ObservedConfig.Proofs.Entries

/-! What requests make of the rules. An accepted request puts its rule in force, touches no other
target, and asking for it again changes nothing. So a list of plans for different targets that was
issued once can be issued again without effect. -/
namespace ObservedConfig.Replica

namespace Rules

variable {rules rules' : Rules} {target source : Location}

theorem request_eq_ok (accepted : rules.request target source = .ok rules') :
    rules.rejection? target = none ∧ rules'.namespaceName = rules.namespaceName ∧
      ∀ other, rules'.source? other =
        if other = target then some source else rules.source? other := by
  unfold request at accepted
  cases rejected : rules.rejection? target with
  | some e => simp [rejected] at accepted
  | none =>
    simp only [rejected] at accepted
    refine ⟨rfl, ?_⟩
    split at accepted
    next same =>
      cases accepted
      refine ⟨rfl, fun other => ?_⟩
      split
      next equal => rw [equal, same]
      next => rfl
    next =>
      cases accepted
      refine ⟨rfl, fun other => ?_⟩
      by_cases equal : other = target
      · simp [source?, equal]
      · simp [source?, equal, Entries.find?_insert_other equal]

/-- Whether a target may have a rule depends on the namespace alone. -/
theorem rejection?_congr (same : rules'.namespaceName = rules.namespaceName) (place : Location) :
    rules'.rejection? place = rules.rejection? place := by
  simp [rejection?, same]

end Rules

/-- What a plan asks for is in force already. -/
def InForce (rules : Rules) (plan : Plan) : Prop :=
  ∀ source, plan.request = some source →
    rules.rejection? plan.target = none ∧ rules.source? plan.target = some source

variable {rules rules' : Rules}

/-- A plan that is issued asks for nothing or has its request accepted. -/
theorem issue_cases {plan : Plan} (issued : plan.issue rules = (.ok (), rules')) :
    (plan.request = none ∧ rules' = rules) ∨
      ∃ source, plan.request = some source ∧ rules.request plan.target source = .ok rules' := by
  unfold Plan.issue at issued
  cases request : plan.request with
  | none =>
    left
    simpa [request, eq_comm] using issued
  | some source =>
    right
    refine ⟨source, rfl, ?_⟩
    simp only [request, Syncer.request] at issued
    cases asked : rules.request plan.target source with
    | error e => simp [asked] at issued
    | ok next =>
      obtain rfl : next = rules' := by simpa [asked] using issued
      rfl

theorem InForce.issue {plan : Plan} (inForce : InForce rules plan) :
    plan.issue rules = (.ok (), rules) := by
  unfold Plan.issue
  cases request : plan.request with
  | none => rfl
  | some source =>
    obtain ⟨free, same⟩ := inForce source request
    simp [Syncer.request, Rules.request, free, same]

theorem inForce_of_issue {plan : Plan} (issued : plan.issue rules = (.ok (), rules')) :
    InForce rules' plan := by
  intro source request
  rcases issue_cases issued with ⟨none, -⟩ | ⟨asked, request', accepted⟩
  · rw [none] at request
    cases request
  · rw [request'] at request
    cases request
    obtain ⟨free, namespaceName, sources⟩ := Rules.request_eq_ok accepted
    exact ⟨by rw [Rules.rejection?_congr namespaceName, free], by rw [sources, if_pos rfl]⟩

theorem InForce.of_issue {plan other : Plan} (inForce : InForce rules plan)
    (apart : plan.target ≠ other.target) (issued : other.issue rules = (.ok (), rules')) :
    InForce rules' plan := by
  intro source request
  obtain ⟨free, same⟩ := inForce source request
  rcases issue_cases issued with ⟨-, rfl⟩ | ⟨asked, -, accepted⟩
  · exact ⟨free, same⟩
  · obtain ⟨-, namespaceName, sources⟩ := Rules.request_eq_ok accepted
    exact ⟨by rw [Rules.rejection?_congr namespaceName, free],
      by rw [sources, if_neg apart, same]⟩

theorem issueAll_cons {plan : Plan} {rest : List Plan}
    (issued : Decision.issueAll (plan :: rest) rules = (.ok (), rules')) :
    ∃ middle, plan.issue rules = (.ok (), middle) ∧
      Decision.issueAll rest middle = (.ok (), rules') := by
  unfold Decision.issueAll at issued
  split at issued
  · cases issued
  next middle first => exact ⟨middle, first, issued⟩

/-- A rule outlives plans for other targets. -/
theorem InForce.of_issueAll {plan : Plan} {plans : List Plan} (inForce : InForce rules plan)
    (apart : ∀ other ∈ plans, plan.target ≠ other.target)
    (issued : Decision.issueAll plans rules = (.ok (), rules')) : InForce rules' plan := by
  induction plans generalizing rules with
  | nil =>
    cases issued
    exact inForce
  | cons first rest ih =>
    obtain ⟨middle, here, later⟩ := issueAll_cons issued
    obtain ⟨differs, differsLater⟩ := List.forall_mem_cons.mp apart
    exact ih (inForce.of_issue differs here) differsLater later

theorem inForce_of_issueAll {plans : List Plan}
    (apart : plans.Pairwise fun a b => a.target ≠ b.target)
    (issued : Decision.issueAll plans rules = (.ok (), rules')) :
    ∀ plan ∈ plans, InForce rules' plan := by
  induction plans generalizing rules with
  | nil => simp
  | cons first rest ih =>
    obtain ⟨middle, here, later⟩ := issueAll_cons issued
    obtain ⟨differs, apartLater⟩ := List.pairwise_cons.mp apart
    intro plan member
    rcases List.mem_cons.mp member with rfl | member
    · exact (inForce_of_issue here).of_issueAll differs later
    · exact ih apartLater later plan member

/-- Plans whose requests are in force change nothing. -/
theorem issueAll_of_inForce {plans : List Plan} (inForce : ∀ plan ∈ plans, InForce rules plan) :
    Decision.issueAll plans rules = (.ok (), rules) := by
  induction plans with
  | nil => rfl
  | cons plan rest ih =>
    obtain ⟨here, later⟩ := List.forall_mem_cons.mp inForce
    simp [Decision.issueAll, here.issue, ih later]

end ObservedConfig.Replica
