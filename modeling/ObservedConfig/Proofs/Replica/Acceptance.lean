import ObservedConfig.Proofs.Replica.Rules

/-! Which plans are accepted. A plan is rejected when it asks for something and its target may not
have a rule, which depends on the namespace of the rules alone. So of several plans for named
targets in one namespace either all are accepted or none has an effect. -/
namespace ObservedConfig.Replica

theorem Rules.rejection?_eq_none_iff {rules : Rules} {place : Location} :
    rules.rejection? place = none ↔
      place.namespaceName = rules.namespaceName ∧ place.isEmpty = false := by
  unfold rejection?
  by_cases inside : place.namespaceName = rules.namespaceName
  · cases named : place.isEmpty <;> simp [inside]
  · simp [inside]

variable {rules rules' : Rules} {plan : Plan} {plans : List Plan}

/-- The plan asks for nothing, or its target may have a rule. -/
def Acceptable (rules : Rules) (plan : Plan) : Prop :=
  plan.request = none ∨ rules.rejection? plan.target = none

theorem Acceptable.congr (acceptable : Acceptable rules plan)
    (same : rules'.namespaceName = rules.namespaceName) : Acceptable rules' plan := by
  rwa [Acceptable, Rules.rejection?_congr same]

theorem Acceptable.issue (acceptable : Acceptable rules plan) :
    ∃ rules', plan.issue rules = (.ok (), rules') ∧ rules'.namespaceName = rules.namespaceName := by
  unfold Plan.issue
  cases request : plan.request with
  | none => exact ⟨rules, rfl, rfl⟩
  | some source =>
    have free : rules.rejection? plan.target = none :=
      acceptable.resolve_left (by simp [request])
    by_cases inForce : rules.source? plan.target = some source
    · exact ⟨rules, by simp [Syncer.request, Rules.request, free, inForce], rfl⟩
    · refine ⟨{ rules with
        sources := Entries.insert plan.target source rules.sources
        generation := rules.generation + 1 }, ?_, rfl⟩
      simp [Syncer.request, Rules.request, free, inForce]

theorem issue_of_not_acceptable (refused : ¬ Acceptable rules plan) :
    ∃ e, plan.issue rules = (.error e, rules) := by
  obtain ⟨asks, rejected⟩ := not_or.mp refused
  obtain ⟨source, request⟩ := Option.ne_none_iff_exists'.mp asks
  obtain ⟨e, rejection⟩ := Option.ne_none_iff_exists'.mp rejected
  exact ⟨e, by simp [Plan.issue, request, Syncer.request, Rules.request, rejection]⟩

theorem acceptable_of_issue (issued : plan.issue rules = (.ok (), rules')) :
    Acceptable rules plan ∧ rules'.namespaceName = rules.namespaceName := by
  rcases issue_cases issued with ⟨none, rfl⟩ | ⟨source, -, accepted⟩
  · exact ⟨.inl none, rfl⟩
  · obtain ⟨free, same, -⟩ := Rules.request_eq_ok accepted
    exact ⟨.inr free, same⟩

theorem issueAll_of_acceptable (acceptable : ∀ plan ∈ plans, Acceptable rules plan) :
    ∃ rules', Decision.issueAll plans rules = (.ok (), rules') := by
  induction plans generalizing rules with
  | nil => exact ⟨rules, rfl⟩
  | cons plan rest ih =>
    obtain ⟨here, later⟩ := List.forall_mem_cons.mp acceptable
    obtain ⟨middle, issued, same⟩ := here.issue
    obtain ⟨last, issuedLater⟩ := ih fun other member => (later other member).congr same
    exact ⟨last, by simp [Decision.issueAll, issued, issuedLater]⟩

theorem acceptable_of_issueAll (issued : Decision.issueAll plans rules = (.ok (), rules')) :
    rules'.namespaceName = rules.namespaceName ∧ ∀ plan ∈ plans, Acceptable rules plan := by
  induction plans generalizing rules with
  | nil =>
    cases issued
    simp
  | cons plan rest ih =>
    obtain ⟨middle, first, later⟩ := issueAll_cons issued
    obtain ⟨here, same⟩ := acceptable_of_issue first
    obtain ⟨sameLater, acceptableLater⟩ := ih later
    refine ⟨sameLater.trans same, List.forall_mem_cons.mpr ⟨here, fun other member => ?_⟩⟩
    exact (acceptableLater other member).congr same.symm

/-- The answer to a request depends on the namespace alone, which no request changes. -/
theorem issue_congr (plan : Plan) (same : rules'.namespaceName = rules.namespaceName) :
    (plan.issue rules').1 = (plan.issue rules).1 ∧
      (plan.issue rules).2.namespaceName = rules.namespaceName := by
  unfold Plan.issue
  cases plan.request with
  | none => exact ⟨rfl, rfl⟩
  | some source =>
    simp only [Syncer.request, Rules.request, Rules.rejection?_congr same]
    cases rules.rejection? plan.target with
    | some e => exact ⟨rfl, rfl⟩
    | none =>
      -- Whether the rule is in force already makes no difference to the answer.
      by_cases here : rules.source? plan.target = some source <;>
        by_cases there : rules'.source? plan.target = some source <;> simp [here, there]

theorem issueAll_congr (plans : List Plan) (same : rules'.namespaceName = rules.namespaceName) :
    (Decision.issueAll plans rules').1 = (Decision.issueAll plans rules).1 ∧
      (Decision.issueAll plans rules).2.namespaceName = rules.namespaceName := by
  induction plans generalizing rules rules' with
  | nil => exact ⟨rfl, rfl⟩
  | cons plan rest ih =>
    obtain ⟨answer, keeps⟩ := issue_congr plan same
    obtain ⟨-, keepsToo⟩ := issue_congr plan (rfl : rules'.namespaceName = rules'.namespaceName)
    unfold Decision.issueAll
    generalize plan.issue rules = here at answer keeps
    generalize plan.issue rules' = there at answer keepsToo
    obtain ⟨result, next⟩ := here
    obtain ⟨result', next'⟩ := there
    obtain rfl : result' = result := answer
    cases result' with
    | error e => exact ⟨rfl, keeps⟩
    | ok =>
      obtain ⟨later, keepsLater⟩ := ih (keepsToo.trans (same.trans keeps.symm))
      exact ⟨later, keepsLater.trans keeps⟩

/-- Plans for named targets in one namespace have no effect when one of them is rejected: then the
rules are for another namespace, and whatever asks for something is rejected. -/
theorem issueAll_error {namespaceName : String} {e : ObserveError}
    (inside : ∀ plan ∈ plans, plan.target.namespaceName = namespaceName)
    (named : ∀ plan ∈ plans, plan.target.isEmpty = false)
    (failed : Decision.issueAll plans rules = (.error e, rules')) : rules' = rules := by
  by_cases own : namespaceName = rules.namespaceName
  · have acceptable : ∀ plan ∈ plans, Acceptable rules plan := fun plan member =>
      .inr (Rules.rejection?_eq_none_iff.mpr ⟨(inside plan member).trans own, named plan member⟩)
    obtain ⟨_, issued⟩ := issueAll_of_acceptable acceptable
    rw [issued] at failed
    cases failed
  · induction plans with
    | nil => cases failed
    | cons plan rest ih =>
      obtain ⟨insideHere, insideLater⟩ := List.forall_mem_cons.mp inside
      cases request : plan.request with
      | none =>
        have issued : plan.issue rules = (.ok (), rules) := by simp [Plan.issue, request]
        rw [Decision.issueAll, issued] at failed
        exact ih insideLater (List.forall_mem_cons.mp named).2 failed
      | some source =>
        have refused : ¬ Acceptable rules plan := by
          simp [Acceptable, request, Rules.rejection?_eq_none_iff, insideHere, own]
        obtain ⟨e', issued⟩ := issue_of_not_acceptable refused
        rw [Decision.issueAll, issued] at failed
        cases failed
        rfl

end ObservedConfig.Replica
