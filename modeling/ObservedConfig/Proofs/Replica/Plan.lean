import ObservedConfig.Proofs.Observer
import ObservedConfig.Replica.Plan

/-! What plans ask for. A plan for a copy asks for it when the contents differ, and a plan for a
deletion always asks for it. -/
namespace ObservedConfig.Replica

variable {lookup : Lookup} {target source : Location} {key : Option String} {plan : Plan}
  {existing desired : ConfigMap} {needed : Bool}

section Needed

/-- A replica that is not there is wanted whatever its source is like. -/
theorem needsSync_of_absent (absent : lookup.configMap target = .ok none) :
    needsSync lookup target source key = .ok true := by
  simp only [needsSync, absent]
  rfl

variable (present : lookup.configMap target = .ok (some existing))
  (named : source.isEmpty = false)
include present named

theorem needsSync_of_missing (missing : lookup.configMap source = .ok none) :
    needsSync lookup target source key = .error (.sourceNotFound source) := by
  simp only [needsSync, present, named, missing]
  rfl

theorem needsSync_of_found (found : lookup.configMap source = .ok (some desired)) :
    needsSync lookup target source key = differs existing.texts desired.texts key := by
  simp only [needsSync, present, named, found]
  rfl

end Needed

/-- A plan for a deletion depends on the answer for its target alone. -/
theorem planRemoval_congr {lookup' : Lookup}
    (same : lookup'.configMap target = lookup.configMap target) :
    planRemoval lookup' target = planRemoval lookup target := by
  simp only [planRemoval, same]

/-- A plan for a copy depends on the answers for its target and its source alone. -/
theorem planSync_congr {lookup' : Lookup}
    (sameTarget : lookup'.configMap target = lookup.configMap target)
    (sameSource : lookup'.configMap source = lookup.configMap source) :
    planSync lookup' target source key = planSync lookup target source key := by
  simp only [planSync, needsSync, sameTarget, sameSource]

theorem planRemoval_eq_ok (planned : planRemoval lookup target = .ok plan) :
    plan.target = target ∧ plan.request = some .empty := by
  simp only [planRemoval, bind_eq_ok, pure_eq_ok] at planned
  obtain ⟨_, -, rfl⟩ := planned
  exact ⟨rfl, rfl⟩

theorem planSync_eq_ok (planned : planSync lookup target source key = .ok plan) :
    plan.target = target ∧ ∃ needed, needsSync lookup target source key = .ok needed ∧
      plan.request =
        if needed then some (if source.isEmpty then .empty else source) else none := by
  simp only [planSync, bind_eq_ok] at planned
  obtain ⟨needed, compared, planned⟩ := planned
  cases needed with
  | false =>
    obtain rfl := pure_eq_ok.mp planned
    exact ⟨rfl, false, compared, rfl⟩
  | true =>
    cases empty : source.isEmpty with
    | true =>
      obtain rfl : ⟨target, some .empty, .removed⟩ = plan := by simpa [empty] using planned
      exact ⟨rfl, true, compared, by simp⟩
    | false =>
      obtain rfl : ⟨target, some source, .synced⟩ = plan := by simpa [empty] using planned
      exact ⟨rfl, true, compared, by simp⟩

end ObservedConfig.Replica
