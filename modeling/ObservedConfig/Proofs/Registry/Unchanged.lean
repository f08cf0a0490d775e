import ObservedConfig.Proofs.Registry.Isolation
import ObservedConfig.Proofs.Registry.Pass
import ObservedConfig.Proofs.Tree.Equality

/-! Passes in which nobody changes anything. When every observer fails or keeps what is committed,
all owned slices are cleared and the same slices are merged back, which leaves the committed
configuration as it was, pruned. Whether such a pass counts as a change is a matter of the equality
by which the two are compared: a NaN differs from itself. -/
namespace ObservedConfig.Registry

variable {σ : Type} {ctx : Context} {existing : Tree} {session session' : Session σ}
  {seen : List (Observer σ × Observation)}

/-- An observer that fails or keeps what is committed contributes what is committed. -/
theorem contribution_of_kept {x : Observer σ × Observation}
    (kept : x.2.errors ≠ [] ∨ x.2.config = existing) : (contribution existing x).2 = existing := by
  simp only [contribution]
  split
  next ok =>
    rcases kept with failed | same
    · exact absurd (List.isEmpty_iff.mp ok) failed
    · exact same
  next => rfl

/-- Merging back what is committed succeeds, whatever the owned paths are. -/
theorem mergeOwned_of_kept (sorted : Tree.Sorted existing)
    (kept : ∀ x ∈ seen, x.2.errors ≠ [] ∨ x.2.config = existing) :
    Slice.mergeOwned existing (seen.map (contribution existing)) = .ok (Tree.pruned existing) := by
  have same : ∀ c ∈ seen.map (contribution existing), c.2 = existing := by
    intro c member
    obtain ⟨x, inside, rfl⟩ := List.mem_map.mp member
    exact contribution_of_kept (kept x inside)
  apply Slice.mergeOwned_self sorted
  · exact fun c member => same c member ▸ sorted
  · exact fun c member q _ => by rw [same c member]

/-- A pass in which every observer fails or keeps what is committed leaves the committed
configuration, pruned, with the errors of the observers. It counts as a change just when a NaN
stands somewhere in the configuration. -/
theorem changed_of_kept {r : Registry σ} (sorted : Tree.Sorted existing)
    (ran : runAll ctx existing r.observers session = .ok (seen, session'))
    (kept : ∀ x ∈ seen, x.2.errors ≠ [] ∨ x.2.config = existing) :
    ∃ pass, r.observe ctx existing session = .ok (pass, session') ∧
      pass.config = Tree.pruned existing ∧ pass.errors = seen.flatMap taggedErrors ∧
      (pass.changed = true ↔
        ∃ path x, existing.get? path = some (.scalar (.float x)) ∧ x.isNaN = true) := by
  have observed : r.observe ctx existing session =
      .ok (⟨Tree.pruned existing, !Tree.same (Tree.pruned existing) (Tree.pruned existing),
        seen.flatMap taggedErrors⟩, session') := by
    simp only [observe, ran, bind, Except.bind, pure, Except.pure,
      assemble_eq (mergeOwned_of_kept sorted kept)]
  have unequal : (!Tree.same (Tree.pruned existing) (Tree.pruned existing)) = true ↔
      ¬ existing.NaNFree := by
    rw [Bool.not_eq_true', Bool.eq_false_iff, ne_eq,
      Tree.same_self_iff (Tree.sorted_pruned sorted), Tree.naNFree_pruned sorted]
  refine ⟨_, observed, rfl, rfl, unequal.trans ?_⟩
  simp only [Tree.NaNFree, Classical.not_forall, Bool.not_eq_false, exists_prop]

/-- One observer fails and owns a path through a leaf, and the other keeps what is committed. -/
def idle (existing : Tree) : List (Observer Replica.Rules) := [
  .fixed "login" [["login"], ["login", "oidc", "issuer"]] ⟨[], [.lookup "timeout"]⟩,
  .fixed "audit" [["audit", "policy"]] ⟨existing, []⟩]

/-- Without a NaN nothing changes, though a number stands in the configuration and empty containers
go. -/
theorem changed_of_kept_without_nan :
    ∃ (existing : Tree) (pass : Pass),
      existing = [("audit", .tree [("policy", .list [])]),
        ("login", .tree [("oidc", .list ["old"])]), ("ratio", .scalar (.float .infinity))] ∧
      observe ⟨idle existing⟩ ⟨Snapshot.empty.lookup, .fixed ⟨[], []⟩, .standard⟩ existing
        ⟨.empty "kube", []⟩ = .ok (pass, ⟨.empty "kube", []⟩) ∧
      pass.config =
        [("login", .tree [("oidc", .list ["old"])]), ("ratio", .scalar (.float .infinity))] ∧
      pass.errors.map (·.1) = ["login"] ∧ pass.changed = false := by
  generalize stood : ([("audit", .tree [("policy", .list [])]),
    ("login", .tree [("oidc", .list ["old"])]),
    ("ratio", .scalar (.float .infinity))] : Tree) = existing
  obtain ⟨pass, observed, config, errors, changed⟩ := @changed_of_kept _
    ⟨Snapshot.empty.lookup, .fixed ⟨[], []⟩, .standard⟩ existing ⟨.empty "kube", []⟩
    ⟨.empty "kube", []⟩
    [(.fixed "login" [["login"], ["login", "oidc", "issuer"]] ⟨[], [.lookup "timeout"]⟩,
        ⟨[], [.lookup "timeout"]⟩),
      (.fixed "audit" [["audit", "policy"]] ⟨existing, []⟩, ⟨existing, []⟩)]
    ⟨idle existing⟩ (by rw [← stood]; decide) rfl (by simp)
  have numeric : Tree.NaNFree existing := by
    rw [← stood, ← Tree.same_self_iff (by decide)]
    decide
  refine ⟨existing, pass, rfl, observed, ?_, ?_, ?_⟩
  · rw [config, ← stood]
    rfl
  · rw [errors]
    rfl
  · rw [Bool.eq_false_iff, ne_eq, changed]
    rintro ⟨path, x, found, nan⟩
    rw [numeric path x found] at nan
    cases nan

/-- Gates that nobody has seen keep one observer from acting, and the other one fails at a list that
is none. Both keep what is committed, and still the pass counts as a change. -/
theorem nan_counts_as_change :
    ∃ (existing : Tree) (seen : List (Observer Replica.Rules × Observation)) (session : Session)
        (pass : Pass),
      existing = [(argumentsKey, .tree [("disable-admission-plugins", .scalar (.int 5))]),
        ("ratio", .scalar (.float .nan))] ∧
      runAll ⟨Snapshot.empty.lookup, .ofLatest none, .standard⟩ existing builtin.observers
        ⟨.empty "openshift-kube-apiserver", []⟩ = .ok (seen, session) ∧
      (∀ x ∈ seen, x.2.errors ≠ [] ∨ x.2.config = existing) ∧
      builtin.observe ⟨Snapshot.empty.lookup, .ofLatest none, .standard⟩ existing
        ⟨.empty "openshift-kube-apiserver", []⟩ = .ok (pass, session) ∧
      pass.config = Tree.pruned existing ∧ pass.changed = true := by
  refine ⟨_, _, _, _, rfl, rfl, ?_, rfl, rfl, ?_⟩
  · simp [Decision.keep]
  · decide +kernel

end ObservedConfig.Registry
