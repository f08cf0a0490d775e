import ObservedConfig.Proofs.Registry.Ownership
import ObservedConfig.Proofs.Result

/-! Isolation of observers. Whatever the observers of a registry come to, merging their parts
succeeds, so a pass has no errors but theirs. What an observer comes to shows at and below its own
paths only: a failure there keeps what is committed, and nothing changes for the others. -/
namespace ObservedConfig.Registry

variable {σ : Type}

section Runs

variable {ctx : Context} {existing : Tree} {session session' : Session σ}
variable {seen : List (Observer σ × Observation)}

theorem observers_of_runAll {observers : List (Observer σ)}
    (ran : runAll ctx existing observers session = .ok (seen, session')) :
    seen.map Prod.fst = observers := by
  induction observers generalizing session session' seen with
  | nil =>
    obtain ⟨rfl, -⟩ : [] = seen ∧ session = session' := by simpa [runAll] using ran
    rfl
  | cons o rest ih =>
    simp only [runAll, bind_eq_ok, pure_eq_ok, Prod.exists, Prod.mk.injEq] at ran
    obtain ⟨observation, middle, -, later, last, ranLater, rfl, -⟩ := ran
    rw [List.map_cons, ih ranLater]

/-- Putting parts together, where merging them succeeds. -/
theorem assemble_eq {m : Tree}
    (merged : Slice.mergeOwned existing (seen.map (contribution existing)) = .ok m) :
    assemble existing seen =
      ⟨m, !Tree.same m (Tree.pruned existing), seen.flatMap taggedErrors⟩ := by
  simp only [assemble, merged, orError, mapError_ok]

theorem sorted_contribution (sorted : Tree.Sorted existing) {x : Observer σ × Observation}
    (sortedHere : Tree.Sorted x.2.config) : Tree.Sorted (contribution existing x).2 := by
  simp only [contribution]
  split <;> assumption

/-- A pass of observers that keep apart is the merge of what they contribute, with their errors. -/
theorem exists_observed {r : Registry σ} (apart : r.observers.Pairwise Observer.Apart)
    (sorted : Tree.Sorted existing) (sortedSeen : ∀ x ∈ seen, Tree.Sorted x.2.config)
    (ran : runAll ctx existing r.observers session = .ok (seen, session')) :
    ∃ m, Slice.mergeOwned existing (seen.map (contribution existing)) = .ok m ∧
      Slice.Merges existing (seen.map (contribution existing)) m ∧
      r.observe ctx existing session =
        .ok (⟨m, !Tree.same m (Tree.pruned existing), seen.flatMap taggedErrors⟩, session') := by
  have sortedParts : ∀ c ∈ seen.map (contribution existing), Tree.Sorted c.2 := by
    intro c member
    obtain ⟨x, inside, rfl⟩ := List.mem_map.mp member
    exact sorted_contribution sorted (sortedSeen x inside)
  have disjoint : Slice.Disjoint (seen.map (contribution existing)) := by
    rw [← observers_of_runAll ran, List.pairwise_map] at apart
    exact List.pairwise_map.mpr apart
  obtain ⟨m, merged, merges⟩ := Slice.exists_mergeOwned sorted sortedParts disjoint
  refine ⟨m, merged, merges, ?_⟩
  simp only [observe, ran, bind, Except.bind, pure, Except.pure, assemble_eq merged]

/-- At and below its paths an observer decides on its own what there is. -/
theorem get?_of_seen {m : Tree} (sorted : Tree.Sorted existing)
    (sortedSeen : ∀ x ∈ seen, Tree.Sorted x.2.config)
    (merges : Slice.Merges existing (seen.map (contribution existing)) m)
    {x : Observer σ × Observation} (member : x ∈ seen) {p q : Path} (owned : p ∈ x.1.owned)
    (nonempty : p ≠ []) (below : p <+: q) :
    m.get? q = ((contribution existing x).2.get? q).bind Node.kept := by
  refine merges.get?_owned ?_ (List.mem_map_of_mem member) ⟨p, owned, nonempty, below⟩
  intro c inside
  obtain ⟨y, memberY, rfl⟩ := List.mem_map.mp inside
  exact sorted_contribution sorted (sortedSeen y memberY)

end Runs

/-- Whatever the observers come to, merging their parts succeeds and the errors of the pass are
theirs, in the order of registration. An observer with errors keeps what is committed at and below
its paths. Putting another observer with the same paths in the place of one shows nowhere at or
below the paths of the others, and leaves their errors as they are. -/
theorem observers_isolated {calls : List (Observer σ)} (nonempty : ∀ o ∈ calls, [] ∉ o.owned)
    {ctx : Context} {existing : Tree} {session session' : Session σ}
    {seen : List (Observer σ × Observation)} (sorted : Tree.Sorted existing)
    (sortedSeen : ∀ x ∈ seen, Tree.Sorted x.2.config)
    (ran : runAll ctx existing (after calls).observers session = .ok (seen, session')) :
    ∃ pass, (after calls).observe ctx existing session = .ok (pass, session') ∧
      Slice.mergeOwned existing (seen.map (contribution existing)) = .ok pass.config ∧
      pass.errors = (seen.map fun x => x.2.errors.map fun e => (x.1.name, e)).flatten ∧
      (∀ x ∈ seen, x.2.errors ≠ [] → ∀ p ∈ x.1.owned, ∀ q, p <+: q →
        pass.config.get? q = Tree.get? (Tree.pruned existing) q) ∧
      ∀ j (inside : j < (after calls).observers.length) (other : Observer σ) (found : Observation)
        (start last : Session σ), other.owned = (after calls).observers[j].owned →
        Tree.Sorted found.config →
        runAll ctx existing ((after calls).observers.set j other) start =
          .ok (seen.set j (other, found), last) →
        (after ((after calls).observers.set j other)).observers =
          (after calls).observers.set j other ∧
        ∃ next,
          (after ((after calls).observers.set j other)).observe ctx existing start =
            .ok (next, last) ∧
          next.errors = ((seen.map fun x => x.2.errors.map fun e => (x.1.name, e)).set j
            (found.errors.map fun e => (other.name, e))).flatten ∧
          ∀ i (within : i < (after calls).observers.length), i ≠ j →
            ∀ p ∈ (after calls).observers[i].owned, ∀ q, p <+: q →
              next.config.get? q = pass.config.get? q := by
  have whose := observers_of_runAll ran
  have rooted : ∀ x ∈ seen, ∀ p ∈ x.1.owned, p ≠ [] := by
    intro x member p owned root
    have taken : x.1 ∈ (after calls).observers := whose ▸ List.mem_map_of_mem member
    exact nonempty x.1 (mem_of_mem_after taken) (root ▸ owned)
  obtain ⟨m, merged, merges, observed⟩ :=
    exists_observed (pairwise_after calls) sorted sortedSeen ran
  refine ⟨_, observed, merged, List.flatMap_def, ?_, ?_⟩
  · intro x member failed p owned q below
    have part : (contribution existing x).2 = existing := by
      simp [contribution, Observation.isOk, failed]
    rw [get?_of_seen sorted sortedSeen merges member owned (rooted x member p owned) below, part,
      Tree.get?_pruned sorted]
  · intro j inside other found start last sameOwned sortedFound ranNext
    have taken := after_set inside sameOwned
    have sortedNext : ∀ x ∈ seen.set j (other, found), Tree.Sorted x.2.config := by
      intro x member
      rcases List.mem_or_eq_of_mem_set member with former | rfl
      · exact sortedSeen x former
      · exact sortedFound
    obtain ⟨n, -, mergesNext, observedNext⟩ :=
      exists_observed (pairwise_after _) sorted sortedNext (by rwa [taken])
    refine ⟨taken, _, observedNext, ?_, ?_⟩
    · rw [← List.map_set (f := fun x : Observer σ × Observation =>
        x.2.errors.map fun e => (x.1.name, e)) (a := (other, found))]
      exact List.flatMap_def
    · intro i within differs p owned q below
      have listed : i < seen.length := by
        rw [← List.length_map Prod.fst, whose]
        exact within
      have here : seen[i].1 = (after calls).observers[i] := by simp [← whose]
      rw [← here] at owned
      have rootless := rooted _ (List.getElem_mem listed) p owned
      have member : seen[i] ∈ seen.set j (other, found) := by
        rw [List.mem_iff_getElem]
        exact ⟨i, by simpa using listed, List.getElem_set_ne differs.symm _⟩
      rw [get?_of_seen sorted sortedNext mergesNext member owned rootless below,
        get?_of_seen sorted sortedSeen merges (List.getElem_mem listed) owned rootless below]

/-- One observer leaks into the paths of another, which fails, and a third one is turned away. -/
def quarrelling : List (Observer Replica.Rules) := [
  .fixed "audit" [["audit"]] ⟨[("audit", .list ["on"]), ("login", .scalar (.int 1))], []⟩,
  .fixed "login" [["login", "oidc"]] ⟨[("login", .list ["lost"])], [.lookup "timeout"]⟩,
  .fixed "policy" [["audit", "policy"]] ⟨[], [.lookup "never"]⟩]

def broken : Observer Replica.Rules := .fixed "audit" [["audit"]] ⟨[], [.lookup "down"]⟩

/-- The leak does not reach the observer that fails, and neither do the errors that come instead. -/
theorem observers_isolated_beside_leak :
    ∃ pass next : Pass,
      (after quarrelling).observe ⟨Snapshot.empty.lookup, .fixed ⟨[], []⟩, .standard⟩
          [("audit", .list ["off"]), ("login", .tree [("oidc", .list ["old"]), ("void", .tree [])])]
          ⟨.empty "kube", []⟩ = .ok (pass, ⟨.empty "kube", []⟩) ∧
        pass.errors.map (·.1) = ["login"] ∧
        pass.config.get? ["login", "oidc"] = some (.list ["old"]) ∧
      (after ((after quarrelling).observers.set 0 broken)).observe
          ⟨Snapshot.empty.lookup, .fixed ⟨[], []⟩, .standard⟩
          [("audit", .list ["off"]), ("login", .tree [("oidc", .list ["old"]), ("void", .tree [])])]
          ⟨.empty "kube", []⟩ = .ok (next, ⟨.empty "kube", []⟩) ∧
        next.errors.map (·.1) = ["audit", "login"] ∧
        next.config.get? ["login", "oidc"] = some (.list ["old"]) := by
  obtain ⟨pass, observed, -, errors, kept, replaced⟩ := @observers_isolated _ quarrelling
    (by decide) ⟨Snapshot.empty.lookup, .fixed ⟨[], []⟩, .standard⟩
    [("audit", .list ["off"]), ("login", .tree [("oidc", .list ["old"]), ("void", .tree [])])]
    ⟨.empty "kube", []⟩ ⟨.empty "kube", []⟩
    [(.fixed "audit" [["audit"]] ⟨[("audit", .list ["on"]), ("login", .scalar (.int 1))], []⟩,
        ⟨[("audit", .list ["on"]), ("login", .scalar (.int 1))], []⟩),
      (.fixed "login" [["login", "oidc"]] ⟨[("login", .list ["lost"])], [.lookup "timeout"]⟩,
        ⟨[("login", .list ["lost"])], [.lookup "timeout"]⟩)]
    (by decide) (by decide) rfl
  have before : pass.config.get? ["login", "oidc"] = some (.list ["old"]) := by
    rw [kept _ (List.mem_cons_of_mem _ List.mem_cons_self) (by simp) ["login", "oidc"]
      (by decide) _ List.prefix_rfl]
    rfl
  obtain ⟨-, next, observedNext, errorsNext, same⟩ := replaced 0 (by decide) broken
    ⟨[], [.lookup "down"]⟩ ⟨.empty "kube", []⟩ ⟨.empty "kube", []⟩ rfl (by decide) rfl
  refine ⟨pass, next, observed, ?_, before, observedNext, ?_, ?_⟩
  · rw [errors]
    rfl
  · rw [errorsNext]
    rfl
  · rw [same 1 (by decide) (by decide) ["login", "oidc"] (by decide) _ List.prefix_rfl, before]

end ObservedConfig.Registry
