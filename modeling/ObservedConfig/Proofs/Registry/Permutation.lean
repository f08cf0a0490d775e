import ObservedConfig.Proofs.Registry.Isolation
import ObservedConfig.Proofs.Registry.Pass
import ObservedConfig.Proofs.Replica.Acceptance

/-! The order of registration. When the observation of each observer depends only on what it looks
at, a pass comes to the same configuration in every order of the observers, since a merge depends on
which contributions there are and not on their order. -/
namespace ObservedConfig

variable {σ : Type}

namespace Observer

/-- In all sessions of a kind the observer comes to the same, and they stay of that kind. -/
structure Steady (kind : Session σ → Prop) (o : Observer σ) : Prop where
  same : ∀ ctx existing s t, kind s → kind t →
    (o.observe ctx existing s).map Prod.fst = (o.observe ctx existing t).map Prod.fst
  stays : ∀ ctx existing s found s', kind s → o.observe ctx existing s = .ok (found, s') → kind s'

def sight (ctx : Context) (existing : Tree) (session : Session σ) (o : Observer σ) : Observation :=
  match o.observe ctx existing session with
  | .ok (found, _) => found
  | .error _ => default

theorem Steady.observe {kind : Session σ → Prop} {o : Observer σ} (steady : o.Steady kind)
    {ctx : Context} {existing : Tree} {start session : Session σ} (kindStart : kind start)
    (kindSession : kind session)
    (looks : ∃ found after, o.observe ctx existing start = .ok (found, after)) :
    ∃ after, kind after ∧
      o.observe ctx existing session = .ok (o.sight ctx existing start, after) := by
  obtain ⟨found, after, observed⟩ := looks
  have same := steady.same ctx existing session start kindSession kindStart
  rw [observed] at same
  cases here : o.observe ctx existing session with
  | error cause =>
    rw [here] at same
    cases same
  | ok result =>
    obtain ⟨other, after⟩ := result
    obtain rfl : other = found := by simpa [here, Except.map] using same
    exact ⟨after, steady.stays ctx existing session _ _ kindSession here, by simp [sight, observed]⟩

theorem steady_fixed (kind : Session σ → Prop) (name : String) (owned : List Path)
    (found : Observation) : (fixed name owned found).Steady kind where
  same _ _ _ _ _ _ := rfl
  stays := by
    rintro _ _ s _ _ kindS ⟨⟩
    exact kindS

/-- An observer that follows a rule is steady among rules for one namespace. -/
theorem steady_deciding (name : String) (owned : List Path)
    (decide : Context → Tree → Except Failure Decision) (namespaceName : String) :
    (deciding name owned decide : Observer Replica.Rules).Steady
      fun session => session.rules.namespaceName = namespaceName where
  same := by
    intro ctx existing s t kindS kindT
    simp only [deciding]
    cases decide ctx existing with
    | error failure => cases failure <;> rfl
    | ok decision =>
      obtain ⟨answer, -⟩ := Replica.issueAll_congr decision.plans (kindS.trans kindT.symm)
      simp only [Except.map, Decision.carryOut, Except.ok.injEq]
      cases first : Decision.issueAll decision.plans s.rules with
      | mk result rules =>
        cases second : Decision.issueAll decision.plans t.rules with
        | mk result' rules' =>
          obtain rfl : result = result' := by simpa [first, second] using answer
          cases result <;> rfl
  stays := by
    intro ctx existing s found s' kindS observed
    have carried := deciding_observe.mp observed
    have keeps : ∀ plans, (Decision.issueAll plans s.rules).2.namespaceName = namespaceName :=
      fun plans => (Replica.issueAll_congr plans rfl).2.trans kindS
    generalize decide ctx existing = decided at carried
    cases carried with
    | failed => exact kindS
    | @rejected decision _ _ rejection => simpa [rejection] using keeps decision.plans
    | @accepted decision _ issued => simpa [issued] using keeps decision.plans

end Observer

namespace Registry

variable {kind : Session σ → Prop} {ctx : Context} {existing : Tree} {start : Session σ}
variable {observers : List (Observer σ)}

theorem runAll_of_steady (steady : ∀ o ∈ observers, o.Steady kind) (kindStart : kind start)
    (looks : ∀ o ∈ observers, ∃ found next, o.observe ctx existing start = .ok (found, next))
    {session : Session σ} (kindSession : kind session) :
    ∃ last, runAll ctx existing observers session =
      .ok (observers.map fun o => (o, o.sight ctx existing start), last) := by
  induction observers generalizing session with
  | nil => exact ⟨session, rfl⟩
  | cons o rest ih =>
    obtain ⟨steadyHere, steadyLater⟩ := List.forall_mem_cons.mp steady
    obtain ⟨looksHere, looksLater⟩ := List.forall_mem_cons.mp looks
    obtain ⟨middle, kindMiddle, observed⟩ :=
      steadyHere.observe kindStart kindSession looksHere
    obtain ⟨last, ran⟩ := ih steadyLater looksLater kindMiddle
    exact ⟨last, by simp [runAll, observed, ran, bind, Except.bind, pure, Except.pure]⟩

/-- The pass of steady observers that keep apart. -/
theorem exists_pass_of_steady (apart : observers.Pairwise Observer.Apart)
    (steady : ∀ o ∈ observers, o.Steady kind) (kindStart : kind start)
    (looks : ∀ o ∈ observers, ∃ found next, o.observe ctx existing start = .ok (found, next))
    (sorted : Tree.Sorted existing)
    (sortedSight : ∀ o ∈ observers, Tree.Sorted (o.sight ctx existing start).config)
    {session : Session σ} (kindSession : kind session) :
    ∃ m last, Slice.Merges existing
        (observers.map fun o => contribution existing (o, o.sight ctx existing start)) m ∧
      (after observers).observe ctx existing session =
        .ok (⟨m, !Tree.same m (Tree.pruned existing),
          observers.flatMap fun o => taggedErrors (o, o.sight ctx existing start)⟩, last) := by
  obtain ⟨last, ran⟩ := runAll_of_steady steady kindStart looks kindSession
  have taken := after_of_pairwise apart
  have sortedSeen : ∀ x ∈ observers.map fun o => (o, o.sight ctx existing start),
      Tree.Sorted x.2.config := by
    intro x member
    obtain ⟨o, inside, rfl⟩ := List.mem_map.mp member
    exact sortedSight o inside
  obtain ⟨m, -, merges, observed⟩ :=
    exists_observed (pairwise_after observers) sorted sortedSeen (by rwa [taken])
  rw [List.map_map] at merges
  rw [List.flatMap_map] at observed
  exact ⟨m, last, merges, observed⟩

/-- Observers that keep apart and come to the same in all sessions are all registered in every
order, and their passes come to the same configuration with the same errors for each of them. So do
merges of the same contributions. -/
theorem order_of_registration {first second : List (Observer σ)} (same : first.Perm second)
    (apart : first.Pairwise Observer.Apart) (steady : ∀ o ∈ first, o.Steady kind)
    (sorted : Tree.Sorted existing) {other : Session σ} (kindStart : kind start)
    (kindOther : kind other)
    (looks : ∀ o ∈ first, ∃ found next, o.observe ctx existing start = .ok (found, next))
    (sortedSight : ∀ o ∈ first, Tree.Sorted (o.sight ctx existing start).config) :
    (after first).observers = first ∧ (after second).observers = second ∧
    (∃ config changed last last',
      (after first).observe ctx existing start = .ok (⟨config, changed, first.flatMap fun o =>
        (o.sight ctx existing start).errors.map fun e => (o.name, e)⟩, last) ∧
      (after second).observe ctx existing other = .ok (⟨config, changed, second.flatMap fun o =>
        (o.sight ctx existing start).errors.map fun e => (o.name, e)⟩, last')) ∧
    ∀ contributions others : Slice.Contributions, contributions.Perm others →
      Slice.Disjoint contributions → (∀ c ∈ contributions, Tree.Sorted c.2) →
      ∃ m, Slice.mergeOwned existing contributions = .ok m ∧
        Slice.mergeOwned existing others = .ok m := by
  have apartSecond : second.Pairwise Observer.Apart :=
    (same.pairwise_iff Observer.Apart.symm).mp apart
  refine ⟨after_of_pairwise apart, after_of_pairwise apartSecond, ?_, ?_⟩
  · obtain ⟨m, last, merges, observed⟩ :=
      exists_pass_of_steady apart steady kindStart looks sorted sortedSight kindStart
    obtain ⟨n, last', mergesSecond, observedSecond⟩ :=
      exists_pass_of_steady apartSecond (fun o member => steady o (same.mem_iff.mpr member))
        kindStart (fun o member => looks o (same.mem_iff.mpr member)) sorted
        (fun o member => sortedSight o (same.mem_iff.mpr member)) kindOther
    obtain rfl : m = n := merges.unique (fun c => (same.map _).mem_iff) mergesSecond
    exact ⟨m, _, last, last', observed, observedSecond⟩
  · intro contributions others shuffled disjoint sortedFragments
    obtain ⟨m, merged, merges⟩ := Slice.exists_mergeOwned sorted sortedFragments disjoint
    obtain ⟨n, mergedOther, mergesOther⟩ := Slice.exists_mergeOwned sorted
      (fun c member => sortedFragments c (shuffled.mem_iff.mpr member)) (disjoint.perm shuffled)
    obtain rfl : m = n := merges.unique (fun c => shuffled.mem_iff) mergesOther
    exact ⟨m, merged, mergedOther⟩

def crowd : List Observer := [
  ExternalOidc.observer, RoleBinding.observer,
  .fixed "audit" [["audit"]] ⟨[("audit", .list ["on"])], [.lookup "timeout"]⟩,
  .fixed "node" [["node", "ports"]] ⟨[], [.lookup "refused"]⟩]

theorem steady_crowd : ∀ o ∈ crowd,
    o.Steady fun session => session.rules.namespaceName = "openshift-kube-apiserver" := by
  simp only [crowd, List.forall_mem_cons]
  exact ⟨Observer.steady_deciding _ _ _ _, Observer.steady_deciding _ _ _ _,
    Observer.steady_fixed _ _ _ _, Observer.steady_fixed _ _ _ _, by simp⟩

def beforehand : Tree := [("audit", .list ["off"]), ("node", .list ["leaf"])]

def fresh : Session := ⟨.empty "openshift-kube-apiserver", []⟩

/-- The login comes into force in both orders, and the errors change places. -/
theorem order_of_registration_reversed :
    ∃ (config : Tree) (changed : Bool) (errors errors' : List (String × ObserveError))
        (last last' : Session),
      (after crowd).observe (sampleContext (sampleCluster "corp-ca")) beforehand fresh =
          .ok (⟨config, changed, errors⟩, last) ∧
        (after crowd.reverse).observe (sampleContext (sampleCluster "corp-ca")) beforehand fresh =
          .ok (⟨config, changed, errors'⟩, last') ∧
        errors.map (·.1) = ["audit", "node"] ∧ errors'.map (·.1) = ["node", "audit"] := by
  -- One evaluation for all of them, since it runs every observer.
  obtain ⟨completes, sortedSight, names, namesReversed⟩ :
      (∀ o ∈ crowd,
        (o.observe (sampleContext (sampleCluster "corp-ca")) beforehand fresh).isOk = true) ∧
      (∀ o ∈ crowd, Tree.Sorted
        (o.sight (sampleContext (sampleCluster "corp-ca")) beforehand fresh).config) ∧
      (crowd.flatMap fun o => (o.sight (sampleContext (sampleCluster "corp-ca")) beforehand
        fresh).errors.map fun e => (o.name, e)).map (·.1) = ["audit", "node"] ∧
      (crowd.reverse.flatMap fun o => (o.sight (sampleContext (sampleCluster "corp-ca")) beforehand
        fresh).errors.map fun e => (o.name, e)).map (·.1) = ["node", "audit"] := by
    decide +kernel
  have looks : ∀ o ∈ crowd, ∃ found next,
      o.observe (sampleContext (sampleCluster "corp-ca")) beforehand fresh = .ok (found, next) := by
    intro o member
    obtain ⟨⟨found, next⟩, observed⟩ := exists_of_isOk (completes o member)
    exact ⟨found, next, observed⟩
  have ours : fresh.rules.namespaceName = "openshift-kube-apiserver" := rfl
  obtain ⟨-, -, ⟨config, changed, last, last', observed, reversed⟩, -⟩ :=
    order_of_registration (List.reverse_perm crowd).symm (by decide) steady_crowd (by decide)
      ours ours looks sortedSight
  exact ⟨config, changed, _, _, last, last', observed, reversed, names, namesReversed⟩

end Registry

end ObservedConfig
