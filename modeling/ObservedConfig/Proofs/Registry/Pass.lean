import ObservedConfig.Proofs.Observer.Arguments
import ObservedConfig.Proofs.Observer.RoleBinding
import ObservedConfig.Proofs.Registry.Isolation

/-! A pass of the two observers. It completes when neither of them crashes, and then its result is
the merge of what each contributes, with the errors of both. -/
namespace ObservedConfig.Registry

variable {σ : Type}

theorem runAll_pair {a b : Observer σ} {ctx : Context} {existing : Tree}
    {session session' : Session σ} {observations : List (Observer σ × Observation)} :
    runAll ctx existing [a, b] session = .ok (observations, session') ↔
      ∃ first middle second, a.observe ctx existing session = .ok (first, middle) ∧
        b.observe ctx existing middle = .ok (second, session') ∧
        observations = [(a, first), (b, second)] := by
  cases ranA : a.observe ctx existing session with
  | error => simp [runAll, ranA, bind, Except.bind]
  | ok result =>
    obtain ⟨first, middle⟩ := result
    cases ranB : b.observe ctx existing middle with
    | error =>
      simp only [runAll, ranA, ranB, bind, Except.bind, reduceCtorEq, Except.ok.injEq,
        Prod.mk.injEq, false_iff]
      rintro ⟨_, _, second, ⟨rfl, rfl⟩, other, -⟩
      rw [ranB] at other
      cases other
    | ok result =>
      obtain ⟨second, last⟩ := result
      simp only [runAll, ranA, ranB, bind, Except.bind, pure, Except.pure, Except.ok.injEq,
        Prod.mk.injEq]
      constructor
      · rintro ⟨rfl, rfl⟩
        exact ⟨first, middle, second, ⟨rfl, rfl⟩, ranB, rfl⟩
      · rintro ⟨_, _, second', ⟨rfl, rfl⟩, other, rfl⟩
        rw [ranB] at other
        cases other
        exact ⟨rfl, rfl⟩

variable [Replica.Syncer σ]

def builtin : Registry σ := ⟨[ExternalOidc.observer, RoleBinding.observer]⟩

theorem standard_eq : (standard : Except ObserveError (Registry σ)) = .ok builtin := rfl

def contributed (existing : Tree) (observation : Observation) : Tree :=
  if observation.isOk then observation.config else existing

def contributions (existing : Tree) (oidc role : Observation) : Slice.Contributions :=
  [(ExternalOidc.owned, contributed existing oidc),
    ([RoleBinding.disabledPlugins], contributed existing role)]

theorem owned_apart :
    ∀ p ∈ ExternalOidc.owned, ¬ Path.Comparable p RoleBinding.disabledPlugins := by
  decide

theorem disjoint_contributions (existing : Tree) (oidc role : Observation) :
    Slice.Disjoint (contributions existing oidc role) := by
  simpa [Slice.Disjoint, contributions] using owned_apart

/-- Nothing comes to stand in the way of the arguments. -/
theorem bare_of_merges {existing oidc role m : Tree}
    (bare : existing.content? [argumentsKey] = none)
    (merges : Slice.Merges existing
      [(ExternalOidc.owned, oidc), ([RoleBinding.disabledPlugins], role)] m) :
    m.content? [argumentsKey] = none := by
  cases content : m.content? [argumentsKey] with
  | none => rfl
  | some value =>
    rcases merges.origin _ _ content with former | ⟨contribution, member, covered, -⟩
    · rw [bare] at former
      cases former
    · have oidcApart : ¬ Path.Covered ExternalOidc.owned [argumentsKey] := by decide
      have roleApart : ¬ Path.Covered [RoleBinding.disabledPlugins] [argumentsKey] := by decide
      simp only [List.mem_cons, List.not_mem_nil, or_false] at member
      rcases member with rfl | rfl
      · exact absurd covered oidcApart
      · exact absurd covered roleApart

/-- A pass is one run of each observer on the committed configuration, put together. -/
theorem observe_builtin {ctx : Context} {existing : Tree} {session session' : Session σ}
    {pass : Pass} : builtin.observe ctx existing session = .ok (pass, session') ↔
      ∃ oidc middle role,
        Carried ExternalOidc.name existing session (ExternalOidc.decide ctx existing) oidc
          middle ∧
        Carried RoleBinding.name existing middle (RoleBinding.decide ctx existing) role session' ∧
        pass = assemble existing
          [((ExternalOidc.observer : Observer σ), oidc), (RoleBinding.observer, role)] := by
  have split : builtin.observe ctx existing session = .ok (pass, session') ↔
      ∃ observations, runAll ctx existing [ExternalOidc.observer, RoleBinding.observer] session =
        .ok (observations, session') ∧ pass = assemble existing observations := by
    simp only [observe, builtin, bind_eq_ok, pure_eq_ok, Prod.mk.injEq, Prod.exists]
    constructor
    · rintro ⟨observations, _, ran, rfl, rfl⟩
      exact ⟨observations, ran, rfl⟩
    · rintro ⟨observations, ran, rfl⟩
      exact ⟨observations, session', ran, rfl, rfl⟩
  rw [split]
  constructor
  · rintro ⟨observations, ran, rfl⟩
    obtain ⟨oidc, middle, role, first, second, rfl⟩ := runAll_pair.mp ran
    exact ⟨oidc, middle, role, deciding_observe.mp first, deciding_observe.mp second, rfl⟩
  · rintro ⟨oidc, middle, role, first, second, rfl⟩
    exact ⟨_, runAll_pair.mpr ⟨oidc, middle, role, deciding_observe.mpr first,
      deciding_observe.mpr second, rfl⟩, rfl⟩

def tagged (oidc role : Observation) : List (String × ObserveError) :=
  (oidc.errors.map fun e => (ExternalOidc.name, e)) ++
    role.errors.map fun e => (RoleBinding.name, e)

/-- How a completed pass comes about. -/
structure Passed (ctx : Context) (existing : Tree) (session : Session σ) (oidc : Observation)
    (middle : Session σ) (role : Observation) (session' : Session σ) (pass : Pass) : Prop where
  oidcCarried :
    Carried ExternalOidc.name existing session (ExternalOidc.decide ctx existing) oidc middle
  roleCarried :
    Carried RoleBinding.name existing middle (RoleBinding.decide ctx existing) role session'
  merges : Slice.Merges existing (contributions existing oidc role) pass.config
  errors : pass.errors = tagged oidc role
  changed : pass.changed = !Tree.same pass.config (Tree.pruned existing)

theorem assemble_of_merged {existing m : Tree} {oidc role : Observation}
    (merged : Slice.mergeOwned existing (contributions existing oidc role) = .ok m) :
    assemble existing [((ExternalOidc.observer : Observer σ), oidc), (RoleBinding.observer, role)] =
      ⟨m, !Tree.same m (Tree.pruned existing), tagged oidc role⟩ := by
  have errors : [((ExternalOidc.observer : Observer σ), oidc), (RoleBinding.observer, role)].flatMap
      taggedErrors = tagged oidc role := by
    simp [taggedErrors, tagged, ExternalOidc.observer, RoleBinding.observer, Observer.deciding]
  rw [← errors]
  exact assemble_eq merged

theorem sorted_contributions {ctx : Context} {existing : Tree} {session middle session' : Session σ}
    {oidc role : Observation} (sorted : Tree.Sorted existing)
    (first : Carried ExternalOidc.name existing session (ExternalOidc.decide ctx existing) oidc
      middle)
    (second : Carried RoleBinding.name existing middle (RoleBinding.decide ctx existing) role
      session') : ∀ c ∈ contributions existing oidc role, Tree.Sorted c.2 := by
  have oidcSorted : Tree.Sorted oidc.config := first.config_of sorted
    fun d decided => ExternalOidc.sorted_fragment sorted decided
  have roleSorted : Tree.Sorted role.config := second.config_of sorted fun d decided => by
    obtain ⟨_, _, -, -, rfl⟩ := RoleBinding.decide_eq_ok.mp decided
    exact RoleBinding.sorted_fragment _ _
  intro c member
  simp only [contributions, List.mem_cons, List.not_mem_nil, or_false] at member
  rcases member with rfl | rfl
  · exact @sorted_contribution σ existing sorted (ExternalOidc.observer, oidc) oidcSorted
  · exact @sorted_contribution σ existing sorted (RoleBinding.observer, role) roleSorted

/-- The merge of a pass always succeeds. -/
theorem passed {ctx : Context} {existing : Tree} {session session' : Session σ} {pass : Pass}
    (sorted : Tree.Sorted existing)
    (completed : builtin.observe ctx existing session = .ok (pass, session')) :
    ∃ oidc middle role, Passed ctx existing session oidc middle role session' pass := by
  obtain ⟨oidc, middle, role, first, second, rfl⟩ := observe_builtin.mp completed
  obtain ⟨m, merged, merges⟩ := Slice.exists_mergeOwned sorted
    (sorted_contributions sorted first second) (disjoint_contributions existing oidc role)
  rw [assemble_of_merged merged]
  exact ⟨oidc, middle, role, first, second, merges, rfl, rfl⟩

/-- The pass of two decisions whose plans are all accepted. -/
theorem observe_of_decided {ctx : Context} {existing m : Tree} {session : Session σ} {rules : σ}
    {oidc role : Decision} (oidcDecided : ExternalOidc.decide ctx existing = .ok oidc)
    (roleDecided : RoleBinding.decide ctx existing = .ok role)
    (issued : Decision.issueAll oidc.plans session.rules = (.ok (), rules))
    (merged : Slice.mergeOwned existing
      [(ExternalOidc.owned, oidc.fragment), ([RoleBinding.disabledPlugins], role.fragment)] =
        .ok m) :
    builtin.observe ctx existing session = .ok (⟨m, !Tree.same m (Tree.pruned existing), []⟩,
      ⟨rules, session.events ++ (oidc.messages.map fun message => ⟨ExternalOidc.name, message⟩) ++
        role.messages.map fun message => ⟨RoleBinding.name, message⟩⟩) := by
  have issuedRole : Decision.issueAll role.plans rules = (.ok (), rules) := by
    rw [RoleBinding.plans_of_decide roleDecided]
    rfl
  have whole : assemble existing [((ExternalOidc.observer : Observer σ), ⟨oidc.fragment, []⟩),
      (RoleBinding.observer, ⟨role.fragment, []⟩)] =
      ⟨m, !Tree.same m (Tree.pruned existing), []⟩ := assemble_of_merged merged
  refine observe_builtin.mpr ⟨⟨oidc.fragment, []⟩,
    ⟨rules, session.events ++ oidc.messages.map fun message => ⟨ExternalOidc.name, message⟩⟩,
    ⟨role.fragment, []⟩, ?_, ?_, whole.symm⟩
  · rw [oidcDecided]
    exact .accepted issued
  · rw [roleDecided]
    exact .accepted issuedRole

/-- A cluster whose users log in at one provider, with the config map that its issuer names. -/
def sampleCluster (certificateAuthority : String) : Snapshot :=
  (Snapshot.empty.addAuthentication
    ⟨.located "" Authentication.resourceName, ⟨.oidc, [{
      name := "corp"
      issuer := ⟨"https://login.example", [], certificateAuthority⟩
      clients := [⟨"kube-apiserver", "openshift-kube-apiserver", "console", []⟩]
      mappings := ⟨⟨"email", .noPrefix, none⟩, ⟨"groups", ""⟩⟩
      rules := [] }]⟩⟩).addConfigMap
    { ConfigMap.blank with
      metadata := .located "openshift-config" "corp-ca"
      data := some [("ca-bundle.crt", "PEM")] }

def sampleContext (cluster : Snapshot) : Context :=
  ⟨cluster.lookup, .fixed ⟨["ExternalOIDC"], []⟩, .standard⟩

end ObservedConfig.Registry
