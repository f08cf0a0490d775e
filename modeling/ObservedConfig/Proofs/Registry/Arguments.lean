import ObservedConfig.Proofs.Registry.Pass

/-! The arguments of external providers over whole runs. Every pass leaves them of one style, and a
pass in which their observer may not or cannot act leaves them as they are. -/
namespace ObservedConfig

namespace ExternalOidc

/-- Without the gate the observer can only keep what is there. -/
theorem fragment_of_closed {ctx : Context} {existing : Tree} {d : Decision}
    (closed : ¬ Gated ctx) (decided : decide ctx existing = .ok d) : d.fragment = existing := by
  obtain ⟨i, intended, settled⟩ := decide_eq_ok decided
  cases intends intended with
  | keep =>
    cases settled
    rfl
  | reset gated => exact absurd gated closed
  | derive gated => exact absurd gated closed

end ExternalOidc

namespace Registry

variable {σ : Type} [Replica.Syncer σ] {ctx : Context} {existing : Tree}
  {session middle session' : Session σ} {oidc role : Observation} {pass : Pass}

/-- Below the arguments of the observer a pass shows what is left of its contribution. -/
theorem Passed.get?_owned (passed : Passed ctx existing session oidc middle role session' pass)
    (sorted : Tree.Sorted existing) {q : Path} (covered : Path.Covered ExternalOidc.owned q) :
    pass.config.get? q = ((contributed existing oidc).get? q).bind Node.kept :=
  passed.merges.get?_owned (sorted_contributions sorted passed.oidcCarried passed.roleCarried)
    List.mem_cons_self covered

/-- One pass keeps the arguments of one style. -/
theorem Passed.wellFormed (passed : Passed ctx existing session oidc middle role session' pass)
    (sorted : Tree.Sorted existing) (wellFormed : ExternalOidc.WellFormed existing) :
    ExternalOidc.WellFormed pass.config := by
  have contribution : ExternalOidc.WellFormed (contributed existing oidc) := by
    unfold contributed
    split
    · exact passed.oidcCarried.config_of wellFormed fun d decided =>
        ExternalOidc.wellFormed_fragment wellFormed decided
    · exact wellFormed
  apply contribution.of_kept
  intro argument member
  exact passed.get?_owned sorted (ExternalOidc.covered_owned member)

/-- The observer may not act, or it reports an error. -/
def Quiet (ctx : Context) (pass : Pass) : Prop :=
  ctx.gates.isObserved = false ∨
    (∃ gates, ctx.gates.current = .ok gates ∧
      gates.isEnabled ctx.settings.externalOidcGate = false) ∨
    ∃ e, (ExternalOidc.name, e) ∈ pass.errors

theorem Passed.contributed_of_quiet
    (passed : Passed ctx existing session oidc middle role session' pass)
    (quiet : Quiet ctx pass) : contributed existing oidc = existing := by
  have kept : ¬ ExternalOidc.Gated ctx → contributed existing oidc = existing := by
    intro closed
    unfold contributed
    split
    · exact passed.oidcCarried.config_of (motive := fun config => config = existing) rfl
        fun d decided => ExternalOidc.fragment_of_closed closed decided
    · rfl
  rcases quiet with unobserved | ⟨gates, current, off⟩ | ⟨e, reported⟩
  · apply kept
    rintro ⟨gates, found, -⟩
    simp [GateAccess.gates?, unobserved] at found
  · apply kept
    rintro ⟨other, found, on⟩
    unfold GateAccess.gates? at found
    split at found
    · rw [current] at found
      cases found
      rw [off] at on
      cases on
    · cases found
  · rw [passed.errors, tagged, List.mem_append] at reported
    have different : RoleBinding.name ≠ ExternalOidc.name := by decide
    have own : oidc.errors ≠ [] := by
      rintro bare
      simp [bare, different] at reported
    simp [contributed, Observation.isOk, own]

/-- The configurations that passes lead to, each pass with a cluster, gates, settings and a syncer
of its own. -/
inductive Reaches (start : Tree) : Tree → Prop where
  | start : Reaches start start
  | pass {σ : Type} [Replica.Syncer σ] {t ctx} {session session' : Session σ} {pass}
    (reached : Reaches start t)
    (completed : builtin.observe ctx t session = .ok (pass, session')) :
    Reaches start pass.config

/-- Every configuration of a run is sorted, and its arguments are of one style. -/
theorem Reaches.wellFormed {start t : Tree} (reaches : Reaches start t)
    (sorted : Tree.Sorted start) (wellFormed : ExternalOidc.WellFormed start) :
    Tree.Sorted t ∧ ExternalOidc.WellFormed t := by
  induction reaches with
  | start => exact ⟨sorted, wellFormed⟩
  | pass _ completed ih =>
    obtain ⟨sorted, wellFormed⟩ := ih
    obtain ⟨oidc, middle, role, passed⟩ := passed sorted completed
    exact ⟨passed.merges.sorted, passed.wellFormed sorted wellFormed⟩

/-- The arguments are of one style in every configuration of a run, and in every further pass that
is quiet about them they stay what they are. -/
theorem arguments_all_or_nothing {start t : Tree} (sorted : Tree.Sorted start)
    (wellFormed : ExternalOidc.WellFormed start) (reaches : Reaches start t) :
    ExternalOidc.WellFormed t ∧
      ∀ {σ : Type} [Replica.Syncer σ] {ctx : Context} {session session' : Session σ} {pass : Pass},
        builtin.observe ctx t session = .ok (pass, session') → Quiet ctx pass →
        ∀ p ∈ ExternalOidc.owned, ∀ q, p <+: q →
          pass.config.get? q = (t.get? q).bind Node.kept := by
  obtain ⟨sortedT, wellFormedT⟩ := reaches.wellFormed sorted wellFormed
  refine ⟨wellFormedT, ?_⟩
  intro σ _ ctx session session' pass completed quiet p member q below
  obtain ⟨oidc, middle, role, passed⟩ := passed sortedT completed
  have covered : Path.Covered ExternalOidc.owned q :=
    ⟨p, member, ExternalOidc.ne_nil_of_owned member, below⟩
  rw [passed.get?_owned sortedT covered, passed.contributed_of_quiet quiet]

/-- A login that was configured once outlives a pass before any gates are seen. -/
theorem arguments_all_or_nothing_after_login :
    ∃ (first second : Pass) (s t : Session),
      builtin.observe (sampleContext (sampleCluster "corp-ca")) []
        ⟨.empty "openshift-kube-apiserver", []⟩ = .ok (first, s) ∧
      builtin.observe ⟨Snapshot.empty.lookup, .ofLatest none, .standard⟩ first.config s =
        .ok (second, t) ∧
      ExternalOidc.WellFormed first.config ∧
      second.config.get? [argumentsKey, ExternalOidc.issuerUrl] =
        some (.list ["https://login.example"]) := by
  have set : ((builtin.observe (sampleContext (sampleCluster "corp-ca")) []
      (⟨.empty "openshift-kube-apiserver", []⟩ : Session)).toOption.bind fun result =>
        (result.1.config.get? [argumentsKey, ExternalOidc.issuerUrl]).bind Node.list?) =
      some ["https://login.example"] := by
    decide +kernel
  have again : ((builtin.observe (sampleContext (sampleCluster "corp-ca")) []
      (⟨.empty "openshift-kube-apiserver", []⟩ : Session)).bind fun result =>
        builtin.observe ⟨Snapshot.empty.lookup, .ofLatest none, .standard⟩ result.1.config
          result.2).isOk = true := by
    decide +kernel
  obtain ⟨⟨first, s⟩, completed, issuer⟩ := Option.bind_eq_some_iff.mp set
  rw [toOption_eq_some] at completed
  rw [completed] at again
  obtain ⟨⟨second, t⟩, completed'⟩ := exists_of_isOk again
  obtain ⟨wellFormed, kept⟩ := arguments_all_or_nothing Tree.sorted_nil ExternalOidc.wellFormed_empty
    (.pass .start completed)
  refine ⟨first, second, s, t, completed, completed', wellFormed, ?_⟩
  rw [kept completed' (.inl rfl) [argumentsKey, ExternalOidc.issuerUrl] (by decide) _
    List.prefix_rfl]
  obtain ⟨node, found, list⟩ := Option.bind_eq_some_iff.mp issuer
  rw [found, Node.list?_eq_some.mp list]
  rfl

end Registry

end ObservedConfig
