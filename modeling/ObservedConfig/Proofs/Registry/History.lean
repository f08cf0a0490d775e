import ObservedConfig.Proofs.Registry.Pass
import ObservedConfig.Proofs.Replica.Rules
import ObservedConfig.Replica.Server

/-! The rule for the certificate bundle over runs that share one set of rules. A rule is what the
last accepted request for its target said, however long ago that was. A pass whose replica already
has the right content asks for nothing, so a rule that an earlier pass asked for stays in force. -/
namespace ObservedConfig

namespace Replica

variable {rules rules' : Rules} {result : Except ObserveError Unit}

/-- Issuing a plan gives its target the requested rule, unless the target is rejected. -/
theorem source?_issue {plan : Plan} (issued : plan.issue rules = (result, rules')) :
    rules'.namespaceName = rules.namespaceName ∧ ∀ place, rules'.source? place =
      if place = plan.target ∧ rules.rejection? place = none
      then plan.request.or (rules.source? place) else rules.source? place := by
  unfold Plan.issue at issued
  cases request : plan.request with
  | none =>
    simp only [request, Prod.mk.injEq] at issued
    obtain ⟨-, rfl⟩ := issued
    simp
  | some source =>
    simp only [request, Syncer.request] at issued
    cases asked : rules.request plan.target source with
    | error e =>
      simp only [asked, Prod.mk.injEq] at issued
      obtain ⟨-, rfl⟩ := issued
      have rejected : rules.rejection? plan.target ≠ none := by
        intro free
        unfold Rules.request at asked
        rw [free] at asked
        dsimp only at asked
        split at asked <;> cases asked
      refine ⟨rfl, fun place => ?_⟩
      rw [if_neg]
      rintro ⟨rfl, free⟩
      exact rejected free
    | ok next =>
      simp only [asked, Prod.mk.injEq] at issued
      obtain ⟨-, rfl⟩ := issued
      obtain ⟨free, namespaceName, sources⟩ := Rules.request_eq_ok asked
      refine ⟨namespaceName, fun place => ?_⟩
      rw [sources]
      by_cases same : place = plan.target
      · subst same
        simp [free]
      · simp [same]

theorem source?_issueAll_apart {plans : List Plan} {place : Location}
    (apart : ∀ plan ∈ plans, place ≠ plan.target)
    (issued : Decision.issueAll plans rules = (result, rules')) :
    rules'.namespaceName = rules.namespaceName ∧ rules'.source? place = rules.source? place := by
  induction plans generalizing rules with
  | nil =>
    cases issued
    exact ⟨rfl, rfl⟩
  | cons plan rest ih =>
    obtain ⟨here, later⟩ := List.forall_mem_cons.mp apart
    unfold Decision.issueAll at issued
    split at issued
    next e middle first =>
      cases issued
      obtain ⟨namespaceName, sources⟩ := source?_issue first
      exact ⟨namespaceName, by simp [sources, here]⟩
    next middle first =>
      obtain ⟨namespaceName, sources⟩ := source?_issue first
      obtain ⟨namespaceName', source⟩ := ih later issued
      exact ⟨namespaceName'.trans namespaceName, by simp [source, sources, here]⟩

/-- The first of several plans decides about its target, whatever becomes of the others. -/
theorem source?_issueAll_cons {plan : Plan} {rest : List Plan}
    (apart : ∀ other ∈ rest, plan.target ≠ other.target)
    (issued : Decision.issueAll (plan :: rest) rules = (result, rules')) :
    rules'.namespaceName = rules.namespaceName ∧ rules'.source? plan.target =
      if rules.rejection? plan.target = none then plan.request.or (rules.source? plan.target)
      else rules.source? plan.target := by
  unfold Decision.issueAll at issued
  split at issued
  next e middle first =>
    cases issued
    obtain ⟨namespaceName, sources⟩ := source?_issue first
    exact ⟨namespaceName, by simp [sources]⟩
  next middle first =>
    obtain ⟨namespaceName, sources⟩ := source?_issue first
    obtain ⟨namespaceName', source⟩ := source?_issueAll_apart apart issued
    exact ⟨namespaceName'.trans namespaceName, by simp [source, sources]⟩

end Replica

namespace Registry

open Replica (Rules)
open ExternalOidc (caTarget structuredTarget)

structure Turn where
  lookup : Lookup
  gates : GateAccess
  existing : Tree
  events : EventLog

def Turn.context (turn : Turn) (s : Settings) : Context := ⟨turn.lookup, turn.gates, s⟩

def Turn.pass (turn : Turn) (s : Settings) (rules : Rules) : Except Crash (Pass × Session) :=
  builtin.observe (turn.context s) turn.existing ⟨rules, turn.events⟩

/-- What the pass asks for the replica of the certificate bundle. A replica without a name is never
asked for. -/
def Turn.request? (turn : Turn) (s : Settings) : Option Location :=
  if (caTarget s).isEmpty then none
  else
    match ExternalOidc.decide (turn.context s) turn.existing with
    | .ok decision => (decision.plans.find? fun plan => plan.target = caTarget s).bind (·.request)
    | .error _ => none

/-- What was asked for last, in turns of which the latest comes first. -/
def lastRequest (s : Settings) (turns : List Turn) : Option Location :=
  turns.findSome? fun turn => turn.request? s

/-- The rules after completed passes, of which the latest comes first. The cluster, the gates and
the committed configuration may be others in each of them, so the rules may have been applied. -/
inductive Run (s : Settings) : List Turn → Rules → Prop where
  | start : Run s [] (.empty s.targetNamespace)
  | pass {turns rules turn pass session} (earlier : Run s turns rules)
    (completed : turn.pass s rules = .ok (pass, session)) : Run s (turn :: turns) session.rules

/-- A target in the namespace of the rules is only rejected when it has no name. -/
theorem rejection?_eq_none {rules : Rules} {place : Location}
    (inside : rules.namespaceName = place.namespaceName) :
    rules.rejection? place = none ↔ place.isEmpty = false := by
  simp [Rules.rejection?, inside]

/-- What a decision asks for becomes the rule for the certificate bundle. -/
theorem source?_decision {s : Settings} {turn : Turn} {rules rules' : Rules} {decision : Decision}
    {result : Except ObserveError Unit} (different : caTarget s ≠ structuredTarget s)
    (namespaceName : rules.namespaceName = s.targetNamespace)
    (decided : ExternalOidc.decide (turn.context s) turn.existing = .ok decision)
    (issued : Decision.issueAll decision.plans rules = (result, rules')) :
    rules'.namespaceName = s.targetNamespace ∧ rules'.source? (caTarget s) =
      (turn.request? s).or (rules.source? (caTarget s)) := by
  obtain ⟨i, intended, settled⟩ := ExternalOidc.decide_eq_ok decided
  rcases ExternalOidc.plans_of_settle (ExternalOidc.intends intended) settled with
    none | ⟨ca, file, both, caTarget_eq, fileTarget_eq⟩
  · rw [none] at issued
    cases issued
    refine ⟨namespaceName, ?_⟩
    simp [Turn.request?, decided, none]
  · rw [both] at issued
    have target : ca.target = caTarget s := caTarget_eq
    have fileTarget : file.target = structuredTarget s := fileTarget_eq
    have free : rules.rejection? (caTarget s) = none ↔ (caTarget s).isEmpty = false :=
      rejection?_eq_none namespaceName
    have apart : ∀ other ∈ [file], ca.target ≠ other.target := by
      simpa [target, fileTarget] using different
    obtain ⟨namespaceName', source⟩ := Replica.source?_issueAll_cons apart issued
    refine ⟨namespaceName'.trans namespaceName, ?_⟩
    simp only [target, free] at source
    rw [source, Turn.request?, decided]
    cases (caTarget s).isEmpty <;> simp [both, target]

/-- One pass gives the certificate bundle the rule that it asks for. -/
theorem source?_pass {s : Settings} {turn : Turn} {rules : Rules} {pass : Pass} {session : Session}
    (different : caTarget s ≠ structuredTarget s)
    (namespaceName : rules.namespaceName = s.targetNamespace)
    (completed : turn.pass s rules = .ok (pass, session)) :
    session.rules.namespaceName = s.targetNamespace ∧
      session.rules.source? (caTarget s) =
        (turn.request? s).or (rules.source? (caTarget s)) := by
  obtain ⟨oidc, middle, role, first, second, -⟩ := observe_builtin.mp completed
  rw [RoleBinding.rules_of_carried second]
  generalize decided : ExternalOidc.decide _ _ = result at first
  cases first with
  | failed =>
    refine ⟨namespaceName, ?_⟩
    simp [Turn.request?, decided]
  | rejected rejection => exact source?_decision different namespaceName decided rejection
  | accepted issued => exact source?_decision different namespaceName decided issued

/-- The rule in force is the last request. -/
theorem Run.source? {s : Settings} {turns : List Turn} {rules : Rules}
    (different : caTarget s ≠ structuredTarget s) (run : Run s turns rules) :
    rules.namespaceName = s.targetNamespace ∧
      rules.source? (caTarget s) = lastRequest s turns := by
  -- The namespace is carried along: it is why no request with a name is rejected.
  induction run with
  | start => exact ⟨rfl, rfl⟩
  | pass earlier completed ih =>
    obtain ⟨namespaceName, source⟩ := ih
    obtain ⟨namespaceName', source'⟩ := source?_pass different namespaceName completed
    refine ⟨namespaceName', source'.trans ?_⟩
    rw [source, lastRequest, lastRequest, List.findSome?_cons]
    cases Turn.request? _ s <;> rfl

theorem mem_errors {existing : Tree} {oidc role : Observation} {e : ObserveError}
    (reported : e ∈ oidc.errors) : (ExternalOidc.name, e) ∈
      (assemble existing [((ExternalOidc.observer : Observer), oidc),
        (RoleBinding.observer, role)]).errors := by
  have own : (ExternalOidc.name, e) ∈ taggedErrors ((ExternalOidc.observer : Observer), oidc) :=
    List.mem_map_of_mem reported
  unfold assemble
  split <;> simp [own]

theorem planSync_of_caPlan {ctx : Context} {p : Authentication.Provider} {ca : Replica.Plan}
    (planned : ExternalOidc.caPlan ctx p = .ok ca)
    (named : p.issuer.certificateAuthority.isEmpty = false) :
    ca.target = caTarget ctx.settings ∧ ∃ needed,
      Replica.needsSync ctx.lookup (caTarget ctx.settings)
        ⟨ctx.settings.configNamespace, p.issuer.certificateAuthority⟩
        (some ctx.settings.caBundle.key) = .ok needed ∧
      ca.request = if needed
        then some ⟨ctx.settings.configNamespace, p.issuer.certificateAuthority⟩ else none := by
  have source : ExternalOidc.caSource ctx.settings p =
      ⟨ctx.settings.configNamespace, p.issuer.certificateAuthority⟩ := by
    simp [ExternalOidc.caSource, named]
  have filled : Location.isEmpty
      ⟨ctx.settings.configNamespace, p.issuer.certificateAuthority⟩ = false := named
  unfold ExternalOidc.caPlan at planned
  simp only [source, filled, Bool.false_eq_true, if_false] at planned
  simpa [filled] using Replica.planSync_eq_ok planned

/-- A pass without errors for a provider that names a certificate bundle asks for a copy of it
just when the contents differ. -/
theorem request?_of_clean {s : Settings} {turn : Turn} {rules : Rules} {pass : Pass}
    {session : Session} {gates : FeatureGates} {auth : Authentication}
    {p : Authentication.Provider} (namespaceName : rules.namespaceName = s.targetNamespace)
    (completed : turn.pass s rules = .ok (pass, session))
    (current : turn.gates.gates? = .ok (some gates))
    (enabled : gates.isEnabled s.externalOidcGate = true)
    (found : turn.lookup.authentication Authentication.resourceName = .ok (some auth))
    (kind : auth.spec.kind = .oidc) (sole : auth.spec.providers = [p])
    (named : p.issuer.certificateAuthority.isEmpty = false)
    (clean : ∀ e, (ExternalOidc.name, e) ∉ pass.errors) :
    ∃ needed, Replica.needsSync turn.lookup (caTarget s)
        ⟨s.configNamespace, p.issuer.certificateAuthority⟩ (some s.caBundle.key) = .ok needed ∧
      turn.request? s =
        if needed then some ⟨s.configNamespace, p.issuer.certificateAuthority⟩ else none := by
  obtain ⟨oidc, middle, role, first, -, rfl⟩ := observe_builtin.mp completed
  have errors : oidc.errors = [] :=
    List.eq_nil_iff_forall_not_mem.mpr fun e reported => clean e (mem_errors reported)
  obtain ⟨d, rules', decided, -, issued, -⟩ :=
    first.fragment (ExternalOidc.causing_decide _ _) errors
  obtain ⟨i, intended, settled⟩ := ExternalOidc.decide_eq_ok decided
  cases ExternalOidc.intends intended with
  | keep closed => exact absurd ⟨gates, current, enabled⟩ closed
  | reset gated internal => exact absurd kind (internal auth found)
  | @derive auth' p' client structured ca file candidate gated found' kind' sole' derives =>
    have sameAuth : some auth = some auth' := Except.ok.inj (found.symm.trans found')
    cases sameAuth
    obtain rfl : p = p' := by simpa [sole] using sole'
    simp only [ExternalOidc.Intent.settle, bind_eq_ok, pure_eq_ok] at settled
    obtain ⟨outcome, -, rfl⟩ := settled
    obtain ⟨caTarget_eq, needed, compared, request⟩ := planSync_of_caPlan derives.caPlanned named
    have target : ca.target = caTarget s := caTarget_eq
    refine ⟨needed, compared, Eq.trans ?_ request⟩
    rw [Turn.request?, decided]
    cases empty : (caTarget s).isEmpty with
    | false => simp [target]
    | true =>
      -- A request for a replica without a name would have been rejected.
      obtain ⟨_, issuedCa, -⟩ := Replica.issueAll_cons issued
      rcases Replica.issue_cases issuedCa with ⟨none, -⟩ | ⟨source, -, accepted⟩
      · simp [none]
      · have free := (Replica.Rules.request_eq_ok accepted).1
        rw [target, rejection?_eq_none namespaceName, empty] at free
        cases free

/-- After a pass without errors for a provider that names a certificate bundle, no rule but the one
for this bundle is in force exactly when the pass found the contents to differ or nothing else was
asked for last. -/
theorem ca_rule_iff {s : Settings} {turns : List Turn} {turn : Turn} {rules : Rules} {pass : Pass}
    {session : Session} {gates : FeatureGates} {auth : Authentication}
    {p : Authentication.Provider} (different : caTarget s ≠ structuredTarget s)
    (earlier : Run s turns rules) (completed : turn.pass s rules = .ok (pass, session))
    (current : turn.gates.gates? = .ok (some gates))
    (enabled : gates.isEnabled s.externalOidcGate = true)
    (found : turn.lookup.authentication Authentication.resourceName = .ok (some auth))
    (kind : auth.spec.kind = .oidc) (sole : auth.spec.providers = [p])
    (named : p.issuer.certificateAuthority.isEmpty = false)
    (clean : ∀ e, (ExternalOidc.name, e) ∉ pass.errors) :
    (session.rules.source? (caTarget s) = none ∨ session.rules.source? (caTarget s) =
        some ⟨s.configNamespace, p.issuer.certificateAuthority⟩) ↔
      Replica.needsSync turn.lookup (caTarget s)
          ⟨s.configNamespace, p.issuer.certificateAuthority⟩ (some s.caBundle.key) = .ok true ∨
        lastRequest s turns = none ∨
        lastRequest s turns = some ⟨s.configNamespace, p.issuer.certificateAuthority⟩ := by
  obtain ⟨namespaceName, source⟩ := earlier.source? different
  obtain ⟨needed, compared, request⟩ := request?_of_clean namespaceName completed current enabled
    found kind sole named clean
  obtain ⟨-, after⟩ := source?_pass different namespaceName completed
  rw [after, request, source, compared]
  cases needed <;> simp

def mirroredCluster (certificateAuthority : String) : Snapshot :=
  (sampleCluster certificateAuthority).addConfigMap
    { ConfigMap.blank with
      metadata := .located "openshift-kube-apiserver" "oidc-serving-ca-bundle"
      data := some [("ca-bundle.crt", "PEM")] }

def sampleTurn (cluster : Snapshot) : Turn :=
  ⟨cluster.lookup, .fixed ⟨["ExternalOIDC"], []⟩, [], []⟩

/-- In the first pass nothing else was asked for before. -/
theorem ca_rule_iff_first_login :
    ∃ (pass : Pass) (session : Session),
      (sampleTurn (mirroredCluster "corp-ca")).pass .standard (.empty "openshift-kube-apiserver") =
        .ok (pass, session) ∧
      (session.rules.source? (caTarget .standard) = none ∨
        session.rules.source? (caTarget .standard) = some ⟨"openshift-config", "corp-ca"⟩) := by
  have clean : (((sampleTurn (mirroredCluster "corp-ca")).pass .standard
      (.empty "openshift-kube-apiserver")).toOption.map fun result => result.1.errors.isEmpty) =
        some true := by
    decide +kernel
  obtain ⟨⟨pass, session⟩, completed, noErrors⟩ := Option.map_eq_some_iff.mp clean
  rw [toOption_eq_some] at completed
  have errors : pass.errors = [] := by simpa using noErrors
  refine ⟨pass, session, completed, ?_⟩
  exact (ca_rule_iff (by decide) .start completed rfl (by decide) rfl rfl rfl (by decide)
    (by simp [errors])).mpr (.inr (.inl rfl))

/-- A deletion that was asked for while no bundle was named outlives the naming of one whose replica
is in place: the pass reports no error and sets the file of the bundle, and applying the rules
deletes the replica. -/
theorem deletion_outlives_login :
    ∃ (rules : Rules) (pass : Pass) (session : Session),
      Run .standard [sampleTurn (mirroredCluster "")] rules ∧
      (sampleTurn (mirroredCluster "corp-ca")).pass .standard rules = .ok (pass, session) ∧
      pass.errors = [] ∧
      pass.config.get? [argumentsKey, ExternalOidc.caFile] =
        some (.list [Settings.standard.caBundle.path]) ∧
      session.rules.source? (caTarget .standard) = some .empty ∧
      Entries.find? (caTarget .standard) (session.rules.apply
        ⟨(mirroredCluster "corp-ca").configMaps, fun _ _ => none⟩).2.server.configMaps = none := by
  have seen : (((sampleTurn (mirroredCluster "")).pass .standard
      (.empty "openshift-kube-apiserver")).toOption.bind fun first =>
        ((sampleTurn (mirroredCluster "corp-ca")).pass .standard first.2.rules).toOption.map
          fun second => (second.1.errors.isEmpty,
            (second.1.config.get? [argumentsKey, ExternalOidc.caFile]).bind Node.list?,
            second.2.rules.source? (caTarget .standard),
            Entries.find? (caTarget .standard) (second.2.rules.apply
              ⟨(mirroredCluster "corp-ca").configMaps, fun _ _ => none⟩).2.server.configMaps)) =
      some (true, some [Settings.standard.caBundle.path], some .empty, none) := by
    decide +kernel
  obtain ⟨⟨before, session⟩, first, seen⟩ := Option.bind_eq_some_iff.mp seen
  obtain ⟨⟨pass, after⟩, second, seen⟩ := Option.map_eq_some_iff.mp seen
  rw [toOption_eq_some] at first second
  simp only [Prod.mk.injEq] at seen
  obtain ⟨clean, file, rule, deleted⟩ := seen
  obtain ⟨node, found, list⟩ := Option.bind_eq_some_iff.mp file
  rw [Node.list?_eq_some] at list
  exact ⟨session.rules, pass, after, .pass .start first, second, by simpa using clean,
    found.trans (congrArg some list), rule, deleted⟩

end Registry

end ObservedConfig
