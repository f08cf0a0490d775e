import ObservedConfig.Proofs.Observer.Replicas
import ObservedConfig.Proofs.Registry.Repetition
import ObservedConfig.Proofs.Replica.Acceptance

/-! What is announced again. A pass says what it finds of replicas in the cluster. As long as nobody
has applied the rules a second pass finds the same and says it again, so it is quiet only if the
replicas were in place from the beginning. -/
namespace ObservedConfig

theorem Settings.authConfigSource_ne_of_valid {s : Settings} (valid : s.violations = []) :
    s.authConfigSource ≠ "" := by
  intro empty
  have last := (List.append_eq_nil_iff.mp valid).2
  simp [empty, emptyProblem?, Violation.field] at last

namespace Registry

open ExternalOidc (SignsIn replicaMessages caReplica fileReplica)

def replicaEvents (log : EventLog) : EventLog := log.filter (·.message ∈ replicaMessages)

variable {ctx : Context} {existing c : Tree} {session session' : Session} {pass : Pass}
  {d e : Decision} {i : ExternalOidc.Intent}

/-- Of the events of two decisions those about replicas are what the intention has to announce. -/
theorem Settled.replicaEvents (settled : Settled ctx existing session session' c d e)
    (came : i.settle existing = .ok d) :
    replicaEvents ((d.messages.map fun message => ⟨ExternalOidc.name, message⟩) ++
      e.messages.map fun message => ⟨RoleBinding.name, message⟩) =
        i.announcements.map fun message => ⟨ExternalOidc.name, message⟩ := by
  have own : ∀ message ∈ e.messages, message ∉ replicaMessages := by
    obtain ⟨_, _, -, -, rfl⟩ := RoleBinding.decide_eq_ok.mp settled.roleDecided
    intro message sent
    simp only [RoleBinding.decision] at sent
    split at sent
    · cases sent
    · obtain rfl := List.mem_singleton.mp sent
      split <;> decide
  have silent : e.messages.filter (· ∈ replicaMessages) = [] :=
    List.filter_eq_nil_iff.mpr (by simpa using own)
  rw [← (ExternalOidc.settle_eq_ok came).2, Registry.replicaEvents, List.filter_append,
    List.filter_map, List.filter_map]
  simp only [Function.comp_def, silent, List.map_nil, List.append_nil]

/-- A second pass on the same inputs is accepted like the first one. It repeats what the first one
said of replicas and says nothing else, and it is quiet just when the replicas for whatever provider
users sign in at are in place. -/
theorem announcements_repeat (sorted : Tree.Sorted existing) (valid : ctx.settings.violations = [])
    (completed : builtin.observe ctx existing session = .ok (pass, session'))
    (clean : pass.errors = []) (log : EventLog) :
    ∃ (recorded : EventLog) (changed : Bool) (rules : Replica.Rules),
      session'.events = session.events ++ recorded ∧
      builtin.observe ctx pass.config ⟨session'.rules, log⟩ =
        .ok (⟨pass.config, changed, []⟩, ⟨rules, log ++ replicaEvents recorded⟩) ∧
      (replicaEvents recorded = [] ↔ ∀ p structured, SignsIn ctx p structured →
        (caReplica ctx.settings (some p)).InPlace ctx.lookup ∧
          (fileReplica ctx.settings structured).InPlace ctx.lookup) := by
  obtain ⟨d, e, settled⟩ := settled_of_clean sorted completed clean
  obtain ⟨i, intended, came⟩ := ExternalOidc.decide_eq_ok settled.oidcDecided
  obtain ⟨m, found, ofMode⟩ := ExternalOidc.intent_eq_ok intended
  have named : m.Named ctx.settings := by
    intro p client _
    simpa [ExternalOidc.structuredSource, Location.isEmpty] using
      Settings.authConfigSource_ne_of_valid valid
  -- Acceptance depends on the namespace of the rules, which a pass does not change.
  obtain ⟨sameNamespace, acceptable⟩ := Replica.acceptable_of_issueAll settled.issued
  obtain ⟨rules, issued⟩ : ∃ rules, Decision.issueAll i.plans session'.rules = (.ok (), rules) := by
    rw [← (ExternalOidc.settle_eq_ok came).1]
    exact Replica.issueAll_of_acceptable fun plan member =>
      (acceptable plan member).congr sameNamespace
  have again := settled.observe_again intended came intended (.refl i) rfl issued log
  refine ⟨_, !Tree.same pass.config pass.config, rules, settled.events completed, ?_, ?_⟩
  · rw [settled.replicaEvents came]
    exact again
  · rw [settled.replicaEvents came, List.map_eq_nil_iff,
      ExternalOidc.Mode.announcements_eq_nil_iff named ofMode]
    constructor
    · rintro inPlace p structured signsIn
      obtain ⟨client, rfl⟩ := signsIn.derive found
      exact inPlace p client structured rfl
    · rintro inPlace p client structured rfl
      exact inPlace p structured (ExternalOidc.signsIn_of_mode found)

/-- A login takes effect, and the copy of its certificate bundle is announced by each of two passes
with valid settings and empty rules at first. -/
theorem announcements_repeat_after_login :
    ∃ (pass : Pass) (session : Session) (changed : Bool) (rules : Replica.Rules) (again : EventLog),
      builtin.observe (sampleContext (sampleCluster "corp-ca")) []
          ⟨.empty "openshift-kube-apiserver", []⟩ = .ok (pass, session) ∧
        builtin.observe (sampleContext (sampleCluster "corp-ca")) pass.config ⟨session.rules, []⟩ =
          .ok (⟨pass.config, changed, []⟩, ⟨rules, again⟩) ∧
        again = replicaEvents session.events ∧ again ≠ [] := by
  have seen : ((builtin.observe (sampleContext (sampleCluster "corp-ca")) []
      (⟨.empty "openshift-kube-apiserver", []⟩ : Session)).toOption.map fun result =>
        (result.1.errors.isEmpty, (replicaEvents result.2.events).isEmpty)) =
          some (true, false) := by
    decide +kernel
  obtain ⟨⟨pass, session⟩, completed, seen⟩ := Option.map_eq_some_iff.mp seen
  rw [toOption_eq_some] at completed
  simp only [Prod.mk.injEq] at seen
  obtain ⟨noErrors, announced⟩ := seen
  have errors : pass.errors = [] := by simpa using noErrors
  obtain ⟨recorded, changed, rules, events, again, -⟩ :=
    announcements_repeat Tree.sorted_nil (by decide) completed errors []
  obtain rfl : session.events = recorded := by simpa using events
  exact ⟨pass, session, changed, rules, _, completed, by simpa using again, rfl,
    by simpa using announced⟩

/-- A pass without errors under valid settings is not followed by a quiet one. -/
theorem copy_announced_twice :
    Settings.standard.violations = [] ∧ ∃ (pass again : Pass) (session session' : Session),
      builtin.observe (sampleContext (sampleCluster "corp-ca")) []
          ⟨.empty "openshift-kube-apiserver", []⟩ = .ok (pass, session) ∧
        pass.errors = [] ∧
        builtin.observe (sampleContext (sampleCluster "corp-ca")) pass.config ⟨session.rules, []⟩ =
          .ok (again, session') ∧
        session'.events = [⟨ExternalOidc.name, ExternalOidc.caSyncedMessage⟩] := by
  have seen : ((builtin.observe (sampleContext (sampleCluster "corp-ca")) []
      (⟨.empty "openshift-kube-apiserver", []⟩ : Session)).toOption.bind fun first =>
        (builtin.observe (sampleContext (sampleCluster "corp-ca")) first.1.config
          (⟨first.2.rules, []⟩ : Session)).toOption.map fun second =>
            (first.1.errors.isEmpty, second.2.events)) =
      some (true, [⟨ExternalOidc.name, ExternalOidc.caSyncedMessage⟩]) := by
    decide +kernel
  obtain ⟨⟨pass, session⟩, first, seen⟩ := Option.bind_eq_some_iff.mp seen
  obtain ⟨⟨again, session'⟩, second, seen⟩ := Option.map_eq_some_iff.mp seen
  rw [toOption_eq_some] at first second
  simp only [Prod.mk.injEq] at seen
  obtain ⟨clean, events⟩ := seen
  exact ⟨by decide, pass, again, session, session', first, by simpa using clean, second, events⟩

end Registry

end ObservedConfig
