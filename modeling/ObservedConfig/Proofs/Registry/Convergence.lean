import ObservedConfig.Proofs.Observer.Replicas
import ObservedConfig.Proofs.Registry.Repetition
import ObservedConfig.Proofs.Replica.Convergence

/-! A closed loop. A pass asks for replicas, applying the rules makes them, and the next pass meets
the cluster that this leaves behind. It is in the same mode as the first one, since no source has been
touched, and it finds every replica in place. -/
namespace ObservedConfig

def Settings.files (s : Settings) : List MountedFile := [s.caBundle, s.authConfig]

def Settings.targetOf (s : Settings) (file : MountedFile) : Location :=
  ⟨s.targetNamespace, file.configMap⟩

namespace ExternalOidc

open Replica (Wanted Arranged)

/-- The replicas of a cluster have places of their own, and nothing is copied from there. -/
structure Separate (s : Settings) (cluster : Snapshot) : Prop where
  targets : s.targetOf s.caBundle ≠ s.targetOf s.authConfig
  ca : ∀ auth, cluster.authentication? Authentication.resourceName = some auth →
    ∀ p ∈ auth.spec.providers, (caSource s p).isEmpty = false →
      ∀ file ∈ s.files, caSource s p ≠ s.targetOf file
  structured : ∀ file ∈ s.files, structuredSource s ≠ s.targetOf file

variable {cluster : Snapshot} {gates : GateAccess} {s : Settings} {m : Mode} {w : Wanted}

/-- It is enough that sources and replicas are in different namespaces. -/
theorem Separate.of_namespaces (targets : s.caBundle.configMap ≠ s.authConfig.configMap)
    (config : s.configNamespace ≠ s.targetNamespace)
    (managed : s.managedConfigNamespace ≠ s.targetNamespace) : Separate s cluster where
  targets same := targets (congrArg Location.name same)
  ca auth present p listed named file member same := by
    unfold caSource at same named
    split at same
    next unnamed => simp [unnamed] at named
    next => exact config (congrArg Location.namespaceName same)
  structured file member same := managed (congrArg Location.namespaceName same)

theorem Mode.file_of_replica (member : w ∈ m.replicas s) :
    ∃ file ∈ s.files, w.target = s.targetOf file ∧ w.key = file.key := by
  have ca : s.caBundle ∈ s.files := List.mem_cons_self
  have structured : s.authConfig ∈ s.files := List.mem_cons_of_mem _ List.mem_cons_self
  cases m with
  | keep => cases member
  | reset | derive =>
    simp only [Mode.replicas, List.mem_cons, List.not_mem_nil, or_false] at member
    rcases member with rfl | rfl
    · exact ⟨_, ca, rfl, rfl⟩
    · exact ⟨_, structured, rfl, rfl⟩

theorem Separate.replicas (separate : Separate s cluster) (m : Mode) :
    (m.replicas s).Pairwise fun a b => a.target ≠ b.target := by
  have targets : caTarget s ≠ structuredTarget s := separate.targets
  cases m <;> simp [Mode.replicas, caReplica, fileReplica, targets]

/-- Nothing that belongs to a mode is copied from where a replica is. -/
theorem Separate.source (separate : Separate s cluster)
    (found : mode ⟨cluster.lookup, gates, s⟩ = .ok m) (member : w ∈ m.replicas s)
    (named : w.source.isEmpty = false) : ∀ file ∈ s.files, w.source ≠ s.targetOf file := by
  cases m with
  | keep => cases member
  | reset =>
    simp only [Mode.replicas, List.mem_cons, List.not_mem_nil, or_false] at member
    rcases member with rfl | rfl <;> cases named
  | derive p client structured =>
    simp only [Mode.replicas, List.mem_cons, List.not_mem_nil, or_false] at member
    rcases member with rfl | rfl
    · obtain ⟨_, auth, -, -, present, -, sole, -⟩ := signsIn_of_mode found
      have listed : p ∈ auth.spec.providers := by simp [sole]
      exact separate.ca auth (Except.ok.inj present) p listed named
    · cases structured with
      | false => cases named
      | true => exact separate.structured

/-- A structured configuration is only used if its source exists. -/
theorem Mode.named_of_mode (unnamed : s.authConfigSource = "" →
      cluster.configMap? (structuredSource s) = none)
    (found : mode ⟨cluster.lookup, gates, s⟩ = .ok m) : m.Named s := by
  rintro p client rfl
  obtain ⟨set, _, -, -, -, -, -, structured⟩ := signsIn_of_mode found
  cases gone : (structuredSource s).isEmpty with
  | false => rfl
  | true =>
    have absent := unnamed (by simpa [structuredSource, Location.isEmpty] using gone)
    have missing : cluster.lookup.configMap (structuredSource s) = .ok none :=
      congrArg Except.ok absent
    unfold isStructured at structured
    split at structured
    · rw [missing] at structured
      cases structured
    · cases structured

section Applied
variable {arranged : List (Arranged cluster.lookup)} {rules : Replica.Rules}
  {namespaceName : String} {refusal : List Replica.Request → Replica.Request → Option ApiStatus}
  {run : Replica.Run}
  (separate : Separate s cluster) (found : mode ⟨cluster.lookup, gates, s⟩ = .ok m)
  (same : arranged.map (·.toWanted) = m.replicas s)

include same in
theorem replica_of_arranged {a : Arranged cluster.lookup} (member : a ∈ arranged) :
    a.toWanted ∈ m.replicas s :=
  same ▸ List.mem_map_of_mem member

include separate found same

theorem Separate.apart : Replica.Apart arranged where
  targets := by
    have targets := separate.replicas m
    rwa [← same, List.pairwise_map] at targets
  sources a member copied b other := by
    obtain ⟨file, listed, target, -⟩ := Mode.file_of_replica (replica_of_arranged same other)
    rw [target]
    exact separate.source found (replica_of_arranged same member) copied file listed

variable
  (issued : Decision.issueAll (Arranged.plans arranged) (.empty namespaceName) = (.ok (), rules))
  (sincere : Replica.Server.Sincere ⟨cluster.configMaps, refusal⟩)
  (applied : rules.apply ⟨cluster.configMaps, refusal⟩ = (.ok (), run))
include issued sincere applied

/-- The source of a structured configuration is not touched, so applying the rules of a mode leads to
no other mode. -/
theorem Separate.mode_of_apply :
    mode ⟨(run.cluster cluster).lookup, gates, s⟩ = .ok m := by
  have untouched : (run.cluster cluster).lookup.configMap (structuredSource s) =
      cluster.lookup.configMap (structuredSource s) := by
    apply (separate.apart found same).untouched issued sincere applied
    intro a member
    obtain ⟨file, listed, target, -⟩ := Mode.file_of_replica (replica_of_arranged same member)
    rw [target]
    exact separate.structured file listed
  have sameMode : mode ⟨(run.cluster cluster).lookup, gates, s⟩ =
      mode ⟨cluster.lookup, gates, s⟩ := mode_congr rfl (by rw [untouched])
  exact sameMode.trans found

theorem Separate.inPlace_of_apply
    (held : ∀ file ∈ s.files, ∀ source, rules.source? (s.targetOf file) = some source →
      source.isEmpty = false → Replica.Held cluster.lookup source file.key) :
    ∀ w ∈ m.replicas s, w.InPlace (run.cluster cluster).lookup := by
  intro w member
  rw [← same] at member
  obtain ⟨a, listed, rfl⟩ := List.mem_map.mp member
  apply (separate.apart found same).inPlace_of_apply issued sincere applied _ listed
  intro b other source inForce copied
  obtain ⟨file, listed, target, key⟩ := Mode.file_of_replica (replica_of_arranged same other)
  rw [key]
  exact held file listed source (target ▸ inForce) copied

end Applied

end ExternalOidc

namespace Registry

open Replica (Arranged Wanted)
open ExternalOidc (Separate)

variable {cluster : Snapshot} {gates : GateAccess} {s : Settings} {existing : Tree}
  {log : EventLog} {session : Session} {pass : Pass} {run : Replica.Run}
  {refusal : List Replica.Request → Replica.Request → Option ApiStatus}

/-- A pass without errors and one application of its rules leave nothing to be done: the next pass
changes nothing, asks for nothing new and says nothing. -/
theorem observe_converges (sorted : Tree.Sorted existing) (numeric : existing.NaNFree)
    (separate : Separate s cluster)
    (unnamed : s.authConfigSource = "" →
      cluster.configMap? (ExternalOidc.structuredSource s) = none)
    (completed : builtin.observe ⟨cluster.lookup, gates, s⟩ existing
      ⟨.empty s.targetNamespace, log⟩ = .ok (pass, session))
    (clean : pass.errors = [])
    (held : ∀ file ∈ s.files, ∀ source, session.rules.source? (s.targetOf file) = some source →
      source.isEmpty = false → Replica.Held cluster.lookup source file.key)
    (sincere : Replica.Server.Sincere ⟨cluster.configMaps, refusal⟩)
    (applied : session.rules.apply ⟨cluster.configMaps, refusal⟩ = (.ok (), run))
    (log' : EventLog) :
    builtin.observe ⟨(run.cluster cluster).lookup, gates, s⟩ pass.config ⟨session.rules, log'⟩ =
      .ok (⟨pass.config, false, []⟩, ⟨session.rules, log'⟩) := by
  obtain ⟨d, e, settled⟩ := settled_of_clean sorted completed clean
  obtain ⟨i, intended, came⟩ := ExternalOidc.decide_eq_ok settled.oidcDecided
  obtain ⟨m, found, ofMode⟩ := ExternalOidc.intent_eq_ok intended
  have named : m.Named s := ExternalOidc.Mode.named_of_mode unnamed found
  obtain ⟨arranged, same, plans⟩ := ExternalOidc.Mode.exists_arranged named ofMode
  have issued : Decision.issueAll (Arranged.plans arranged) (.empty s.targetNamespace) =
      (.ok (), session.rules) := by
    rw [← plans, ← (ExternalOidc.settle_eq_ok came).1]
    exact settled.issued
  -- The second pass is in the mode of the first one, whose replicas are in place by now.
  have foundAgain := separate.mode_of_apply found same issued sincere applied
  have inPlace := separate.inPlace_of_apply found same issued sincere applied held
  obtain ⟨i', ofMode', plans', silent⟩ :=
    ExternalOidc.Mode.intent_of_inPlace ⟨(run.cluster cluster).lookup, gates, s⟩ named inPlace
  have intended' : ExternalOidc.intent ⟨(run.cluster cluster).lookup, gates, s⟩ = .ok i' := by
    rw [ExternalOidc.intent_eq, foundAgain]
    exact ofMode'
  -- Of the first pass's requests only deletions are repeated, and these are in force.
  have inForce := (separate.apart found same).inForce_settled issued
  have issuedAgain : Decision.issueAll i'.plans session.rules = (.ok (), session.rules) := by
    rw [plans', ← same]
    exact Replica.issueAll_of_inForce inForce
  have alike := ExternalOidc.Mode.alike ofMode ofMode'
  have again := settled.observe_again intended came intended' alike rfl issuedAgain log'
  rw [silent, Tree.same_self settled.merges.sorted (settled.naNFree numeric)] at again
  simpa using again

/-- A login asks for a copy of its certificate bundle. Once it is made the next pass is quiet. -/
theorem observe_converges_after_login :
    ∃ (pass : Pass) (session : Session) (run : Replica.Run),
      builtin.observe (sampleContext (sampleCluster "corp-ca")) []
          ⟨.empty "openshift-kube-apiserver", []⟩ = .ok (pass, session) ∧
        session.rules.apply ⟨(sampleCluster "corp-ca").configMaps, fun _ _ => none⟩ = (.ok (), run) ∧
        builtin.observe (sampleContext (run.cluster (sampleCluster "corp-ca"))) pass.config
          ⟨session.rules, []⟩ = .ok (⟨pass.config, false, []⟩, ⟨session.rules, []⟩) := by
  have seen : ((builtin.observe (sampleContext (sampleCluster "corp-ca")) []
      (⟨.empty "openshift-kube-apiserver", []⟩ : Session)).toOption.map fun result =>
        (result.1.errors.isEmpty, result.2.rules.sources,
          (result.2.rules.apply
            ⟨(sampleCluster "corp-ca").configMaps, fun _ _ => none⟩).1.toOption)) =
      some (true, [(⟨"openshift-kube-apiserver", "auth-config"⟩, .empty),
        (⟨"openshift-kube-apiserver", "oidc-serving-ca-bundle"⟩,
          ⟨"openshift-config", "corp-ca"⟩)], some ()) := by
    decide +kernel
  obtain ⟨⟨pass, session⟩, completed, seen⟩ := Option.map_eq_some_iff.mp seen
  rw [toOption_eq_some] at completed
  simp only [Prod.mk.injEq, toOption_eq_some] at seen
  obtain ⟨noErrors, sources, answer⟩ := seen
  have held : ∀ file ∈ Settings.standard.files, ∀ source,
      session.rules.source? (Settings.standard.targetOf file) = some source →
        source.isEmpty = false →
          Replica.Held (sampleCluster "corp-ca").lookup source file.key := by
    intro file listed source inForce named
    rw [Replica.Rules.source?, sources] at inForce
    simp only [Settings.files, List.mem_cons, List.not_mem_nil, or_false] at listed
    rcases listed with rfl | rfl
    · obtain rfl : ⟨"openshift-config", "corp-ca"⟩ = source := Option.some.inj inForce
      exact ⟨_, rfl, fun _ => by decide⟩
    · obtain rfl : Location.empty = source := Option.some.inj inForce
      cases named
  obtain ⟨run, applied⟩ : ∃ run, session.rules.apply
      ⟨(sampleCluster "corp-ca").configMaps, fun _ _ => none⟩ = (.ok (), run) :=
    ⟨_, Prod.ext answer rfl⟩
  have again := observe_converges Tree.sorted_nil ((Tree.naNFree_iff_node _).mpr
    (Node.naNFree_tree (by simp))) (.of_namespaces (by decide) (by decide) (by decide))
    (fun empty => absurd empty (by decide)) completed (by simpa using noErrors) held
    (by intro sent r status refused; cases refused) applied []
  exact ⟨pass, session, run, completed, applied, again⟩

/-- A cluster with a config map without a name where the structured configuration is generated. -/
def namelessCluster : Snapshot :=
  (sampleCluster "").addConfigMap
    { ConfigMap.blank with
      metadata := .located "openshift-config-managed" ""
      data := some [("auth-config.json", "{}")] }

def namelessSettings : Settings := { Settings.standard with authConfigSource := "" }

def namelessContext (cluster : Snapshot) : Context :=
  ⟨cluster.lookup, .fixed ⟨[namelessSettings.externalOidcGate, namelessSettings.structuredAuthGate],
    []⟩, namelessSettings⟩

/-- A structured configuration whose source has no name is announced as removed by the first pass and
again once the rules were applied, although no replica was ever there. -/
theorem nameless_source_announced_again :
    Separate namelessSettings namelessCluster ∧
    ∃ (pass again : Pass) (session session' : Session) (run : Replica.Run),
      builtin.observe (namelessContext namelessCluster) []
        ⟨.empty namelessSettings.targetNamespace, []⟩ = .ok (pass, session) ∧
      pass.errors = [] ∧
      (∀ rule ∈ session.rules.sources, rule.2.isEmpty = true) ∧
      session.rules.apply ⟨namelessCluster.configMaps, fun _ _ => none⟩ = (.ok (), run) ∧
      builtin.observe (namelessContext (run.cluster namelessCluster)) pass.config
        ⟨session.rules, []⟩ = .ok (again, session') ∧
      session'.events = [⟨ExternalOidc.name, ExternalOidc.structuredRemovedMessage⟩] := by
  have seen : ((builtin.observe (namelessContext namelessCluster) []
      (⟨.empty namelessSettings.targetNamespace, []⟩ : Session)).toOption.bind fun first =>
        let applied := first.2.rules.apply ⟨namelessCluster.configMaps, fun _ _ => none⟩
        (builtin.observe (namelessContext (applied.2.cluster namelessCluster)) first.1.config
          (⟨first.2.rules, []⟩ : Session)).toOption.map fun second =>
            (first.1.errors.isEmpty, first.2.rules.sources.all (·.2.isEmpty),
              applied.1.toOption, second.2.events)) =
      some (true, true, some (),
        [⟨ExternalOidc.name, ExternalOidc.structuredRemovedMessage⟩]) := by
    decide +kernel
  obtain ⟨⟨pass, session⟩, first, seen⟩ := Option.bind_eq_some_iff.mp seen
  obtain ⟨⟨again, session'⟩, second, seen⟩ := Option.map_eq_some_iff.mp seen
  rw [toOption_eq_some] at first second
  simp only [Prod.mk.injEq, toOption_eq_some] at seen
  obtain ⟨clean, deletions, answer, events⟩ := seen
  refine ⟨.of_namespaces (by decide) (by decide) (by decide), pass, again, session, session', _,
    first, by simpa using clean, ?_, Prod.ext answer rfl, second, events⟩
  simpa using deletions

end Registry

end ObservedConfig
