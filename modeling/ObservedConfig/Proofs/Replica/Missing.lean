import ObservedConfig.Proofs.Replica.Content
import ObservedConfig.Proofs.Replica.Requests

/-! Sources that have a name but do not exist. Where there is a replica already, a missing source is
an error and nothing is asked for. Where there is none, the source is not even looked up, and a copy
of it is asked for like any other. -/
namespace ObservedConfig.Replica

section Planning
variable {lookup : Lookup} {target source : Location} {key : Option String}

theorem planSync_of_error {e : ObserveError}
    (failed : needsSync lookup target source key = .error e) :
    planSync lookup target source key = .error e := by
  simp only [planSync, failed]
  rfl

theorem planSync_of_needed (needed : needsSync lookup target source key = .ok true)
    (named : source.isEmpty = false) :
    planSync lookup target source key = .ok ⟨target, some source, .synced⟩ := by
  simp only [planSync, needed, named]
  rfl

end Planning

/-- What comes of asking rules for a copy of a source at a target. -/
structure CopyAsked (rules : Rules) (target source : Location)
    (answer : Except ObserveError Outcome) (after : Rules) : Prop where
  /-- A target that cannot have a rule is rejected, and the rules stay as they are. -/
  rejected : ¬ Targetable rules.namespaceName target → (∃ e, answer = .error e) ∧ after = rules
  accepted : Targetable rules.namespaceName target → answer = .ok .synced
  /-- The copy is in force, and no other rule has changed. -/
  inForce : Targetable rules.namespaceName target → ∀ place,
    after.source? place = if place = target then some source else rules.source? place
  generation : Targetable rules.namespaceName target → after.generation =
    if rules.source? target = some source then rules.generation else rules.generation + 1

theorem copyAsked (rules : Rules) (target source : Location) :
    CopyAsked rules target source (carryOut (.ok ⟨target, some source, .synced⟩) rules).1
      (carryOut (.ok ⟨target, some source, .synced⟩) rules).2 := by
  have answered := requested rules target source
  simp only [carryOut, Plan.issue]
  generalize Syncer.request rules target source = outcome at answered
  cases answered with
  | rejected refused =>
    exact ⟨fun _ => ⟨⟨_, rfl⟩, rfl⟩, fun targetable => absurd targetable refused,
      fun targetable => absurd targetable refused, fun targetable => absurd targetable refused⟩
  | repeated targetable same =>
    refine ⟨fun refused => absurd targetable refused, fun _ => rfl, fun _ place => ?_, fun _ => ?_⟩
    · by_cases here : place = target
      · rw [if_pos here, here, ← same]
      · rw [if_neg here]
    · rw [if_pos same]
  | changed targetable differs =>
    refine ⟨fun refused => absurd targetable refused, fun _ => rfl, fun _ place => ?_, fun _ => ?_⟩
    · by_cases here : place = target
      · rw [if_pos here, here]
        exact Entries.find?_insert_same _ _ _
      · rw [if_neg here]
        exact Entries.find?_insert_other here _ _
    · rw [if_neg differs]

/-- Whether a missing source is noticed depends on the target. If a replica is there it is an error
and the rules are left alone. If none is, a copy is planned and asked for as if the source were
there. -/
theorem missing_source_met {lookup : Lookup} {source : Location} (named : source.isEmpty = false)
    (missing : lookup.configMap source = .ok none) (target : Location) (key : Option String)
    (rules : Rules) :
    (∀ existing, lookup.configMap target = .ok (some existing) →
      planSync lookup target source key = .error (.sourceNotFound source) ∧
        syncIfNeeded lookup rules target source key = (.error (.sourceNotFound source), rules)) ∧
    (lookup.configMap target = .ok none →
      planSync lookup target source key = .ok ⟨target, some source, .synced⟩ ∧
        CopyAsked rules target source (syncIfNeeded lookup rules target source key).1
          (syncIfNeeded lookup rules target source key).2) := by
  constructor
  · intro existing present
    have failed : planSync lookup target source key = .error (.sourceNotFound source) :=
      planSync_of_error (needsSync_of_missing present named missing)
    exact ⟨failed, by rw [syncIfNeeded, failed, carryOut]⟩
  · intro absent
    have copy : planSync lookup target source key = .ok ⟨target, some source, .synced⟩ :=
      planSync_of_needed (needsSync_of_absent absent) named
    refine ⟨copy, ?_⟩
    rw [syncIfNeeded, copy]
    exact copyAsked rules target source

def orphanCluster : Snapshot :=
  Snapshot.empty.addConfigMap (copied mountedBundle (bundle "ca-bundle.crt"))

/-- Both cases are met: with a replica in place and without one. -/
theorem missing_source_met_by_bundle :
    issuerBundle.isEmpty = false ∧
    orphanCluster.lookup.configMap issuerBundle = .ok none ∧
    (∃ replica, orphanCluster.lookup.configMap mountedBundle = .ok (some replica)) ∧
    syncIfNeeded orphanCluster.lookup (Rules.empty "openshift-kube-apiserver") mountedBundle
        issuerBundle (some "ca-bundle.crt") =
      (.error (.sourceNotFound issuerBundle), .empty "openshift-kube-apiserver") ∧
    (syncIfNeeded Snapshot.empty.lookup (Rules.empty "openshift-kube-apiserver") mountedBundle
        issuerBundle (some "ca-bundle.crt")).1 = .ok .synced := by
  have named : issuerBundle.isEmpty = false := by decide
  have missing : orphanCluster.lookup.configMap issuerBundle = .ok none := rfl
  have missing' : Snapshot.empty.lookup.configMap issuerBundle = .ok none := rfl
  have withReplica := (missing_source_met named missing mountedBundle (some "ca-bundle.crt")
    (.empty "openshift-kube-apiserver")).1
  have without := (missing_source_met named missing' mountedBundle (some "ca-bundle.crt")
    (.empty "openshift-kube-apiserver")).2
  exact ⟨named, missing, ⟨_, rfl⟩, (withReplica _ rfl).2, (without rfl).2.accepted (by decide)⟩

/-- Where there is no replica, a bundle that does not exist is announced as synced, and the rule for
copying it is in force. -/
theorem missing_source_announced :
    Snapshot.empty.lookup.configMap issuerBundle = .ok none ∧
    planSync Snapshot.empty.lookup mountedBundle issuerBundle (some "ca-bundle.crt") =
      .ok ⟨mountedBundle, some issuerBundle, .synced⟩ ∧
    syncIfNeeded Snapshot.empty.lookup (Rules.empty "openshift-kube-apiserver") mountedBundle
        issuerBundle (some "ca-bundle.crt") =
      (.ok .synced, ⟨"openshift-kube-apiserver", [(mountedBundle, issuerBundle)], 1⟩) :=
  ⟨rfl, rfl, rfl⟩

end ObservedConfig.Replica
