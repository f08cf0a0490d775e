import ObservedConfig.Proofs.Registry.Comparison
import ObservedConfig.Proofs.Slice.Vestiges

/-! Passes before and after pruning. Empty sequences and trees that an earlier configuration has left
behind read as absent, so a pass comes to the same as on the pruned configuration, unless one of
them has the wrong shape for an owned path and is reported, or is all that a reset takes for
something configured. -/
namespace ObservedConfig

section Observers
variable {existing : Tree}

open Registry (Matched)

/-- An intention is settled as on the pruned configuration, unless a vestige is at fault or a reset
goes by an empty sequence. -/
theorem ExternalOidc.settle_pruned (sorted : Tree.Sorted existing) (i : Intent)
    (filled : ∀ ca file, i = .reset ca file → ¬ existing.FoundEmpty owned) :
    (∃ fault, existing.VestigeAt owned fault ∧
        i.settle existing = .error (.errors [.ofTree fault])) ∨
      Matched existing (Tree.pruned existing) (i.settle existing)
        (i.settle (Tree.pruned existing)) := by
  cases i with
  | keep => exact .inr .keep
  | reset ca file =>
    rcases Tree.containsAnyList_pruned sorted owned with ⟨fault, failed, vestige⟩ | empty | same
    · left
      refine ⟨fault, vestige, ?_⟩
      simp only [Intent.settle, failed]
      rfl
    · exact absurd empty (filled ca file rfl)
    · exact .inr (.reset ca file same)
  | derive ca file candidate =>
    rcases Slice.diff_pruned sorted candidate owned with ⟨fault, failed, vestige⟩ | same
    · left
      refine ⟨fault, vestige, ?_⟩
      simp only [Intent.settle, failed]
      rfl
    · exact .inr (.derive ca file same)

theorem ExternalOidc.decide_pruned (sorted : Tree.Sorted existing) {ctx : Context}
    (filled : ∀ ca file, intent ctx = .ok (.reset ca file) → ¬ existing.FoundEmpty owned) :
    (∃ fault, existing.VestigeAt owned fault ∧
        decide ctx existing = .error (.errors [.ofTree fault])) ∨
      Matched existing (Tree.pruned existing) (decide ctx existing)
        (decide ctx (Tree.pruned existing)) := by
  rw [decide_eq, decide_eq]
  cases intended : intent ctx with
  | error => exact .inr (.same _)
  | ok i => exact settle_pruned sorted i fun ca file reset => filled ca file (reset ▸ intended)

theorem RoleBinding.decide_pruned (sorted : Tree.Sorted existing) (ctx : Context) :
    (∃ fault, existing.VestigeAt [disabledPlugins] fault ∧
        decide ctx existing = .error (.errors [.ofTree fault])) ∨
      decide ctx (Tree.pruned existing) = decide ctx existing := by
  cases found : ctx.lookup.authentication Authentication.resourceName with
  | error =>
    right
    simp only [decide, found]
    rfl
  | ok auth? =>
    rcases Tree.getList_pruned sorted disabledPlugins with ⟨fault, failed, vestigial⟩ | same
    · left
      refine ⟨fault, ⟨_, List.mem_singleton_self _, vestigial⟩, ?_⟩
      simp only [decide, found, failed]
      rfl
    · right
      cases read : existing.getList disabledPlugins with
      | error fault =>
        simp only [decide, found, same, read]
        rfl
      | ok current? =>
        have entries : (Slice.present current?).getD [] = current?.getD [] := by
          cases current? with
          | none => rfl
          | some values => cases values <;> rfl
        have readPruned : Tree.getList (Tree.pruned existing) disabledPlugins =
            .ok (Slice.present current?) := by
          rw [same, read]
          rfl
        rw [decide_eq_ok.mpr ⟨auth?, current?, found, read, rfl⟩,
          decide_eq_ok.mpr ⟨auth?, _, found, readPruned, rfl⟩, entries]

end Observers

namespace Registry

variable {σ : Type} [Replica.Syncer σ]

/-- Two passes agree on what the observers come to, some of them left out. -/
structure AgreeBut (astray : Observer σ → Prop) (pass pass' : Pass) (last last' : Session σ) :
    Prop where
  errors : ∀ o ∈ builtin.observers, ¬ astray o →
    pass'.errors.filter (·.1 = o.name) = pass.errors.filter (·.1 = o.name)
  events : ∀ o ∈ builtin.observers, ¬ astray o →
    last'.events.filter (·.reason = o.name) = last.events.filter (·.reason = o.name)
  /-- Only one observer asks for replicas. -/
  rules : ¬ astray ExternalOidc.observer → last'.rules = last.rules
  config : ∀ q, (∀ o ∈ builtin.observers, astray o → ∀ p ∈ o.owned, ¬ Path.Comparable p q) →
    pass'.config.get? q = pass.config.get? q
  whole : (∀ o ∈ builtin.observers, ¬ astray o) → pass' = pass ∧ last' = last

theorem forall_builtin {motive : Observer σ → Prop} :
    (∀ o ∈ builtin.observers, motive o) ↔
      motive ExternalOidc.observer ∧ motive RoleBinding.observer := by
  simp [builtin]

section Passes
variable {ctx ctx' : Context} {existing existing' : Tree}
  {session middle last session' middle' last' : Session σ} {oidc role oidc' role' : Observation}
  {pass pass' : Pass}

theorem names_differ : ExternalOidc.name ≠ RoleBinding.name := by decide

theorem Passed.errors_of_oidc
    (passed : Passed ctx existing session oidc middle role last pass) :
    pass.errors.filter (·.1 = ExternalOidc.name) =
      oidc.errors.map fun e => (ExternalOidc.name, e) := by
  rw [passed.errors, tagged, List.filter_append, List.filter_eq_self.mpr (by simp),
    List.filter_eq_nil_iff.mpr (by simp [names_differ.symm]), List.append_nil]

theorem Passed.errors_of_role
    (passed : Passed ctx existing session oidc middle role last pass) :
    pass.errors.filter (·.1 = RoleBinding.name) =
      role.errors.map fun e => (RoleBinding.name, e) := by
  rw [passed.errors, tagged, List.filter_append, List.filter_eq_nil_iff.mpr (by simp [names_differ]),
    List.filter_eq_self.mpr (by simp), List.nil_append]

omit [Replica.Syncer σ] in
/-- Events in the name of one observer do not count for another. -/
theorem filter_recorded {log log' new : EventLog} {name other : String} (different : other ≠ name)
    (recorded : log' = log ++ new ∧ ∀ event ∈ new, event.reason = other) :
    log'.filter (·.reason = name) = log.filter (·.reason = name) := by
  obtain ⟨rfl, reasons⟩ := recorded
  have none : new.filter (·.reason = name) = [] :=
    List.filter_eq_nil_iff.mpr fun event member => by simp [reasons event member, different]
  rw [List.filter_append, none, List.append_nil]

theorem Passed.events_of_oidc
    (passed : Passed ctx existing session oidc middle role last pass) :
    last.events.filter (·.reason = ExternalOidc.name) =
      middle.events.filter (·.reason = ExternalOidc.name) := by
  obtain ⟨new, recorded⟩ := passed.roleCarried.recorded
  exact filter_recorded names_differ.symm recorded

theorem Passed.events_of_role
    (passed : Passed ctx existing session oidc middle role last pass) :
    middle.events.filter (·.reason = RoleBinding.name) =
      session.events.filter (·.reason = RoleBinding.name) := by
  obtain ⟨new, recorded⟩ := passed.oidcCarried.recorded
  exact filter_recorded names_differ recorded

variable (first : Passed ctx existing session oidc middle role last pass)
  (second : Passed ctx' existing' session' oidc' middle' role' last' pass')

include first second

/-- Where both observers come to the same on configurations with the same content, two passes that
start from the same state are the same. -/
theorem Passed.eq_of_corresponds (start : session' = session)
    (committed : ∀ q, existing'.content? q = existing.content? q)
    (pruned : Tree.pruned existing' = Tree.pruned existing)
    (oidcSame : Corresponds existing existing' session middle session' middle' oidc oidc')
    (roleSame : Corresponds existing existing' middle last middle' last' role role') :
    pass' = pass ∧ last' = last := by
  subst start
  obtain ⟨errors, rules, new, events, events'⟩ := first.effects_congr second oidcSame roleSame
  have config : pass'.config = pass.config := by
    apply Tree.eq_of_content second.merges.sorted first.merges.sorted second.merges.pruned
      first.merges.pruned
    intro q
    exact first.content?_congr second (fun p _ _ => oidcSame.content? (committed p))
      (fun p _ _ => roleSame.content? (committed p)) (committed q)
  have changed : pass'.changed = pass.changed := by
    rw [first.changed, second.changed, config, pruned]
  constructor
  · calc pass' = ⟨pass'.config, pass'.changed, pass'.errors⟩ := rfl
      _ = pass := by rw [config, changed, errors]
  · calc last' = ⟨last'.rules, last'.events⟩ := rfl
      _ = last := by rw [rules rfl, events', ← events]

/-- Two passes that start from the same state with the same content and the same pruned tree agree
but for observers that do not come to the same. -/
theorem Passed.agreeBut {astray : Observer σ → Prop} (start : session' = session)
    (committed : ∀ q, existing'.content? q = existing.content? q)
    (pruned : Tree.pruned existing' = Tree.pruned existing)
    (oidcSame : ¬ astray ExternalOidc.observer →
      Corresponds existing existing' session middle session' middle' oidc oidc')
    (roleSame : ¬ astray RoleBinding.observer →
      Corresponds existing existing' middle last middle' last' role role') :
    AgreeBut astray pass pass' last last' := by
  subst start
  have config : ∀ q, (∀ o ∈ builtin.observers, astray o → ∀ p ∈ o.owned, ¬ Path.Comparable p q) →
      ∀ rest, pass'.config.content? (q ++ rest) = pass.config.content? (q ++ rest) := by
    intro q apart rest
    -- Content of an observer that may differ would have to come from near the path.
    have near : ∀ o ∈ builtin.observers, ∀ p, Path.Covered o.owned p →
        Path.Comparable p (q ++ rest) → ¬ astray o := by
      rintro o member p ⟨owner, owned, -, below⟩ comparable strayed
      exact apart o member strayed owner owned (comparable.symm.of_prefix below).of_append
    apply first.content?_congr second _ _ (committed _)
    · intro p covered comparable
      exact (oidcSame (near _ List.mem_cons_self p covered comparable)).content? (committed p)
    · intro p covered comparable
      exact (roleSame (near _ (List.mem_cons_of_mem _ List.mem_cons_self) p covered
        comparable)).content? (committed p)
  refine ⟨?_, ?_, ?_, ?_, ?_⟩
  · refine forall_builtin.mpr ⟨fun steady => ?_, fun steady => ?_⟩
    · exact second.errors_of_oidc.trans
        ((congrArg _ (oidcSame steady).errors).trans first.errors_of_oidc.symm)
    · exact second.errors_of_role.trans
        ((congrArg _ (roleSame steady).errors).trans first.errors_of_role.symm)
  · refine forall_builtin.mpr ⟨fun steady => ?_, fun steady => ?_⟩
    · obtain ⟨new, events, events'⟩ := (oidcSame steady).recorded
      have same : middle'.events = middle.events := events'.trans events.symm
      exact second.events_of_oidc.trans (same ▸ first.events_of_oidc.symm)
    · obtain ⟨new, events, events'⟩ := (roleSame steady).recorded
      have before := second.events_of_role.trans first.events_of_role.symm
      rw [events, events', List.filter_append, List.filter_append]
      exact congrArg (· ++ _) before
  · intro steady
    rw [RoleBinding.rules_of_carried first.roleCarried,
      RoleBinding.rules_of_carried second.roleCarried, (oidcSame steady).rules rfl]
  · intro q apart
    exact Tree.get?_congr second.merges.sorted second.merges.pruned first.merges.sorted
      first.merges.pruned (config q apart)
  · intro steady
    exact first.eq_of_corresponds second rfl committed pruned
      (oidcSame (steady _ List.mem_cons_self))
      (roleSame (steady _ (List.mem_cons_of_mem _ List.mem_cons_self)))

omit second in
theorem Passed.reports_of_oidc {fault : Tree.Fault}
    (failed : ExternalOidc.decide ctx existing = .error (.errors [.ofTree fault])) :
    (ExternalOidc.name, ObserveError.ofTree fault) ∈ pass.errors := by
  have carried := first.oidcCarried
  rw [failed] at carried
  cases carried
  simp [first.errors, tagged]

omit second in
theorem Passed.reports_of_role {fault : Tree.Fault}
    (failed : RoleBinding.decide ctx existing = .error (.errors [.ofTree fault])) :
    (RoleBinding.name, ObserveError.ofTree fault) ∈ pass.errors := by
  have carried := first.roleCarried
  rw [failed] at carried
  cases carried
  simp [first.errors, tagged]

end Passes

/-- Vestiges show in what an observer comes to: it reports one at an owned path or on the way to it,
or it resets arguments because of an empty sequence, which it takes for a configured one. -/
def Perturbed (ctx : Context) (existing : Tree) (pass : Pass) (o : Observer σ) : Prop :=
  (∃ fault, existing.VestigeAt o.owned fault ∧
    (o.name, ObserveError.ofTree fault) ∈ pass.errors) ∨
  (o.name = ExternalOidc.name ∧ (∃ ca file, ExternalOidc.intent ctx = .ok (.reset ca file)) ∧
    existing.FoundEmpty o.owned)

/-- A pass and the pass on the pruned configuration that starts from the same state crash alike, or
they agree but for observers that vestiges show in. -/
theorem observe_pruned {existing : Tree} (sorted : Tree.Sorted existing) (ctx : Context)
    (session : Session σ) :
    (∃ cause, builtin.observe ctx existing session = .error cause ∧
      builtin.observe ctx (Tree.pruned existing) session = .error cause) ∨
    ∃ (pass pass' : Pass) (last last' : Session σ),
      builtin.observe ctx existing session = .ok (pass, last) ∧
      builtin.observe ctx (Tree.pruned existing) session = .ok (pass', last') ∧
      AgreeBut (Perturbed ctx existing pass) pass pass' last last' := by
  rcases exists_passed_pair sorted (Tree.sorted_pruned sorted) rfl session session with
    crashes | ⟨pass, last, oidc, middle, role, pass', last', oidc', middle', role', completed, first,
      completed', second⟩
  · exact .inl crashes
  right
  refine ⟨pass, pass', last, last', completed, completed', ?_⟩
  apply first.agreeBut second rfl (Tree.content?_pruned sorted)
    (Tree.pruned_eq_self (Tree.pruned_pruned existing))
  · intro steady
    have filled : ∀ ca file, ExternalOidc.intent ctx = .ok (.reset ca file) →
        ¬ existing.FoundEmpty ExternalOidc.owned := fun ca file reset empty =>
      steady (.inr ⟨rfl, ⟨ca, file, reset⟩, empty⟩)
    rcases ExternalOidc.decide_pruned sorted filled with ⟨fault, vestige, failed⟩ | matched
    · exact absurd (.inl ⟨fault, vestige, first.reports_of_oidc failed⟩) steady
    · exact first.oidcCorresponds second rfl matched
  · intro steady
    rcases RoleBinding.decide_pruned sorted ctx with ⟨fault, vestige, failed⟩ | same
    · exact absurd (.inl ⟨fault, vestige, first.reports_of_role failed⟩) steady
    · exact first.roleCorresponds second same

def leftovers : Tree := [
  (argumentsKey, .tree [("disable-admission-plugins", .list []), ("oidc-issuer-url", .list [])]),
  ("void", .tree [])]

/-- A login is taken over as on an empty configuration. -/
theorem observe_pruned_of_login :
    ∃ (pass : Pass) (session : Session),
      builtin.observe (sampleContext (sampleCluster "corp-ca")) leftovers
        ⟨.empty "openshift-kube-apiserver", []⟩ = .ok (pass, session) ∧
      builtin.observe (sampleContext (sampleCluster "corp-ca")) []
        ⟨.empty "openshift-kube-apiserver", []⟩ = .ok (pass, session) ∧
      pass.errors = [] := by
  have clean : ((builtin.observe (sampleContext (sampleCluster "corp-ca")) leftovers
      (⟨.empty "openshift-kube-apiserver", []⟩ : Session)).toOption.map fun result =>
        result.1.errors.isEmpty) = some true := by
    decide +kernel
  obtain ⟨⟨pass, session⟩, completed, clean⟩ := Option.map_eq_some_iff.mp clean
  rw [toOption_eq_some] at completed
  have noErrors : pass.errors = [] := by simpa using clean
  rcases @observe_pruned _ _ leftovers (by decide) (sampleContext (sampleCluster "corp-ca"))
      (⟨.empty "openshift-kube-apiserver", []⟩ : Session) with
    ⟨cause, crashed, -⟩ | ⟨first, pass', last, last', observed, observed', agree⟩
  · cases completed.symm.trans crashed
  · cases completed.symm.trans observed
    have steady : ∀ o ∈ builtin.observers,
        ¬ Perturbed (sampleContext (sampleCluster "corp-ca")) leftovers pass o := by
      rintro o - (⟨fault, -, reported⟩ | ⟨-, ⟨ca, file, reset⟩, -⟩)
      · simp [noErrors] at reported
      · cases ExternalOidc.intends reset with
        | reset _ internal => exact internal _ rfl rfl
    obtain ⟨rfl, rfl⟩ := agree.whole steady
    exact ⟨_, _, completed, observed', noErrors⟩

/-- An empty sequence in the place of all arguments is reported, and one in the place of an issuer
is announced as removed. Neither happens on the pruned configuration. -/
theorem vestiges_perturb_passes :
    (∃ (pass pass' : Pass) (last last' : Session),
      builtin.observe ⟨Snapshot.empty.lookup, .ofLatest none, .standard⟩
        [(argumentsKey, .list [])] ⟨.empty "openshift-kube-apiserver", []⟩ = .ok (pass, last) ∧
      builtin.observe ⟨Snapshot.empty.lookup, .ofLatest none, .standard⟩
        (Tree.pruned [(argumentsKey, .list [])]) ⟨.empty "openshift-kube-apiserver", []⟩ =
          .ok (pass', last') ∧
      pass.errors =
        [(RoleBinding.name, .pathTypeMismatch "apiServerArguments" "map")] ∧
      pass'.errors = []) ∧
    ∃ (pass pass' : Pass) (last last' : Session),
      builtin.observe ⟨Snapshot.empty.lookup, .fixed ⟨["ExternalOIDC"], []⟩, .standard⟩
        [(argumentsKey, .tree [("oidc-issuer-url", .list [])])]
        ⟨.empty "openshift-kube-apiserver", []⟩ = .ok (pass, last) ∧
      builtin.observe ⟨Snapshot.empty.lookup, .fixed ⟨["ExternalOIDC"], []⟩, .standard⟩
        (Tree.pruned [(argumentsKey, .tree [("oidc-issuer-url", .list [])])])
        ⟨.empty "openshift-kube-apiserver", []⟩ = .ok (pass', last') ∧
      last.events = [⟨ExternalOidc.name, ExternalOidc.removedMessage⟩] ∧ last'.events = [] := by
  refine ⟨⟨_, _, _, _, rfl, rfl, rfl, rfl⟩, _, _, _, _, rfl, rfl, ?_, ?_⟩
  · rfl
  · rfl

end Registry

end ObservedConfig
