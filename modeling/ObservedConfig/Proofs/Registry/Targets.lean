import ObservedConfig.Proofs.Observer.Mode
import ObservedConfig.Proofs.Registry.Pass
import ObservedConfig.Proofs.Replica.Rules

/-! Two replicas, two requests. Where users sign in at a provider the certificate bundle is asked for
first and the structured configuration second. Nothing in the settings keeps their targets apart, and
where both have one target the second request takes the place of the first. -/
namespace ObservedConfig

namespace Replica

variable {rules rules' : Rules}

/-- The last of two requests for one target counts. -/
theorem source?_of_issue_pair {first second : Plan}
    (issued : Decision.issueAll [first, second] rules = (.ok (), rules')) :
    (∀ source, second.request = some source → rules'.source? second.target = some source) ∧
      ∀ source, first.request = some source → (rules'.source? first.target = some source ↔
        first.target ≠ second.target ∨ second.request = none ∨ second.request = some source) := by
  obtain ⟨middle, issuedFirst, issuedRest⟩ := issueAll_cons issued
  obtain ⟨last, issuedSecond, done⟩ := issueAll_cons issuedRest
  obtain rfl : last = rules' := by simpa [Decision.issueAll] using done
  have secondHeld := inForce_of_issue issuedSecond
  refine ⟨fun source request => (secondHeld source request).2, fun source request => ?_⟩
  constructor
  · intro held
    by_cases same : first.target = second.target
    · cases asked : second.request with
      | none => exact .inr (.inl rfl)
      | some other =>
        have replaced := (secondHeld other asked).2
        rw [← same, held] at replaced
        exact .inr (.inr replaced.symm)
    · exact .inl same
  · have firstHeld := inForce_of_issue issuedFirst
    rintro (apart | silent | agreed)
    · exact (firstHeld.of_issue apart issuedSecond source request).2
    · rcases issue_cases issuedSecond with ⟨-, rfl⟩ | ⟨other, asked, -⟩
      · exact (firstHeld source request).2
      · rw [silent] at asked
        cases asked
    · by_cases same : first.target = second.target
      · rw [same]
        exact (secondHeld source agreed).2
      · exact (firstHeld.of_issue same issuedSecond source request).2

end Replica

namespace ExternalOidc

variable {ctx : Context} {existing : Tree} {session session' : Session} {observation : Observation}

/-- A login is met in a mode that derives from its provider. -/
theorem exists_derive {m : Mode} {i : Intent} {auth : Authentication} (gated : Gated ctx)
    (found : ctx.lookup.authentication Authentication.resourceName = .ok (some auth))
    (kind : auth.spec.kind = .oidc) (met : mode ctx = .ok m) (intended : m.intent ctx = .ok i) :
    ∃ p client structured, m = .derive p client structured := by
  have whole : intent ctx = .ok i := by
    rw [intent_eq, met]
    exact intended
  cases m with
  | keep =>
    cases intended
    cases intends whole with
    | keep closed => exact absurd gated closed
  | reset =>
    obtain ⟨ca, file, -, -, rfl⟩ := resetIntent_eq_ok intended
    cases intends whole with
    | reset _ internal => exact absurd kind (internal auth found)
  | derive p client structured => exact ⟨p, client, structured, rfl⟩

/-- After a run without errors for a login the rules hold what the plan for the structured
configuration asks for. They hold what the plan for the certificate bundle asks for unless the
settings give both replicas one name and the other plan asks for something else. -/
theorem requests_in_force {auth : Authentication}
    (completed : observer.observe ctx existing session = .ok (observation, session'))
    (clean : observation.errors = []) (gated : Gated ctx)
    (found : ctx.lookup.authentication Authentication.resourceName = .ok (some auth))
    (kind : auth.spec.kind = .oidc) :
    ∃ p structured ca file, SignsIn ctx p structured ∧
      caPlan ctx p = .ok ca ∧ structuredPlan ctx structured = .ok file ∧
      (∀ source, file.request = some source →
        session'.rules.source? file.target = some source) ∧
      ∀ source, ca.request = some source →
        (session'.rules.source? ca.target = some source ↔
          ctx.settings.caBundle.configMap ≠ ctx.settings.authConfig.configMap ∨
            file.request = none ∨ file.request = some source) := by
  obtain ⟨d, rules, decided, -, issued, rfl⟩ :=
    (deciding_observe.mp completed).fragment (causing_decide ctx existing) clean
  obtain ⟨i, intended, settled⟩ := decide_eq_ok decided
  obtain ⟨m, met, ofMode⟩ := intent_eq_ok intended
  obtain ⟨p, client, structured, rfl⟩ := exists_derive gated found kind met ofMode
  simp only [Mode.intent, bind_eq_ok, pure_eq_ok] at ofMode
  obtain ⟨⟨ca, file⟩, both, rfl⟩ := ofMode
  obtain ⟨caPlanned, filePlanned⟩ := bothPlans_eq_ok.mp both
  rw [(settle_eq_ok settled).1] at issued
  obtain ⟨fileHeld, caHeld⟩ := Replica.source?_of_issue_pair issued
  have apart : ca.target ≠ file.target ↔
      ctx.settings.caBundle.configMap ≠ ctx.settings.authConfig.configMap := by
    simp [target_of_caPlan caPlanned, target_of_structuredPlan filePlanned, caTarget,
      structuredTarget]
  simp only [apart] at caHeld
  exact ⟨p, structured, ca, file, signsIn_of_mode met, caPlanned, filePlanned, fileHeld, caHeld⟩

open Registry (sampleCluster sampleContext)

/-- The stock settings ask for the copy of a certificate bundle and get the rule for it. -/
theorem requests_in_force_after_login :
    ∃ (observation : Observation) (session : Session),
      (observer : Observer).observe (sampleContext (sampleCluster "corp-ca")) []
        ⟨.empty "openshift-kube-apiserver", []⟩ = .ok (observation, session) ∧
      session.rules.source? (caTarget .standard) = some ⟨"openshift-config", "corp-ca"⟩ ∧
      session.rules.source? (structuredTarget .standard) = some .empty := by
  have clean : (((observer : Observer).observe (sampleContext (sampleCluster "corp-ca")) []
      ⟨.empty "openshift-kube-apiserver", []⟩).toOption.map fun result =>
        result.1.errors.isEmpty) = some true := by
    decide +kernel
  obtain ⟨⟨observation, session⟩, completed, clean⟩ := Option.map_eq_some_iff.mp clean
  rw [toOption_eq_some] at completed
  obtain ⟨p, structured, ca, file, signsIn, caPlanned, filePlanned, fileHeld, caHeld⟩ :=
    requests_in_force completed (by simpa using clean) ⟨⟨["ExternalOIDC"], []⟩, rfl, by decide⟩ rfl
      rfl
  obtain ⟨gates, auth, current, -, authentication, -, sole, present⟩ := signsIn
  cases current
  cases authentication
  cases sole
  cases present
  have caRequest : ca.request = some ⟨"openshift-config", "corp-ca"⟩ := by
    cases caPlanned
    rfl
  have fileRequest : file.request = some .empty := by
    cases filePlanned
    rfl
  rw [target_of_structuredPlan filePlanned] at fileHeld
  rw [target_of_caPlan caPlanned] at caHeld
  exact ⟨observation, session, completed, (caHeld _ caRequest).mpr (.inl (by decide)),
    fileHeld _ fileRequest⟩

def sharedSettings : Settings :=
  { Settings.standard with caBundle := .ofKey "auth-config" "ca-bundle.crt" }

/-- A login whose provider names a certificate bundle, under settings with one name for both
replicas. -/
def sharedContext : Context :=
  { sampleContext (sampleCluster "corp-ca") with settings := sharedSettings }

/-- Validation accepts one name for both replicas. Then a run without errors announces the copy of
the certificate bundle, and the rule that it leaves asks for a deletion. -/
theorem copy_announced_and_dropped :
    Settings.ofYaml ("caBundle:\n  configMap: auth-config\n  key: ca-bundle.crt\n" ++
      "  path: /etc/kubernetes/static-pod-resources/configmaps/auth-config/ca-bundle.crt\n") =
        .ok sharedSettings ∧
    ∃ (observation : Observation) (session : Session) (p : Authentication.Provider)
        (ca : Replica.Plan),
      (observer : Observer).observe sharedContext [] ⟨.empty sharedSettings.targetNamespace, []⟩ =
        .ok (observation, session) ∧
      observation.errors = [] ∧ SignsIn sharedContext p false ∧
      caPlan sharedContext p = .ok ca ∧ ca.outcome = .synced ∧
      ca.request = some ⟨"openshift-config", "corp-ca"⟩ ∧
      ⟨name, caSyncedMessage⟩ ∈ session.events ∧
      session.rules.source? ca.target = some .empty := by
  have read : (Settings.ofYaml
      ("caBundle:\n  configMap: auth-config\n  key: ca-bundle.crt\n" ++
        "  path: /etc/kubernetes/static-pod-resources/configmaps/auth-config/ca-bundle.crt\n")
      ).toOption = some sharedSettings := by
    decide +kernel
  have seen : (((observer : Observer).observe sharedContext []
      ⟨.empty sharedSettings.targetNamespace, []⟩).toOption.map fun result =>
        (result.1.errors.isEmpty, result.2.events,
          result.2.rules.source? (caTarget sharedSettings))) =
      some (true, [⟨name, caSyncedMessage⟩, ⟨name, changedMessage⟩], some .empty) := by
    decide +kernel
  obtain ⟨⟨observation, session⟩, completed, seen⟩ := Option.map_eq_some_iff.mp seen
  rw [toOption_eq_some] at read completed
  simp only [Prod.mk.injEq] at seen
  obtain ⟨clean, events, rule⟩ := seen
  have signsIn : SignsIn sharedContext _ false :=
    ⟨_, _, rfl, by decide, rfl, rfl, rfl, rfl⟩
  exact ⟨read, observation, session, _, _, completed, by simpa using clean, signsIn, rfl, rfl, rfl,
    by simp [events], rule⟩

end ExternalOidc

end ObservedConfig
