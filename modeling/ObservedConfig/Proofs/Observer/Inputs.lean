import ObservedConfig.Proofs.Observer.Mode

/-! What the observer of external providers asks a cluster. Which config maps it asks for depends on
the authentication resource, on the gates and on earlier answers, but all of them are replicas or
sources that the settings and the resource name. -/
namespace ObservedConfig.ExternalOidc

open Authentication (Provider)

/-- Two clusters give the same answers, failures included, for the authentication resource, for both
replicas and for their sources. -/
structure SameAnswers (s : Settings) (lookup lookup' : Lookup) : Prop where
  authentication : lookup'.authentication Authentication.resourceName =
    lookup.authentication Authentication.resourceName
  caTarget : lookup'.configMap (caTarget s) = lookup.configMap (caTarget s)
  structuredTarget : lookup'.configMap (structuredTarget s) = lookup.configMap (structuredTarget s)
  structuredSource : lookup'.configMap (structuredSource s) = lookup.configMap (structuredSource s)
  certificates : ∀ auth, lookup.authentication Authentication.resourceName = .ok (some auth) →
    ∀ p ∈ auth.spec.providers,
      lookup'.configMap ⟨s.configNamespace, p.issuer.certificateAuthority⟩ =
        lookup.configMap ⟨s.configNamespace, p.issuer.certificateAuthority⟩

variable {lookup lookup' : Lookup} {gates : GateAccess} {s : Settings}

theorem SameAnswers.caPlan (same : SameAnswers s lookup lookup') {p : Provider}
    (certificate : lookup'.configMap ⟨s.configNamespace, p.issuer.certificateAuthority⟩ =
      lookup.configMap ⟨s.configNamespace, p.issuer.certificateAuthority⟩) :
    caPlan ⟨lookup', gates, s⟩ p = caPlan ⟨lookup, gates, s⟩ p := by
  unfold ExternalOidc.caPlan caSource
  by_cases unnamed : p.issuer.certificateAuthority.isEmpty
  · simpa [unnamed, Location.empty, Location.isEmpty] using
      Replica.planRemoval_congr same.caTarget
  · simpa [unnamed, Location.isEmpty] using Replica.planSync_congr same.caTarget certificate

theorem SameAnswers.structuredPlan (same : SameAnswers s lookup lookup') (structured : Bool) :
    structuredPlan ⟨lookup', gates, s⟩ structured = structuredPlan ⟨lookup, gates, s⟩ structured := by
  cases structured with
  | true => exact Replica.planSync_congr same.structuredTarget same.structuredSource
  | false => exact Replica.planRemoval_congr same.structuredTarget

/-- What is intended depends on these answers alone. -/
theorem SameAnswers.intent (same : SameAnswers s lookup lookup') :
    intent ⟨lookup', gates, s⟩ = intent ⟨lookup, gates, s⟩ := by
  have modes : mode ⟨lookup', gates, s⟩ = mode ⟨lookup, gates, s⟩ :=
    mode_congr same.authentication (by rw [same.structuredSource])
  rw [intent_eq, intent_eq, modes]
  cases met : mode ⟨lookup, gates, s⟩ with
  | error => rfl
  | ok m =>
    show m.intent ⟨lookup', gates, s⟩ = m.intent ⟨lookup, gates, s⟩
    cases m with
    | keep => rfl
    | reset =>
      simp only [Mode.intent, resetIntent, Replica.planRemoval_congr same.caTarget,
        Replica.planRemoval_congr same.structuredTarget]
    | derive p client structured =>
      obtain ⟨_, auth, -, -, found, -, sole, -⟩ := signsIn_of_mode met
      have certificate := same.certificates auth found p (by simp [sole])
      simp only [Mode.intent, same.caPlan certificate, same.structuredPlan]

end ObservedConfig.ExternalOidc
