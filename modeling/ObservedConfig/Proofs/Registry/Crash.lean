import ObservedConfig.Proofs.Observer.Login
import ObservedConfig.Proofs.Registry.Comparison

/-! Crashes. A pass ends in one exactly when users sign in at an external provider and the spec names
a provider with a list that is too long and partly invalid. Everything else that can be wrong with a
resource is reported as an error. -/
namespace ObservedConfig

open Authentication (Spec clash overfullProvider)

/-- Users sign in, and a provider of the resource is overfull. -/
def ExternalOidc.Clashes (ctx : Context) : Prop :=
  ∃ gates auth, ExternalOidc.Login ctx gates auth ∧ ∃ p ∈ auth.spec.providers, p.Overfull

theorem ExternalOidc.intent_eq_crash_iff {ctx : Context} {cause : Crash} :
    intent ctx = .error (.crash cause) ↔ cause = clash ∧ Clashes ctx := by
  simp only [intent_eq_crash, Spec.validate_eq_error, Clashes]
  constructor
  · rintro ⟨gates, auth, login, same, overfull⟩
    exact ⟨same, gates, auth, login, overfull⟩
  · rintro ⟨same, gates, auth, login, overfull⟩
    exact ⟨gates, auth, login, same, overfull⟩

namespace Registry

theorem observe_eq_crash {σ : Type} [Replica.Syncer σ] {ctx : Context} {existing : Tree}
    {session : Session σ} {cause : Crash} :
    builtin.observe ctx existing session = .error cause ↔
      ExternalOidc.intent ctx = .error (.crash cause) := by
  constructor
  · intro crashed
    by_cases crashes : ∃ other, ExternalOidc.intent ctx = .error (.crash other)
    · obtain ⟨other, crashes⟩ := crashes
      rw [observe_of_crash crashes] at crashed
      cases crashed
      exact crashes
    · obtain ⟨oidc, middle, first⟩ := exists_carried ExternalOidc.name existing session
        fun other => (not_congr ExternalOidc.decide_eq_crash).mpr (not_exists.mp crashes other)
      obtain ⟨role, last, second⟩ := exists_carried RoleBinding.name existing middle
        (RoleBinding.decide_ne_crash ctx existing)
      rw [observe_builtin.mpr ⟨oidc, middle, role, first, second, rfl⟩] at crashed
      cases crashed
  · intro crashes
    exact observe_of_crash crashes existing session

/-- Validation of a spec, a run of the observer of external providers and a pass of both observers
crash for overfull providers and for nothing else. -/
theorem crash_iff_overfull {σ : Type} [Replica.Syncer σ] (spec : Spec) (ctx : Context)
    (existing : Tree) (session : Session σ) (cause : Crash) :
    (spec.validate = .error cause ↔ cause = clash ∧ ∃ p ∈ spec.providers, p.Overfull) ∧
      (ExternalOidc.observer.observe ctx existing session = .error cause ↔
        cause = clash ∧ ExternalOidc.Clashes ctx) ∧
      (builtin.observe ctx existing session = .error cause ↔
        cause = clash ∧ ExternalOidc.Clashes ctx) := by
  refine ⟨Spec.validate_eq_error, ?_, ?_⟩
  · rw [← ExternalOidc.intent_eq_crash_iff, ← @ExternalOidc.decide_eq_crash ctx existing cause]
    exact deciding_observe_eq_crash
  · rw [← ExternalOidc.intent_eq_crash_iff]
    exact observe_eq_crash

/-- Where users sign in at an overfull provider, neither the validation of the spec nor a run of the
observer comes to an end. -/
theorem overfull_login_crashes :
    (⟨.oidc, [overfullProvider]⟩ : Spec).validate = .error clash ∧
    ExternalOidc.observer.observe (ExternalOidc.soleContext ⟨.oidc, [overfullProvider]⟩) []
      (⟨.empty "openshift-kube-apiserver", []⟩ : Session) = .error clash := by
  have overfull : ∃ p ∈ [overfullProvider], p.Overfull :=
    ⟨_, List.mem_cons_self, Authentication.overfull_overfullProvider⟩
  exact ⟨Spec.validate_eq_error.mpr ⟨rfl, overfull⟩,
    (ExternalOidc.login_soleContext rfl).observe_of_overfull overfull _ _⟩

end Registry

end ObservedConfig
