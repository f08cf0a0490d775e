import ObservedConfig.Proofs.Authentication.Validation
import ObservedConfig.Proofs.Observer.ExternalOidc

/-! Logins at an external provider. The observer of external providers derives arguments only where
the gates let it act and the authentication resource asks for such a login. There it decides on the
spec of the resource, and nothing but the validation of that spec can crash it. -/
namespace ObservedConfig

/-- The failure is one that is reported. -/
def Failure.Reported (failure : Failure) : Prop := ∀ cause, failure ≠ .crash cause

theorem reported_errors (causes : List ObserveError) : (Failure.errors causes).Reported := by
  intro cause
  simp

/-- A first step that reports what goes wrong leaves crashes to the second. -/
theorem failing_bind_eq_crash {α β : Type} {result : Except ObserveError α}
    {next : α → Except Failure β} {cause : Crash} :
    (failing result >>= next) = .error (.crash cause) ↔
      ∃ a, result = .ok a ∧ next a = .error (.crash cause) := by
  cases result <;> simp [failing, bind, Except.bind]

namespace ExternalOidc

open Authentication (Provider Client Spec)

theorem checkSpec_eq_ok {spec : Spec} : checkSpec spec = .ok () ↔ spec.validate = .ok [] := by
  unfold checkSpec
  split <;> simp_all

theorem checkProvider_of_faults {s : Settings} {p : Provider} {structured : Bool} {client : Client}
    (selected : p.clientFor s.componentName s.targetNamespace = some client)
    (wrong : fieldErrors p client structured ≠ []) :
    checkProvider s p structured = .error (.errors (fieldErrors p client structured)) := by
  unfold checkProvider
  rw [selected]
  dsimp only
  split
  next clean => exact absurd clean wrong
  next => rfl

def IsFor (s : Settings) (client : Client) : Prop :=
  client.componentName = s.componentName ∧ client.componentNamespace = s.targetNamespace

def Selects (s : Settings) (p : Provider) (client : Client) : Prop :=
  IsFor s client ∧ ∃ before after, p.clients = before ++ client :: after ∧
    ∀ other ∈ before, ¬ IsFor s other

theorem clientFor_eq_some {s : Settings} {p : Provider} {client : Client} :
    p.clientFor s.componentName s.targetNamespace = some client ↔ Selects s p client := by
  simp only [Provider.clientFor, List.find?_eq_some_iff_append, Selects, IsFor, Bool.and_eq_true,
    beq_iff_eq, Bool.not_eq_true', ← Bool.not_eq_true, exists_and_right]

theorem clientFor_eq_none {s : Settings} {p : Provider} :
    p.clientFor s.componentName s.targetNamespace = none ↔
      ∀ client ∈ p.clients, ¬ IsFor s client := by
  simp [Provider.clientFor, IsFor]

/-- A structured configuration takes the place of the arguments: its gate is open, and it has been
generated. -/
def Structured (ctx : Context) (gates : FeatureGates) : Prop :=
  gates.isEnabled ctx.settings.structuredAuthGate = true ∧
    ∃ source, ctx.lookup.configMap (structuredSource ctx.settings) = .ok (some source)

variable {ctx : Context} {gates : FeatureGates} {auth : Authentication} {existing : Tree}
  {cause : Crash}

theorem isStructured_eq_ok {structured : Bool} (found : isStructured ctx gates = .ok structured) :
    structured = true ↔ Structured ctx gates := by
  unfold isStructured at found
  unfold Structured
  split at found
  next enabled =>
    cases source? : ctx.lookup.configMap (structuredSource ctx.settings) with
    | error => simp [source?, failing, Except.map] at found
    | ok source =>
      obtain rfl : source.isSome = structured := by
        simpa [source?, failing, Except.map] using found
      simp [enabled, Option.isSome_iff_exists]
  next disabled =>
    cases found
    simp [disabled]

/-- The gates let the observer act, and users sign in at an external provider. -/
structure Login (ctx : Context) (gates : FeatureGates) (auth : Authentication) : Prop where
  current : ctx.gates.gates? = .ok (some gates)
  enabled : gates.isEnabled ctx.settings.externalOidcGate = true
  found : ctx.lookup.authentication Authentication.resourceName = .ok (some auth)
  kind : auth.spec.kind = .oidc

/-- The stock settings on a cluster that holds the authentication resource and nothing else, with the
gate of external providers open. -/
def soleContext (spec : Spec) : Context where
  lookup := (Snapshot.empty.addAuthentication
    ⟨.located "" Authentication.resourceName, spec⟩).lookup
  gates := .fixed ⟨["ExternalOIDC"], []⟩
  settings := .standard

theorem login_soleContext {spec : Spec} (kind : spec.kind = .oidc) :
    Login (soleContext spec) ⟨["ExternalOIDC"], []⟩
      ⟨.located "" Authentication.resourceName, spec⟩ where
  current := rfl
  enabled := by simp [FeatureGates.isEnabled, soleContext, Settings.standard]
  found := rfl
  kind := kind

theorem Login.decide_eq (login : Login ctx gates auth) (existing : Tree) :
    decide ctx existing = deriveDecision ctx gates auth.spec existing := by
  simp only [decide, login.current, login.found, failing, mapError_ok, bind, Except.bind,
    login.enabled, Bool.not_true, Bool.false_eq_true, if_false, login.kind]

theorem Login.intent_eq (login : Login ctx gates auth) :
    intent ctx = deriveIntent ctx gates auth.spec := by
  simp only [intent, login.current, login.found, failing, mapError_ok, bind, Except.bind,
    login.enabled, Bool.not_true, Bool.false_eq_true, if_false, login.kind]

theorem resetIntent_ne_crash (ctx : Context) (cause : Crash) :
    resetIntent ctx ≠ .error (.crash cause) := by
  simp [resetIntent, failing_bind_eq_crash, pure, Except.pure]

theorem deriveIntent_eq_crash {spec : Spec} :
    deriveIntent ctx gates spec = .error (.crash cause) ↔ spec.validate = .error cause := by
  have check : checkSpec spec = .error (.crash cause) ↔ spec.validate = .error cause := by
    unfold checkSpec
    split <;> simp_all
  rw [← check]
  cases checked : checkSpec spec with
  | ok =>
    have later : Fails Failure.Reported (deriveIntent ctx gates spec) :=
      fails_deriveIntent (by simpa only [checked] using fails_ok _) fun _ _ => reported_errors _
    simp only [reduceCtorEq, iff_false]
    exact fun crashed => later _ crashed cause rfl
  | error failure => simp [deriveIntent, checked, bind, Except.bind]

/-- Only a login whose spec cannot be validated crashes the observer. -/
theorem intent_eq_crash : intent ctx = .error (.crash cause) ↔
    ∃ gates auth, Login ctx gates auth ∧ auth.spec.validate = .error cause := by
  constructor
  · intro crashed
    simp only [intent, failing_bind_eq_crash] at crashed
    obtain ⟨gates?, current, crashed⟩ := crashed
    cases gates? with
    | none => cases crashed
    | some gates =>
      cases enabled : gates.isEnabled ctx.settings.externalOidcGate with
      | false =>
        simp only [enabled] at crashed
        cases crashed
      | true =>
        simp only [enabled, Bool.not_true, Bool.false_eq_true, if_false,
          failing_bind_eq_crash] at crashed
        obtain ⟨auth?, found, crashed⟩ := crashed
        cases auth? with
        | none => exact absurd crashed (resetIntent_ne_crash ctx cause)
        | some auth =>
          cases kind : auth.spec.kind with
          | oidc =>
            simp only [kind] at crashed
            exact ⟨gates, auth, ⟨current, enabled, found, kind⟩, deriveIntent_eq_crash.mp crashed⟩
          | unset | integratedOAuth | none =>
            simp only [kind] at crashed
            exact absurd crashed (resetIntent_ne_crash ctx cause)
  · rintro ⟨gates, auth, login, crashed⟩
    rw [login.intent_eq]
    exact deriveIntent_eq_crash.mpr crashed

theorem Login.observe_of_overfull {σ : Type} [Replica.Syncer σ] (login : Login ctx gates auth)
    (overfull : ∃ p ∈ auth.spec.providers, p.Overfull) (existing : Tree) (session : Session σ) :
    observer.observe ctx existing session = .error Authentication.clash := by
  apply deciding_observe_eq_crash.mpr
  apply decide_eq_crash.mpr
  exact intent_eq_crash.mpr
    ⟨gates, auth, login, Authentication.Spec.validate_eq_error.mpr ⟨rfl, overfull⟩⟩

/-- What a decision about a login rests on. -/
structure Basis (ctx : Context) (gates : FeatureGates) (spec : Spec) (existing : Tree)
    (p : Provider) (client : Client) (structured : Bool) (d : Decision) : Prop where
  validated : spec.validate = .ok []
  sole : spec.providers = [p]
  isStructured : structured = true ↔ Structured ctx gates
  selects : Selects ctx.settings p client
  clean : fieldErrors p client structured = []
  diffed : ∃ outcome,
    Slice.diff existing (candidate ctx.settings p client structured) owned = .ok outcome ∧
      d.fragment = outcome.fragment

theorem Login.basis {d : Decision} (login : Login ctx gates auth)
    (decided : decide ctx existing = .ok d) :
    ∃ p client structured, Basis ctx gates auth.spec existing p client structured d := by
  rw [login.decide_eq] at decided
  simp only [deriveDecision, bind_eq_ok, pure_eq_ok, failing_eq_ok, orError_eq_ok] at decided
  obtain ⟨⟨⟩, validated, p, sole, structured, found, client, checked, plans, -, outcome, diffed,
    rfl⟩ := decided
  obtain ⟨selected, clean⟩ := checkProvider_eq_ok.mp checked
  exact ⟨p, client, structured, {
    validated := checkSpec_eq_ok.mp validated
    sole := soleProvider_eq_ok.mp sole
    isStructured := isStructured_eq_ok found
    selects := clientFor_eq_some.mp selected
    clean := clean
    diffed := ⟨outcome, diffed, rfl⟩ }⟩

end ExternalOidc

end ObservedConfig
