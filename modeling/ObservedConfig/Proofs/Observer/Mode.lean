import ObservedConfig.Proofs.Observer.ExternalOidc

/-! The modes of the observer of external providers. Before it looks at any replica the observer
knows whether it keeps, resets or derives the arguments, and from which provider. Of the config maps
only the presence of the generated configuration bears on that, so a cluster in which replicas have
come or gone is met in the same mode. -/
namespace ObservedConfig.ExternalOidc

open Authentication (Provider Client Spec)

inductive Mode where
  | keep
  | reset
  | derive (p : Provider) (client : Client) (structured : Bool)

def deriveMode (ctx : Context) (gates : FeatureGates) (spec : Spec) : Except Failure Mode := do
  checkSpec spec
  let p ← soleProvider spec
  let structured ← isStructured ctx gates
  let client ← checkProvider ctx.settings p structured
  return .derive p client structured

def mode (ctx : Context) : Except Failure Mode := do
  match ← failing ctx.gates.gates? with
  | none => return .keep
  | some gates =>
    if !gates.isEnabled ctx.settings.externalOidcGate then return .keep
    match ← failing (ctx.lookup.authentication Authentication.resourceName) with
    | none => return .reset
    | some auth =>
      match auth.spec.kind with
      | .oidc => deriveMode ctx gates auth.spec
      | _ => return .reset

def Mode.intent (ctx : Context) : Mode → Except Failure Intent
  | .keep => .ok .keep
  | .reset => resetIntent ctx
  | .derive p client structured => do
    let (ca, file) ← bothPlans (caPlan ctx p) (structuredPlan ctx structured)
    return .derive ca file (candidate ctx.settings p client structured)

theorem intent_eq (ctx : Context) : intent ctx = mode ctx >>= Mode.intent ctx := by
  have derive_eq : ∀ gates spec,
      deriveIntent ctx gates spec = deriveMode ctx gates spec >>= Mode.intent ctx := by
    intro gates spec
    simp only [deriveIntent, deriveMode, bind_assoc, pure_bind, Mode.intent]
  simp only [intent, mode, bind_assoc]
  congr 1
  funext gates?
  cases gates? with
  | none => rfl
  | some gates =>
    dsimp only
    split
    · rfl
    · simp only [bind_assoc]
      congr 1
      funext auth?
      cases auth? with
      | none => rfl
      | some auth =>
        dsimp only
        cases auth.spec.kind with
        | oidc => exact derive_eq gates auth.spec
        | _ => rfl

theorem intent_eq_ok {ctx : Context} {i : Intent} (intended : intent ctx = .ok i) :
    ∃ m, mode ctx = .ok m ∧ m.intent ctx = .ok i := by
  rwa [intent_eq, bind_eq_ok] at intended

/-- Clusters that agree on the authentication resource and on the presence of the generated
configuration are met in the same mode. -/
theorem mode_congr {lookup lookup' : Lookup} {gates : GateAccess} {s : Settings}
    (authentication : lookup'.authentication Authentication.resourceName =
      lookup.authentication Authentication.resourceName)
    (presence : (lookup'.configMap (structuredSource s)).map Option.isSome =
      (lookup.configMap (structuredSource s)).map Option.isSome) :
    mode ⟨lookup', gates, s⟩ = mode ⟨lookup, gates, s⟩ := by
  have structured : ∀ set,
      isStructured ⟨lookup', gates, s⟩ set = isStructured ⟨lookup, gates, s⟩ set := by
    intro set
    simp only [isStructured, failing_map, presence]
  simp only [mode, deriveMode, authentication, structured]

/-- Users sign in at a provider, whose arguments a structured configuration may take the place of. -/
def SignsIn (ctx : Context) (p : Provider) (structured : Bool) : Prop :=
  ∃ gates auth, ctx.gates.gates? = .ok (some gates) ∧
    gates.isEnabled ctx.settings.externalOidcGate = true ∧
    ctx.lookup.authentication Authentication.resourceName = .ok (some auth) ∧
    auth.spec.kind = .oidc ∧ auth.spec.providers = [p] ∧ isStructured ctx gates = .ok structured

theorem deriveMode_eq_ok {ctx : Context} {gates : FeatureGates} {spec : Spec} {m : Mode}
    (derived : deriveMode ctx gates spec = .ok m) : ∃ p client structured,
      spec.providers = [p] ∧ isStructured ctx gates = .ok structured ∧
        m = .derive p client structured := by
  simp only [deriveMode, bind_eq_ok, pure_eq_ok] at derived
  obtain ⟨_, _, p, sole, structured, present, client, -, rfl⟩ := derived
  exact ⟨p, client, structured, soleProvider_eq_ok.mp sole, present, rfl⟩

theorem SignsIn.derive {ctx : Context} {m : Mode} {p : Provider} {structured : Bool}
    (signsIn : SignsIn ctx p structured) (found : mode ctx = .ok m) :
    ∃ client, m = .derive p client structured := by
  obtain ⟨gates, auth, current, enabled, authentication, kind, sole, present⟩ := signsIn
  simp only [mode, bind_eq_ok, failing_eq_ok] at found
  obtain ⟨gates?, current', found⟩ := found
  obtain rfl : some gates = gates? := Except.ok.inj (current.symm.trans current')
  simp only [enabled, Bool.not_true, Bool.false_eq_true, if_false, bind_eq_ok, failing_eq_ok]
    at found
  obtain ⟨auth?, authentication', found⟩ := found
  obtain rfl : some auth = auth? := Except.ok.inj (authentication.symm.trans authentication')
  simp only [kind] at found
  obtain ⟨p', client, structured', sole', present', rfl⟩ := deriveMode_eq_ok found
  obtain rfl : p = p' := by simpa [sole] using sole'
  obtain rfl : structured = structured' := Except.ok.inj (present.symm.trans present')
  exact ⟨client, rfl⟩

theorem signsIn_of_mode {ctx : Context} {p : Provider} {client : Client} {structured : Bool}
    (found : mode ctx = .ok (.derive p client structured)) : SignsIn ctx p structured := by
  simp only [mode, bind_eq_ok, failing_eq_ok] at found
  obtain ⟨gates?, current, found⟩ := found
  cases gates? with
  | none => cases found
  | some gates =>
    cases enabled : gates.isEnabled ctx.settings.externalOidcGate with
    | false =>
      simp only [enabled] at found
      cases found
    | true =>
      simp only [enabled, Bool.not_true, Bool.false_eq_true, if_false, bind_eq_ok,
        failing_eq_ok] at found
      obtain ⟨auth?, authentication, found⟩ := found
      cases auth? with
      | none => cases found
      | some auth =>
        have kind : auth.spec.kind = .oidc := by
          cases other : auth.spec.kind with
          | oidc => rfl
          | unset | integratedOAuth | none =>
            simp only [other] at found
            cases found
        simp only [kind] at found
        obtain ⟨p', client', structured', sole, present, same⟩ := deriveMode_eq_ok found
        cases same
        exact ⟨gates, auth, current, enabled, authentication, kind, sole, present⟩

/-- Intentions that differ in nothing but their plans. -/
inductive Alike : Intent → Intent → Prop where
  | keep : Alike .keep .keep
  | reset {ca file ca' file'} : Alike (.reset ca file) (.reset ca' file')
  | derive {ca file ca' file' candidate} :
    Alike (.derive ca file candidate) (.derive ca' file' candidate)

theorem Alike.refl (i : Intent) : Alike i i := by
  cases i <;> constructor

/-- One mode leads to the same intention on every cluster, up to the plans. -/
theorem Mode.alike {lookup lookup' : Lookup} {gates : GateAccess} {s : Settings} {m : Mode}
    {i i' : Intent} (intended : m.intent ⟨lookup, gates, s⟩ = .ok i)
    (intended' : m.intent ⟨lookup', gates, s⟩ = .ok i') : Alike i i' := by
  cases m with
  | keep =>
    cases intended
    cases intended'
    exact .keep
  | reset =>
    obtain ⟨ca, file, -, -, rfl⟩ := resetIntent_eq_ok intended
    obtain ⟨ca', file', -, -, rfl⟩ := resetIntent_eq_ok intended'
    exact .reset
  | derive p client structured =>
    simp only [Mode.intent, bind_eq_ok, pure_eq_ok] at intended intended'
    obtain ⟨_, -, rfl⟩ := intended
    obtain ⟨_, -, rfl⟩ := intended'
    exact .derive

def Intent.plans : Intent → List Replica.Plan
  | .keep => []
  | .reset ca file | .derive ca file _ => [ca, file]

/-- What there is to say about replicas. Resetting them is done in silence. -/
def Intent.announcements : Intent → List String
  | .keep | .reset _ _ => []
  | .derive ca file _ => derivedMessages ca file false

def replicaMessages : List String :=
  [caSyncedMessage, caRemovedMessage, structuredSyncedMessage, structuredRemovedMessage]

theorem filter_derivedMessages (ca file : Replica.Plan) (changed : Bool) :
    (derivedMessages ca file changed).filter (· ∈ replicaMessages) =
      derivedMessages ca file false := by
  unfold derivedMessages
  cases ca.outcome <;> cases file.outcome <;> cases changed <;> decide

/-- A decision asks for the plans of its intention, and of its messages those about replicas depend
on the intention alone. -/
theorem settle_eq_ok {i : Intent} {existing : Tree} {d : Decision}
    (settled : i.settle existing = .ok d) :
    d.plans = i.plans ∧ d.messages.filter (· ∈ replicaMessages) = i.announcements := by
  cases i with
  | keep =>
    cases settled
    exact ⟨rfl, rfl⟩
  | reset ca file =>
    simp only [Intent.settle, bind_eq_ok, pure_eq_ok] at settled
    obtain ⟨configured, -, rfl⟩ := settled
    have unsaid : removedMessage ∉ replicaMessages := by decide
    refine ⟨rfl, ?_⟩
    cases configured <;> simp [Intent.announcements, unsaid]
  | derive ca file candidate =>
    simp only [Intent.settle, bind_eq_ok, pure_eq_ok] at settled
    obtain ⟨outcome, -, rfl⟩ := settled
    exact ⟨rfl, filter_derivedMessages ca file _⟩

end ObservedConfig.ExternalOidc
