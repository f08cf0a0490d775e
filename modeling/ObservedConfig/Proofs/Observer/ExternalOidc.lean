import ObservedConfig.Observer.ExternalOidc
import ObservedConfig.Proofs.Observer
import ObservedConfig.Proofs.Replica.Plan
import ObservedConfig.Proofs.Slice.Difference

/-! How the observer of external providers decides. What it intends depends on the cluster, the
gates and the settings alone, and the committed configuration only matters when the intention is
turned into a decision. The arguments of a provider are looked up in the tree as in the list. -/
namespace ObservedConfig.ExternalOidc

open Authentication (Provider Client Spec)

/-- What is to become of the arguments, whatever is committed. -/
inductive Intent where
  | keep
  | reset (ca structured : Replica.Plan)
  | derive (ca structured : Replica.Plan) (candidate : Tree)

def candidate (s : Settings) (p : Provider) (client : Client) (structured : Bool) : Tree :=
  if structured then Arguments.toTree [(structuredFile, [s.authConfig.path])]
  else Arguments.toTree (arguments s p client)

def resetIntent (ctx : Context) : Except Failure Intent := do
  let ca ← failing (Replica.planRemoval ctx.lookup (caTarget ctx.settings))
  let structured ← failing (Replica.planRemoval ctx.lookup (structuredTarget ctx.settings))
  return .reset ca structured

def deriveIntent (ctx : Context) (gates : FeatureGates) (spec : Spec) : Except Failure Intent := do
  checkSpec spec
  let p ← soleProvider spec
  let structured ← isStructured ctx gates
  let client ← checkProvider ctx.settings p structured
  let (ca, file) ← bothPlans (caPlan ctx p) (structuredPlan ctx structured)
  return .derive ca file (candidate ctx.settings p client structured)

def intent (ctx : Context) : Except Failure Intent := do
  match ← failing ctx.gates.gates? with
  | none => return .keep
  | some gates =>
    if !gates.isEnabled ctx.settings.externalOidcGate then return .keep
    match ← failing (ctx.lookup.authentication Authentication.resourceName) with
    | none => resetIntent ctx
    | some auth =>
      match auth.spec.kind with
      | .oidc => deriveIntent ctx gates auth.spec
      | _ => resetIntent ctx

def derivedMessages (ca structured : Replica.Plan) (changed : Bool) : List String :=
  announcement caSyncedMessage caRemovedMessage ca.outcome ++
    announcement structuredSyncedMessage structuredRemovedMessage structured.outcome ++
    if changed then [changedMessage] else []

def Intent.settle (existing : Tree) : Intent → Except Failure Decision
  | .keep => .ok (.keep existing)
  | .reset ca structured => do
    let configured ← failing (orError (existing.containsAnyList owned))
    return ⟨[ca, structured], if configured then [removedMessage] else [], []⟩
  | .derive ca structured candidate => do
    let outcome ← failing (orError (Slice.diff existing candidate owned))
    return ⟨[ca, structured], derivedMessages ca structured outcome.changed, outcome.fragment⟩

theorem decide_eq (ctx : Context) (existing : Tree) :
    decide ctx existing = intent ctx >>= Intent.settle existing := by
  have reset_eq : reset ctx existing = resetIntent ctx >>= Intent.settle existing := by
    simp only [reset, resetIntent, bind_assoc, pure_bind, Intent.settle]
  have derive_eq : ∀ gates spec, deriveDecision ctx gates spec existing =
      deriveIntent ctx gates spec >>= Intent.settle existing := by
    intro gates spec
    simp only [deriveDecision, deriveIntent, bind_assoc, pure_bind, Intent.settle, candidate,
      derivedMessages]
  simp only [decide, intent, bind_assoc]
  congr 1
  funext gates?
  cases gates? with
  | none => rfl
  | some gates =>
    dsimp only
    split
    · rfl
    · simp only [bind_assoc]
      congr 1
      funext auth?
      cases auth? with
      | none => exact reset_eq
      | some auth =>
        dsimp only
        cases auth.spec.kind with
        | oidc => exact derive_eq gates auth.spec
        | _ => exact reset_eq

theorem causing_resetIntent (ctx : Context) : Causing (resetIntent ctx) :=
  (causing_failing _).bind fun _ => (causing_failing _).bind fun _ => causing_ok _

/-- Past the validation of the spec, a derivation fails with errors only. -/
theorem fails_deriveIntent {motive : Failure → Prop} {ctx : Context} {gates : FeatureGates}
    {spec : Spec} (check : Fails motive (checkSpec spec))
    (errors : ∀ causes, causes ≠ [] → motive (.errors causes)) :
    Fails motive (deriveIntent ctx gates spec) := by
  have sole : Fails motive (soleProvider spec) := by
    unfold soleProvider
    split
    · exact fails_ok _
    · rintro _ ⟨⟩
      exact errors _ (List.cons_ne_nil _ _)
  have structured : Fails motive (isStructured ctx gates) := by
    unfold isStructured
    split
    · rw [failing_map]
      exact fails_failing fun _ _ => errors _ (List.cons_ne_nil _ _)
    · exact fails_ok _
  have provider : ∀ p structured, Fails motive (checkProvider ctx.settings p structured) := by
    intro p structured
    unfold checkProvider
    split
    · rintro _ ⟨⟩
      exact errors _ (List.cons_ne_nil _ _)
    · split
      · exact fails_ok _
      next wrong =>
        rintro _ ⟨⟩
        exact errors _ wrong
  have plans : ∀ a b, Fails motive (bothPlans a b) := by
    intro a b failure failed
    cases a <;> cases b <;> cases failed <;> exact errors _ (List.cons_ne_nil _ _)
  exact check.bind fun _ => sole.bind fun p => structured.bind fun s => (provider p s).bind
    fun _ => (plans _ _).bind fun _ => fails_ok _

theorem causing_deriveIntent (ctx : Context) (gates : FeatureGates) (spec : Spec) :
    Causing (deriveIntent ctx gates spec) := by
  apply fails_deriveIntent
  · unfold checkSpec
    split
    · rintro _ ⟨⟩
      trivial
    · exact fails_ok _
    · rintro _ ⟨⟩
      simp [Failure.Caused]
  · exact fun _ nonempty => nonempty

/-- Whenever the observer fails it says why. -/
theorem causing_decide (ctx : Context) (existing : Tree) : Causing (decide ctx existing) := by
  rw [decide_eq]
  apply Causing.bind
  · apply (causing_failing _).bind
    intro gates?
    cases gates? with
    | none => exact causing_ok _
    | some gates =>
      dsimp only
      split
      · exact causing_ok _
      · apply (causing_failing _).bind
        intro auth?
        cases auth? with
        | none => exact causing_resetIntent ctx
        | some auth =>
          dsimp only
          split
          · exact causing_deriveIntent ctx gates auth.spec
          · exact causing_resetIntent ctx
  · intro i
    cases i with
    | keep => exact causing_ok _
    | reset => exact (causing_failing _).bind fun _ => causing_ok _
    | derive => exact (causing_failing _).bind fun _ => causing_ok _

/-- What a derivation takes from the cluster, the gates and the settings. -/
structure Derives (ctx : Context) (p : Provider) (client : Client) (structured : Bool)
    (ca file : Replica.Plan) (candidate : Tree) : Prop where
  checked : checkProvider ctx.settings p structured = .ok client
  caPlanned : caPlan ctx p = .ok ca
  filePlanned : structuredPlan ctx structured = .ok file
  candidate_eq : candidate = ExternalOidc.candidate ctx.settings p client structured

theorem soleProvider_eq_ok {spec : Spec} {p : Provider} :
    soleProvider spec = .ok p ↔ spec.providers = [p] := by
  unfold soleProvider
  split
  next q same => simp [same]
  next other => simpa using other p

theorem checkProvider_eq_ok {s : Settings} {p : Provider} {structured : Bool} {client : Client} :
    checkProvider s p structured = .ok client ↔
      p.clientFor s.componentName s.targetNamespace = some client ∧
        fieldErrors p client structured = [] := by
  unfold checkProvider
  cases p.clientFor s.componentName s.targetNamespace with
  | none => simp
  | some found =>
    simp only [Option.some.injEq]
    split
    next clean =>
      simp only [Except.ok.injEq, iff_self_and]
      rintro rfl
      exact clean
    next wrong =>
      simp only [reduceCtorEq, false_iff, not_and]
      rintro rfl
      exact wrong

theorem bothPlans_eq_ok {a b : Except ObserveError Replica.Plan} {ca file : Replica.Plan} :
    bothPlans a b = .ok (ca, file) ↔ a = .ok ca ∧ b = .ok file := by
  cases a <;> cases b <;> simp [bothPlans]

theorem deriveIntent_eq_ok {ctx : Context} {gates : FeatureGates} {spec : Spec} {i : Intent}
    (derived : deriveIntent ctx gates spec = .ok i) :
    ∃ p client structured ca file candidate, spec.providers = [p] ∧
      i = .derive ca file candidate ∧ Derives ctx p client structured ca file candidate := by
  simp only [deriveIntent, bind_eq_ok, pure_eq_ok] at derived
  obtain ⟨_, _, p, sole, structured, _, client, checked, ⟨ca, file⟩, planned, rfl⟩ := derived
  obtain ⟨caPlanned, filePlanned⟩ := bothPlans_eq_ok.mp planned
  exact ⟨p, client, structured, ca, file, _, soleProvider_eq_ok.mp sole, rfl, checked, caPlanned,
    filePlanned, rfl⟩

theorem resetIntent_eq_ok {ctx : Context} {i : Intent} (planned : resetIntent ctx = .ok i) :
    ∃ ca file, Replica.planRemoval ctx.lookup (caTarget ctx.settings) = .ok ca ∧
      Replica.planRemoval ctx.lookup (structuredTarget ctx.settings) = .ok file ∧
      i = .reset ca file := by
  simp only [resetIntent, bind_eq_ok, pure_eq_ok, failing_eq_ok] at planned
  obtain ⟨ca, plannedCa, file, plannedFile, rfl⟩ := planned
  exact ⟨ca, file, plannedCa, plannedFile, rfl⟩

def Gated (ctx : Context) : Prop :=
  ∃ gates, ctx.gates.gates? = .ok (some gates) ∧
    gates.isEnabled ctx.settings.externalOidcGate = true

/-- Every intention is to keep what is there, to reset it or to derive it from one provider. -/
inductive Intends (ctx : Context) : Intent → Prop where
  | keep (closed : ¬ Gated ctx) : Intends ctx .keep
  | reset {ca file} (gated : Gated ctx)
    (internal : ∀ auth, ctx.lookup.authentication Authentication.resourceName = .ok (some auth) →
      auth.spec.kind ≠ .oidc)
    (caPlanned : Replica.planRemoval ctx.lookup (caTarget ctx.settings) = .ok ca)
    (filePlanned : Replica.planRemoval ctx.lookup (structuredTarget ctx.settings) = .ok file) :
    Intends ctx (.reset ca file)
  | derive {auth p client structured ca file candidate} (gated : Gated ctx)
    (found : ctx.lookup.authentication Authentication.resourceName = .ok (some auth))
    (kind : auth.spec.kind = .oidc) (sole : auth.spec.providers = [p])
    (derives : Derives ctx p client structured ca file candidate) :
    Intends ctx (.derive ca file candidate)

theorem intends {ctx : Context} {i : Intent} (intended : intent ctx = .ok i) : Intends ctx i := by
  simp only [intent, bind_eq_ok, failing_eq_ok] at intended
  obtain ⟨gates?, current, intended⟩ := intended
  cases gates? with
  | none =>
    obtain rfl : .keep = i := by simpa using intended
    refine .keep ?_
    rintro ⟨gates, found, -⟩
    rw [current] at found
    cases found
  | some gates =>
    cases enabled : gates.isEnabled ctx.settings.externalOidcGate with
    | false =>
      obtain rfl : .keep = i := by simpa [enabled] using intended
      refine .keep ?_
      rintro ⟨other, found, on⟩
      rw [current] at found
      cases found
      rw [enabled] at on
      cases on
    | true =>
      have gated : Gated ctx := ⟨gates, current, enabled⟩
      simp only [enabled, Bool.not_true, Bool.false_eq_true, if_false, bind_eq_ok,
        failing_eq_ok] at intended
      obtain ⟨auth?, found, intended⟩ := intended
      cases auth? with
      | none =>
        obtain ⟨ca, file, caPlanned, filePlanned, rfl⟩ := resetIntent_eq_ok intended
        refine .reset gated (fun auth other => ?_) caPlanned filePlanned
        rw [found] at other
        cases other
      | some auth =>
        by_cases kind : auth.spec.kind = .oidc
        · simp only [kind] at intended
          obtain ⟨p, client, structured, ca, file, candidate, sole, rfl, derives⟩ :=
            deriveIntent_eq_ok intended
          exact .derive gated found kind sole derives
        · have planned : resetIntent ctx = .ok i := by
            cases other : auth.spec.kind with
            | oidc => exact absurd other kind
            | unset | integratedOAuth | none => simpa only [other] using intended
          obtain ⟨ca, file, caPlanned, filePlanned, rfl⟩ := resetIntent_eq_ok planned
          refine .reset gated (fun auth' other => ?_) caPlanned filePlanned
          rw [found] at other
          cases other
          exact kind

theorem target_of_caPlan {ctx : Context} {p : Provider} {ca : Replica.Plan}
    (planned : caPlan ctx p = .ok ca) : ca.target = caTarget ctx.settings := by
  unfold caPlan at planned
  dsimp only at planned
  split at planned
  · exact (Replica.planRemoval_eq_ok planned).1
  · exact (Replica.planSync_eq_ok planned).1

theorem target_of_structuredPlan {ctx : Context} {structured : Bool} {file : Replica.Plan}
    (planned : structuredPlan ctx structured = .ok file) :
    file.target = structuredTarget ctx.settings := by
  unfold structuredPlan at planned
  split at planned
  · exact (Replica.planSync_eq_ok planned).1
  · exact (Replica.planRemoval_eq_ok planned).1

/-- Plans are made for both replicas, the certificate bundle first, or for none. -/
theorem plans_of_settle {ctx : Context} {existing : Tree} {i : Intent} (intends : Intends ctx i)
    {d : Decision} (settled : i.settle existing = .ok d) : d.plans = [] ∨ ∃ ca file,
      d.plans = [ca, file] ∧ ca.target = caTarget ctx.settings ∧
        file.target = structuredTarget ctx.settings := by
  cases intends with
  | keep =>
    cases settled
    exact .inl rfl
  | reset gated internal caPlanned filePlanned =>
    simp only [Intent.settle, bind_eq_ok, pure_eq_ok] at settled
    obtain ⟨_, -, rfl⟩ := settled
    exact .inr ⟨_, _, rfl, (Replica.planRemoval_eq_ok caPlanned).1,
      (Replica.planRemoval_eq_ok filePlanned).1⟩
  | derive gated found kind sole derives =>
    simp only [Intent.settle, bind_eq_ok, pure_eq_ok] at settled
    obtain ⟨_, -, rfl⟩ := settled
    exact .inr ⟨_, _, rfl, target_of_caPlan derives.caPlanned,
      target_of_structuredPlan derives.filePlanned⟩

theorem decide_eq_ok {ctx : Context} {existing : Tree} {decision : Decision}
    (decided : decide ctx existing = .ok decision) :
    ∃ i, intent ctx = .ok i ∧ i.settle existing = .ok decision := by
  rwa [decide_eq, bind_eq_ok] at decided

theorem settle_ne_crash (i : Intent) (existing : Tree) (cause : Crash) :
    i.settle existing ≠ .error (.crash cause) := by
  cases i with
  | keep => simp [Intent.settle]
  | reset =>
    cases found : existing.containsAnyList owned <;>
      simp [Intent.settle, found, failing, orError, bind, Except.bind, pure, Except.pure]
  | derive _ _ candidate =>
    cases compared : Slice.diff existing candidate owned <;>
      simp [Intent.settle, compared, failing, orError, bind, Except.bind, pure, Except.pure]

/-- What is committed has no part in a crash. -/
theorem decide_eq_crash {ctx : Context} {existing : Tree} {cause : Crash} :
    decide ctx existing = .error (.crash cause) ↔ intent ctx = .error (.crash cause) := by
  rw [decide_eq]
  cases intended : intent ctx with
  | error => simp [bind, Except.bind]
  | ok i => simp [bind, Except.bind, settle_ne_crash]

end ObservedConfig.ExternalOidc
