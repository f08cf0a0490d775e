import ObservedConfig.Proofs.Observer.Login
import ObservedConfig.Replica.Rules

/-! The errors of a login. Where the spec is admitted and its one provider knows the component, the
observer of external providers reports all that is wrong with the fields of the provider, in order
and in one go, and before anything else can fail. Where it does not get so far the spec is all it
complains about. -/
namespace ObservedConfig

def ObserveError.BlamesField (e : ObserveError) : Prop :=
  ∃ field reason, e = .invalidField field reason

section Blameless
variable {α : Type}

/-- Whatever goes wrong is not put down to a field. -/
def Blameless (result : Except ObserveError α) : Prop := ∀ e, result = .error e → ¬ e.BlamesField

def Failure.Blameless (failure : Failure) : Prop :=
  ∀ causes, failure = .errors causes → ∀ e ∈ causes, ¬ e.BlamesField

theorem blameless_errors {causes : List ObserveError} (each : ∀ e ∈ causes, ¬ e.BlamesField) :
    (Failure.errors causes).Blameless := by
  rintro _ ⟨⟩
  exact each

theorem Blameless.failing {result : Except ObserveError α} (blameless : Blameless result) :
    Fails Failure.Blameless (failing result) :=
  fails_failing fun e failed => blameless_errors (by simpa using blameless e failed)

theorem blameless_orError (result : Except Tree.Fault α) : Blameless (orError result) := by
  rintro _ failed ⟨field, reason, rfl⟩
  cases result with
  | ok => cases failed
  | error fault => cases fault <;> simp [orError, ObserveError.ofTree] at failed

def Lookup.Answers (lookup : Lookup) : Prop := ∀ place, ∃ found, lookup.configMap place = .ok found

namespace Replica

variable {lookup : Lookup}

theorem blameless_differs (target source : TextMap) (key : Option String) :
    Blameless (differs target source key) := by
  rintro _ failed ⟨field, reason, rfl⟩
  unfold differs at failed
  split at failed
  · cases failed
  · split at failed <;> cases failed

theorem blameless_planRemoval (answers : lookup.Answers) (target : Location) :
    Blameless (planRemoval lookup target) := by
  obtain ⟨found, answer⟩ := answers target
  intro e failed
  simp only [planRemoval, answer] at failed
  cases failed

theorem blameless_needsSync (answers : lookup.Answers) (target source : Location)
    (key : Option String) : Blameless (needsSync lookup target source key) := by
  obtain ⟨former?, answerTarget⟩ := answers target
  obtain ⟨desired?, answerSource⟩ := answers source
  intro e failed
  cases former? with
  | none =>
    rw [needsSync_of_absent answerTarget] at failed
    cases failed
  | some former =>
    cases named : source.isEmpty with
    | true =>
      simp only [needsSync, answerTarget, named] at failed
      cases failed
    | false =>
      cases desired? with
      | none =>
        rw [needsSync_of_missing answerTarget named answerSource] at failed
        cases failed
        rintro ⟨_, _, ⟨⟩⟩
      | some desired =>
        rw [needsSync_of_found answerTarget named answerSource] at failed
        exact blameless_differs _ _ _ e failed

theorem blameless_planSync (answers : lookup.Answers) (target source : Location)
    (key : Option String) : Blameless (planSync lookup target source key) := by
  intro e failed
  rcases bind_eq_error.mp failed with compared | ⟨needed, -, planned⟩
  · exact blameless_needsSync answers target source key e compared
  · cases needed <;> cases h : source.isEmpty <;> simp [h, pure, Except.pure] at planned

variable {plan : Plan} {plans : List Plan} {rules rules' : Rules} {e : ObserveError}

theorem sync_of_rejection {target : Location} (refused : rules.rejection? target = some e) :
    ∃ reason, e = .sync reason := by
  unfold Rules.rejection? at refused
  split at refused
  · exact ⟨_, (Option.some.inj refused).symm⟩
  · split at refused
    · exact ⟨_, (Option.some.inj refused).symm⟩
    · cases refused

theorem sync_of_issue (rejected : plan.issue rules = (.error e, rules')) :
    ∃ reason, e = .sync reason := by
  unfold Plan.issue at rejected
  split at rejected
  · cases rejected
  next source _ =>
    simp only [Syncer.request, Rules.request] at rejected
    cases refused : rules.rejection? plan.target with
    | none =>
      by_cases held : rules.source? plan.target = some source <;> simp [refused, held] at rejected
    | some cause =>
      obtain rfl : cause = e := by
        simp only [refused, Prod.mk.injEq, Except.error.injEq] at rejected
        exact rejected.1
      exact sync_of_rejection refused

theorem sync_of_issueAll (rejected : Decision.issueAll plans rules = (.error e, rules')) :
    ∃ reason, e = .sync reason := by
  induction plans generalizing rules with
  | nil => cases rejected
  | cons plan rest ih =>
    simp only [Decision.issueAll] at rejected
    split at rejected
    next cause middle issued =>
      cases rejected
      exact sync_of_issue issued
    next => exact ih rejected

end Replica

end Blameless

namespace ExternalOidc

open Authentication (Provider Client Rule Spec)

/-- What can be wrong with a field of a provider. -/
inductive FieldFault where
  | url
  | clientId
  | usernamePrefix
  | ruleKind (index : Nat) (rule : Rule)
  | emptyRule (index : Nat) (rule : Rule)

namespace FieldFault

/-- Everything that can be wrong with a provider, in the order of its fields. A structured
configuration expresses the rules itself. -/
def candidates (p : Provider) (structured : Bool) : List FieldFault :=
  [url, clientId, usernamePrefix] ++
    if structured then []
    else p.rules.zipIdx.flatMap fun (rule, index) => [ruleKind index rule, emptyRule index rule]

def arises (p : Provider) (client : Client) : FieldFault → Bool
  | url => (Url.scheme p.issuer.url).toOption ≠ some "https"
  | clientId => client.clientId = ""
  | usernamePrefix => p.mappings.username.policy = .prefixed ∧ p.mappings.username.lead = none
  | ruleKind _ rule => rule.kind ≠ .requiredClaim
  | emptyRule _ rule => rule.requiredClaim = none

def error (p : Provider) : FieldFault → ObserveError
  | url => .invalidField "issuer.issuerURL" <|
    match Url.scheme p.issuer.url with
    | .error fault => fault.message
    | .ok _ => "https is required for provider URL"
  | clientId => .invalidField "oidcClients.clientID" "OIDC client ID not set"
  | usernamePrefix => .invalidField "claimMappings.username.prefix"
    "nil username prefix while policy expects one"
  | ruleKind index rule => .invalidField (ruleField index)
    ("invalid claim validation rule type: " ++ rule.kind.name)
  | emptyRule index _ => .invalidField (ruleField index)
    ("empty validation rule at index " ++ toString index)

def report (p : Provider) (client : Client) (structured : Bool) : List ObserveError :=
  ((candidates p structured).filter (arises p client)).map (error p)

end FieldFault

theorem ruleErrors_eq (p : Provider) (client : Client) (index : Nat) (rules : List Rule) :
    ruleErrors index rules =
      (((rules.zipIdx index).flatMap fun (rule, index) =>
        [FieldFault.ruleKind index rule, .emptyRule index rule]).filter
          (FieldFault.arises p client)).map (FieldFault.error p) := by
  induction rules generalizing index with
  | nil => rfl
  | cons rule rest ih =>
    have here : ruleErrorsAt index rule =
        ([FieldFault.ruleKind index rule, .emptyRule index rule].filter
          (FieldFault.arises p client)).map (FieldFault.error p) := by
      by_cases kind : rule.kind = .requiredClaim <;> cases claim : rule.requiredClaim <;>
        simp [ruleErrorsAt, FieldFault.arises, FieldFault.error, kind, claim]
    rw [ruleErrors, ih, here, List.zipIdx_cons, List.flatMap_cons, List.filter_append,
      List.map_append]

/-- The errors of a provider are those of the faults that arise. -/
theorem fieldErrors_eq (p : Provider) (client : Client) (structured : Bool) :
    fieldErrors p client structured = FieldFault.report p client structured := by
  have url : urlErrors p.issuer.url =
      ([FieldFault.url].filter (FieldFault.arises p client)).map (FieldFault.error p) := by
    unfold urlErrors
    cases scheme : Url.scheme p.issuer.url with
    | error => simp [FieldFault.arises, FieldFault.error, scheme, Except.toOption]
    | ok name =>
      by_cases https : name = "https" <;>
        simp [FieldFault.arises, FieldFault.error, scheme, Except.toOption, https]
  have clientId : clientErrors client =
      ([FieldFault.clientId].filter (FieldFault.arises p client)).map (FieldFault.error p) := by
    by_cases empty : client.clientId = "" <;>
      simp [clientErrors, FieldFault.arises, FieldFault.error, empty]
  have lead : prefixErrors p.mappings.username =
      ([FieldFault.usernamePrefix].filter (FieldFault.arises p client)).map
        (FieldFault.error p) := by
    unfold prefixErrors
    split <;> simp_all [FieldFault.arises, FieldFault.error]
  have rules : (if structured then [] else ruleErrors 0 p.rules) =
      ((if structured then [] else p.rules.zipIdx.flatMap fun (rule, index) =>
        [FieldFault.ruleKind index rule, .emptyRule index rule]).filter
          (FieldFault.arises p client)).map (FieldFault.error p) := by
    cases structured with
    | true => rfl
    | false => exact ruleErrors_eq p client 0 p.rules
  rw [fieldErrors, url, clientId, lead, rules, FieldFault.report, FieldFault.candidates]
  simp only [← List.map_append, ← List.filter_append, List.cons_append, List.nil_append]

/-- All fields of a provider are in order, its rules included. -/
structure Flawless (p : Provider) (client : Client) : Prop where
  https : Url.scheme p.issuer.url = .ok "https"
  clientId : client.clientId ≠ ""
  lead : p.mappings.username.policy = .prefixed → p.mappings.username.lead ≠ none
  rules : ∀ rule ∈ p.rules, rule.kind = .requiredClaim ∧ rule.requiredClaim ≠ none

theorem flawless_of_clean {p : Provider} {client : Client}
    (clean : fieldErrors p client false = []) : Flawless p client := by
  have none : ∀ fault ∈ FieldFault.candidates p false, fault.arises p client = false := by
    rw [fieldErrors_eq, FieldFault.report, List.map_eq_nil_iff, List.filter_eq_nil_iff] at clean
    simpa using clean
  have ofRule : ∀ rule ∈ p.rules, ∃ index, FieldFault.ruleKind index rule ∈
      FieldFault.candidates p false ∧ FieldFault.emptyRule index rule ∈
        FieldFault.candidates p false := by
    intro rule member
    obtain ⟨index, inside, found⟩ := List.mem_iff_getElem.mp member
    have listed : (rule, index) ∈ p.rules.zipIdx := by
      rw [List.mk_mem_zipIdx_iff_getElem?, List.getElem?_eq_getElem inside, found]
    refine ⟨index, ?_, ?_⟩ <;>
      exact List.mem_append_right _ (List.mem_flatMap.mpr ⟨_, listed, by simp⟩)
  refine ⟨?_, ?_, ?_, fun rule member => ?_⟩
  · have url := none .url (by simp [FieldFault.candidates])
    simpa [FieldFault.arises, toOption_eq_some] using url
  · simpa [FieldFault.arises] using none .clientId (by simp [FieldFault.candidates])
  · simpa [FieldFault.arises] using none .usernamePrefix (by simp [FieldFault.candidates])
  · obtain ⟨index, kindListed, emptyListed⟩ := ofRule rule member
    have kind := none _ kindListed
    have empty := none _ emptyListed
    simp only [FieldFault.arises, decide_eq_false_iff_not] at kind empty
    exact ⟨Classical.not_not.mp kind, empty⟩

variable {ctx : Context} {gates : FeatureGates} {auth : Authentication} {existing : Tree}
  {spec : Spec} {p : Provider} {client : Client} {structured : Bool}

theorem exists_isStructured (answers : ctx.lookup.Answers) (gates : FeatureGates) :
    ∃ structured, isStructured ctx gates = .ok structured := by
  obtain ⟨source, answer⟩ := answers (structuredSource ctx.settings)
  unfold isStructured
  split
  · exact ⟨source.isSome, by rw [answer]; rfl⟩
  · exact ⟨false, rfl⟩

theorem deriveDecision_of_inadmissible {violations : List Violation}
    (validated : spec.validate = .ok violations) (wrong : violations ≠ []) :
    deriveDecision ctx gates spec existing =
      .error (.errors [.schemaViolation (Violation.report violations)]) := by
  have checked : checkSpec spec =
      .error (.errors [.schemaViolation (Violation.report violations)]) := by
    unfold checkSpec
    rw [validated]
    cases violations with
    | nil => exact absurd rfl wrong
    | cons => rfl
  rw [deriveDecision, checked]
  rfl

section Admitted
variable (validated : spec.validate = .ok [])
include validated

theorem deriveDecision_of_count (count : spec.providers.length ≠ 1) :
    deriveDecision ctx gates spec existing =
      .error (.errors [.schemaViolation providerCountReason]) := by
  have several : soleProvider spec = .error (.errors [.schemaViolation providerCountReason]) := by
    unfold soleProvider
    split
    next sole => simp [sole] at count
    next => rfl
  rw [deriveDecision, checkSpec_eq_ok.mpr validated, several]
  rfl

variable (sole : spec.providers = [p]) (present : isStructured ctx gates = .ok structured)
include sole present

theorem deriveDecision_of_unchecked {failure : Failure}
    (failed : checkProvider ctx.settings p structured = .error failure) :
    deriveDecision ctx gates spec existing = .error failure := by
  rw [deriveDecision, checkSpec_eq_ok.mpr validated, soleProvider_eq_ok.mpr sole, present]
  simp only [bind, Except.bind, failed]

/-- Once all fields are in order, none of them is blamed for what goes wrong later. -/
theorem blameless_deriveDecision (answers : ctx.lookup.Answers)
    (checked : checkProvider ctx.settings p structured = .ok client) :
    Fails Failure.Blameless (deriveDecision ctx gates spec existing) := by
  have caPlanned : Blameless (caPlan ctx p) := by
    unfold caPlan
    dsimp only
    split
    · exact Replica.blameless_planRemoval answers _
    · exact Replica.blameless_planSync answers _ _ _
  have filePlanned : Blameless (structuredPlan ctx structured) := by
    unfold structuredPlan
    split
    · exact Replica.blameless_planSync answers _ _ _
    · exact Replica.blameless_planRemoval answers _
  have plans : Fails Failure.Blameless (bothPlans (caPlan ctx p) (structuredPlan ctx structured)) := by
    intro failure failed
    cases ca : caPlan ctx p <;> cases file : structuredPlan ctx structured <;>
      rw [ca, file] at failed <;> cases failed <;> apply blameless_errors <;> simp_all [Blameless]
  rw [deriveDecision, checkSpec_eq_ok.mpr validated, soleProvider_eq_ok.mpr sole, present]
  show Fails _ (checkProvider ctx.settings p structured >>= _)
  rw [checked]
  exact plans.bind fun _ => (blameless_orError _).failing.bind fun _ => fails_ok _

end Admitted

theorem Login.observe_of_errors {σ : Type} [Replica.Syncer σ] (login : Login ctx gates auth)
    {causes : List ObserveError}
    (failed : deriveDecision ctx gates auth.spec existing = .error (.errors causes))
    (session : Session σ) :
    observer.observe ctx existing session = .ok (⟨existing, causes⟩, session) := by
  apply deciding_observe.mpr
  rw [login.decide_eq, failed]
  exact .failed

theorem Login.exists_observed {σ : Type} [Replica.Syncer σ] (login : Login ctx gates auth)
    (validated : auth.spec.validate = .ok []) (existing : Tree) (session : Session σ) :
    ∃ observation last, observer.observe ctx existing session = .ok (observation, last) ∧
      Carried name existing session (deriveDecision ctx gates auth.spec existing) observation
        last := by
  have stays : ∀ cause, deriveDecision ctx gates auth.spec existing ≠ .error (.crash cause) := by
    intro cause crashed
    rw [← login.decide_eq, decide_eq_crash, intent_eq_crash] at crashed
    obtain ⟨_, other, login', failed⟩ := crashed
    have same := login.found.symm.trans login'.found
    cases same
    rw [validated] at failed
    cases failed
  obtain ⟨observation, last, carried⟩ := exists_carried name existing session stays
  refine ⟨observation, last, deciding_observe.mpr ?_, carried⟩
  rwa [login.decide_eq]

/-- The faults of an admitted provider that knows the component are the errors of the observer, and
without any fault nothing is put down to a field. -/
theorem Login.observe_of_admitted (login : Login ctx gates auth) (answers : ctx.lookup.Answers)
    (validated : auth.spec.validate = .ok []) (sole : auth.spec.providers = [p])
    (selects : Selects ctx.settings p client) (present : isStructured ctx gates = .ok structured)
    (existing : Tree) (session : Session) :
    ∃ observation last, observer.observe ctx existing session = .ok (observation, last) ∧
      (FieldFault.report p client structured ≠ [] →
        observation.errors = FieldFault.report p client structured) ∧
      (FieldFault.report p client structured = [] →
        ∀ e ∈ observation.errors, ¬ e.BlamesField) := by
  have selected := clientFor_eq_some.mpr selects
  obtain ⟨observation, last, observed, carried⟩ := login.exists_observed validated existing session
  refine ⟨observation, last, observed, ?_, ?_⟩
  · intro wrong
    have checked : checkProvider ctx.settings p structured =
        .error (.errors (FieldFault.report p client structured)) := by
      rw [← fieldErrors_eq] at wrong ⊢
      exact checkProvider_of_faults selected wrong
    rw [deriveDecision_of_unchecked validated sole present checked] at carried
    cases carried
    rfl
  · intro clean
    have checked : checkProvider ctx.settings p structured = .ok client :=
      checkProvider_eq_ok.mpr ⟨selected, (fieldErrors_eq p client structured).trans clean⟩
    have blameless : Fails Failure.Blameless (deriveDecision ctx gates auth.spec existing) :=
      blameless_deriveDecision validated sole present answers checked
    generalize deriveDecision ctx gates auth.spec existing = result at carried blameless
    cases carried with
    | failed => exact blameless _ rfl _ rfl
    | rejected rejection =>
      obtain ⟨reason, rfl⟩ := Replica.sync_of_issueAll rejection
      simp [ObserveError.BlamesField]
    | accepted => simp

/-- The spec is not one that a login can be derived from. -/
def Unfit (s : Settings) (spec : Spec) (violations : List Violation) : Prop :=
  violations ≠ [] ∨ spec.providers.length ≠ 1 ∨
    ∃ p, spec.providers = [p] ∧ ∀ client ∈ p.clients, ¬ IsFor s client

theorem Login.observe_of_unfit {σ : Type} [Replica.Syncer σ] (login : Login ctx gates auth)
    (answers : ctx.lookup.Answers) {violations : List Violation}
    (validated : auth.spec.validate = .ok violations)
    (unfit : Unfit ctx.settings auth.spec violations) (existing : Tree) (session : Session σ) :
    ∃ reason, observer.observe ctx existing session =
      .ok (⟨existing, [.schemaViolation reason]⟩, session) := by
  cases violations with
  | cons => exact ⟨_, login.observe_of_errors
      (deriveDecision_of_inadmissible validated (List.cons_ne_nil _ _)) session⟩
  | nil =>
    rcases unfit with wrong | count | ⟨p, sole, unknown⟩
    · exact absurd rfl wrong
    · exact ⟨_, login.observe_of_errors (deriveDecision_of_count validated count) session⟩
    · obtain ⟨structured, present⟩ := exists_isStructured answers gates
      have checked : checkProvider ctx.settings p structured =
          .error (.errors [.schemaViolation (noClientReason ctx.settings)]) := by
        rw [checkProvider, clientFor_eq_none.mpr unknown]
      exact ⟨_, login.observe_of_errors
        (deriveDecision_of_unchecked validated sole present checked) session⟩

/-- For a login whose look-ups are all answered the observer reports the faults of an admitted
provider that knows the component, all of them in order, and without any fault it blames no field.
A spec that is not admitted, another number of providers or an unknown component is one violation of
the schema and nothing else, unless a provider is overfull: then there is no report. -/
theorem field_errors_reported (login : Login ctx gates auth) (answers : ctx.lookup.Answers)
    (existing : Tree) (session : Session) :
    (∀ p client structured, auth.spec.validate = .ok [] → auth.spec.providers = [p] →
      Selects ctx.settings p client → (structured = true ↔ Structured ctx gates) →
      ∃ observation last, observer.observe ctx existing session = .ok (observation, last) ∧
        (FieldFault.report p client structured ≠ [] →
          observation.errors = FieldFault.report p client structured) ∧
        (FieldFault.report p client structured = [] →
          ∀ e ∈ observation.errors, ¬ e.BlamesField)) ∧
    (∀ violations, auth.spec.validate = .ok violations →
      Unfit ctx.settings auth.spec violations →
      ∃ reason, observer.observe ctx existing session =
        .ok (⟨existing, [.schemaViolation reason]⟩, session)) ∧
    ((∃ p ∈ auth.spec.providers, p.Overfull) →
      observer.observe ctx existing session = .error Authentication.clash) := by
  refine ⟨?_, ?_, ?_⟩
  · intro p client structured validated sole selects structured_iff
    obtain ⟨found, present⟩ := exists_isStructured answers gates
    obtain rfl : structured = found := by
      rw [Bool.eq_iff_iff, structured_iff, isStructured_eq_ok present]
    exact login.observe_of_admitted answers validated sole selects present existing session
  · intro violations validated unfit
    exact login.observe_of_unfit answers validated unfit existing session
  · exact fun overfull => login.observe_of_overfull overfull existing session

def faultyProvider : Provider where
  name := "corp"
  issuer := ⟨"http://login.example", [], ""⟩
  clients := [⟨"kube-apiserver", "openshift-kube-apiserver", "", []⟩]
  mappings := ⟨⟨"email", .prefixed, none⟩, ⟨"groups", ""⟩⟩
  rules := [⟨.requiredClaim, some ⟨"aud", "kas"⟩, none⟩, ⟨.expression, none, none⟩]

/-- All five faults are reported, two of them for one rule. -/
theorem field_errors_reported_of_faulty :
    ∃ (observation : Observation) (last : Session),
      (observer : Observer).observe (soleContext ⟨.oidc, [faultyProvider]⟩) []
        ⟨.empty "openshift-kube-apiserver", []⟩ = .ok (observation, last) ∧
      observation.errors.map ObserveError.message = [
        "Invalid field issuer.issuerURL: https is required for provider URL",
        "Invalid field oidcClients.clientID: OIDC client ID not set",
        "Invalid field claimMappings.username.prefix: nil username prefix while policy expects one",
        "Invalid field claimValidationRules[1]: invalid claim validation rule type: CEL",
        "Invalid field claimValidationRules[1]: empty validation rule at index 1"] := by
  have validated : (⟨.oidc, [faultyProvider]⟩ : Spec).validate.toOption = some [] := by
    decide +kernel
  rw [toOption_eq_some] at validated
  have selects : Selects .standard faultyProvider
      ⟨"kube-apiserver", "openshift-kube-apiserver", "", []⟩ := clientFor_eq_some.mp rfl
  obtain ⟨reported, -⟩ := field_errors_reported (@login_soleContext ⟨.oidc, [faultyProvider]⟩ rfl)
    (fun _ => ⟨_, rfl⟩) [] ⟨.empty "openshift-kube-apiserver", []⟩
  obtain ⟨observation, last, observed, errors, -⟩ := reported faultyProvider _ false validated rfl
    selects (isStructured_eq_ok rfl)
  refine ⟨observation, last, observed, ?_⟩
  rw [errors (by decide +kernel)]
  decide +kernel

/-- Two providers are no violation of the schema where one of them is overfull, since there is no
report at all. -/
theorem overfull_pair_unreported :
    [Authentication.overfullProvider, faultyProvider].length ≠ 1 ∧
    observer.observe (soleContext ⟨.oidc, [Authentication.overfullProvider, faultyProvider]⟩) []
      (⟨.empty "openshift-kube-apiserver", []⟩ : Session) = .error Authentication.clash :=
  ⟨by decide, (login_soleContext rfl).observe_of_overfull
    ⟨_, List.mem_cons_self, Authentication.overfull_overfullProvider⟩ _ _⟩

end ExternalOidc

end ObservedConfig
