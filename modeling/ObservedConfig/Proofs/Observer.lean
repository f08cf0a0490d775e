import ObservedConfig.Observer
import ObservedConfig.Proofs.Result

/-! What an observer that follows a rule can do. It ends in one of three ways: the rule comes to no
decision, a request of the decision is rejected, or the decision is carried out. Only in the last
case it contributes a fragment and records events. -/
namespace ObservedConfig

section Results
variable {α β : Type}

@[simp] theorem failing_eq_ok {result : Except ObserveError α} {a : α} :
    failing result = .ok a ↔ result = .ok a :=
  mapError_eq_ok

theorem failing_map (f : α → β) (result : Except ObserveError α) :
    (failing result).map f = failing (result.map f) := by
  cases result <;> rfl

@[simp] theorem orError_eq_ok {result : Except Tree.Fault α} {a : α} :
    orError result = .ok a ↔ result = .ok a :=
  mapError_eq_ok

/-- All failures of a computation are of one kind. -/
def Fails (motive : Failure → Prop) (result : Except Failure α) : Prop :=
  ∀ failure, result = .error failure → motive failure

section Fails
variable {motive : Failure → Prop}

theorem fails_ok (a : α) : Fails motive (.ok a) := by
  intro failure failed
  cases failed

theorem fails_failing {result : Except ObserveError α}
    (each : ∀ e, result = .error e → motive (.errors [e])) : Fails motive (failing result) := by
  intro failure failed
  cases result with
  | ok => cases failed
  | error e =>
    cases failed
    exact each e rfl

theorem Fails.bind {result : Except Failure α} {next : α → Except Failure β}
    (first : Fails motive result) (later : ∀ a, Fails motive (next a)) :
    Fails motive (result >>= next) := by
  intro failure failed
  cases result with
  | ok a => exact later a failure failed
  | error cause =>
    obtain rfl : cause = failure := by injection failed
    exact first cause rfl

end Fails

/-- A failure that names its causes names at least one. -/
def Failure.Caused : Failure → Prop
  | .errors causes => causes ≠ []
  | .crash _ => True

def Causing (result : Except Failure α) : Prop := ∀ failure, result = .error failure → failure.Caused

theorem causing_ok (a : α) : Causing (.ok a) := fails_ok a

theorem causing_failing (result : Except ObserveError α) : Causing (failing result) :=
  fails_failing fun e _ => List.cons_ne_nil e []

theorem Causing.bind {result : Except Failure α} {next : α → Except Failure β}
    (first : Causing result) (later : ∀ a, Causing (next a)) : Causing (result >>= next) :=
  Fails.bind first later

end Results

variable {σ : Type} [Replica.Syncer σ]

/-- How an observer may end, given what its rule comes to. -/
inductive Carried (name : String) (existing : Tree) (session : Session σ) :
    Except Failure Decision → Observation → Session σ → Prop where
  | failed {causes} :
    Carried name existing session (.error (.errors causes)) ⟨existing, causes⟩ session
  | rejected {decision e rules}
    (rejection : Decision.issueAll decision.plans session.rules = (.error e, rules)) :
    Carried name existing session (.ok decision) ⟨existing, [e]⟩ ⟨rules, session.events⟩
  | accepted {decision rules}
    (issued : Decision.issueAll decision.plans session.rules = (.ok (), rules)) :
    Carried name existing session (.ok decision) ⟨decision.fragment, []⟩
      ⟨rules, session.events ++ decision.messages.map fun message => ⟨name, message⟩⟩

theorem foldl_record (name : String) (messages : List String) (log : EventLog) :
    messages.foldl (fun log message => log.record name message) log =
      log ++ messages.map fun message => ⟨name, message⟩ := by
  induction messages generalizing log with
  | nil => simp
  | cons message rest ih =>
    rw [List.foldl_cons, ih, EventLog.record, List.append_assoc]
    rfl

theorem deciding_observe {name : String} {owned : List Path}
    {decide : Context → Tree → Except Failure Decision} {ctx : Context} {existing : Tree}
    {session session' : Session σ} {observation : Observation} :
    (Observer.deciding name owned decide).observe ctx existing session
        = .ok (observation, session') ↔
      Carried name existing session (decide ctx existing) observation session' := by
  simp only [Observer.deciding]
  constructor
  · intro observed
    cases made : decide ctx existing with
    | error failure =>
      cases failure with
      | crash => simp [made] at observed
      | errors causes =>
        obtain ⟨rfl, rfl⟩ : ⟨existing, causes⟩ = observation ∧ session = session' := by
          simpa [made] using observed
        exact .failed
    | ok decision =>
      simp only [made, Decision.carryOut, foldl_record, Except.ok.injEq] at observed
      cases issued : Decision.issueAll decision.plans session.rules with
      | mk result rules =>
        cases result with
        | error e =>
          obtain ⟨rfl, rfl⟩ := Prod.mk.inj (by simpa [issued] using observed)
          exact .rejected issued
        | ok =>
          obtain ⟨rfl, rfl⟩ := Prod.mk.inj (by simpa [issued] using observed)
          exact .accepted issued
  · intro carried
    generalize made : decide ctx existing = result at carried
    cases carried with
    | failed => rfl
    | rejected rejection => simp [Decision.carryOut, rejection]
    | accepted issued => simp [Decision.carryOut, issued, foldl_record]

/-- An observer that does not crash ends in one of its ways. -/
theorem exists_carried (name : String) (existing : Tree) (session : Session σ)
    {result : Except Failure Decision} (stays : ∀ cause, result ≠ .error (.crash cause)) :
    ∃ observation last, Carried name existing session result observation last := by
  cases result with
  | error failure =>
    cases failure with
    | crash cause => exact absurd rfl (stays cause)
    | errors causes => exact ⟨_, _, .failed⟩
  | ok decision =>
    cases issued : Decision.issueAll decision.plans session.rules with
    | mk answer rules =>
      cases answer with
      | error e => exact ⟨_, _, .rejected issued⟩
      | ok => exact ⟨_, _, .accepted issued⟩

/-- The observer itself crashes exactly when its rule does. -/
theorem deciding_observe_eq_crash {name : String} {owned : List Path}
    {decide : Context → Tree → Except Failure Decision} {ctx : Context} {existing : Tree}
    {session : Session σ} {cause : Crash} :
    (Observer.deciding name owned decide).observe ctx existing session = .error cause ↔
      decide ctx existing = .error (.crash cause) := by
  simp only [Observer.deciding]
  cases decide ctx existing with
  | ok => simp
  | error failure => cases failure <;> simp

/-- The tree of an observation is the committed one or the fragment of a decision. -/
theorem Carried.config_of {motive : Tree → Prop} {name : String} {existing : Tree}
    {session session' : Session σ} {result : Except Failure Decision} {observation : Observation}
    (carried : Carried name existing session result observation session')
    (committed : motive existing)
    (decided : ∀ decision, result = .ok decision → motive decision.fragment) :
    motive observation.config := by
  cases carried with
  | failed => exact committed
  | rejected => exact committed
  | accepted => exact decided _ rfl

/-- A run only adds events, all of them in the name of its observer. -/
theorem Carried.recorded {name : String} {existing : Tree} {session session' : Session σ}
    {result : Except Failure Decision} {observation : Observation}
    (carried : Carried name existing session result observation session') :
    ∃ new : EventLog, session'.events = session.events ++ new ∧
      ∀ event ∈ new, event.reason = name := by
  cases carried with
  | failed => exact ⟨[], by simp, by simp⟩
  | rejected => exact ⟨[], by simp, by simp⟩
  | accepted => exact ⟨_, rfl, by simp⟩

/-- An observer without errors contributes the fragment of its decision. -/
theorem Carried.fragment {name : String} {existing : Tree} {session session' : Session σ}
    {result : Except Failure Decision} {observation : Observation}
    (carried : Carried name existing session result observation session')
    (causing : Causing result) (clean : observation.errors = []) :
    ∃ decision rules, result = .ok decision ∧ observation = ⟨decision.fragment, []⟩ ∧
      Decision.issueAll decision.plans session.rules = (.ok (), rules) ∧
      session' =
        ⟨rules, session.events ++ decision.messages.map fun message => ⟨name, message⟩⟩ := by
  cases carried with
  | failed => exact absurd clean (causing _ rfl)
  | rejected rejection => cases clean
  | accepted issued => exact ⟨_, _, rfl, rfl, issued, rfl⟩

end ObservedConfig
