import ObservedConfig.Event
import ObservedConfig.FeatureGates
import ObservedConfig.Replica.Rules
import ObservedConfig.Settings
import ObservedConfig.Slice

/-! Observers. An observer derives the part of the configuration that it owns from the state of the
cluster. It first decides, without any effect, and then carries its decision out: it asks for
replicas, and once all of them are accepted it records events. An observer that fails keeps what is
committed. -/
namespace ObservedConfig

/-- What an observer may look at besides the committed configuration. -/
structure Context where
  lookup : Lookup
  gates : GateAccess
  settings : Settings

/-- What an observer may change besides its part of the configuration. -/
structure Session (σ : Type := Replica.Rules) where
  /-- Whoever is asked for replicas. -/
  rules : σ
  events : EventLog
  deriving DecidableEq, Inhabited

/-- What an observer comes to: its part of the configuration, or the whole committed one when
nothing may change. -/
structure Observation where
  config : Tree
  errors : List ObserveError
  deriving Inhabited

def Observation.isOk (o : Observation) : Bool := o.errors.isEmpty

structure Observer (σ : Type := Replica.Rules) where
  name : String
  /-- The paths that only this observer sets. -/
  owned : List Path
  observe : Context → Tree → Session σ → Except Crash (Observation × Session σ)

/-- Why an observer comes to no decision. -/
inductive Failure where
  | errors (causes : List ObserveError)
  | crash (cause : Crash)
  deriving Inhabited

/-- What an observer is about to do. -/
structure Decision where
  plans : List Replica.Plan
  /-- Messages of the events to record. -/
  messages : List String
  fragment : Tree
  deriving Inhabited

def failing (result : Except ObserveError α) : Except Failure α :=
  result.mapError fun e => .errors [e]

namespace Decision

variable {σ : Type} [Replica.Syncer σ]

def keep (existing : Tree) : Decision := ⟨[], [], existing⟩

/-- Asks for the plans in order up to the first that is rejected. -/
def issueAll : List Replica.Plan → σ → Except ObserveError Unit × σ
  | [], rules => (.ok (), rules)
  | plan :: rest, rules =>
    match plan.issue rules with
    | (.error e, rules) => (.error e, rules)
    | (.ok _, rules) => issueAll rest rules

def carryOut (decision : Decision) (observer : String) (existing : Tree) (session : Session σ) :
    Observation × Session σ :=
  match issueAll decision.plans session.rules with
  | (.error e, rules) => (⟨existing, [e]⟩, { session with rules })
  | (.ok _, rules) =>
    (⟨decision.fragment, []⟩,
      ⟨rules, decision.messages.foldl (fun log m => log.record observer m) session.events⟩)

end Decision

def Observer.deciding {σ : Type} [Replica.Syncer σ] (name : String) (owned : List Path)
    (decide : Context → Tree → Except Failure Decision) : Observer σ where
  name := name
  owned := owned
  observe ctx existing session :=
    match decide ctx existing with
    | .error (.crash cause) => .error cause
    | .error (.errors causes) => .ok (⟨existing, causes⟩, session)
    | .ok decision => .ok (decision.carryOut name existing session)

end ObservedConfig
