import ObservedConfig.Proofs.Observer.Mode
import ObservedConfig.Proofs.Replica.InPlace

/-! The replicas that belong to a mode. The plans for them are all that an intention adds to its mode.
When they are in place the plans say nothing and ask for no more than the deletion of what is not
there. -/
namespace ObservedConfig.ExternalOidc

open Authentication (Provider)
open Replica (Wanted Arranged)

def caReplica (s : Settings) (p? : Option Provider) : Wanted :=
  ⟨caTarget s, p?.elim .empty (caSource s), s.caBundle.key⟩

def fileReplica (s : Settings) (structured : Bool) : Wanted :=
  ⟨structuredTarget s, if structured then structuredSource s else .empty, s.authConfig.key⟩

def Mode.replicas (s : Settings) : Mode → List Wanted
  | .keep => []
  | .reset => [caReplica s none, fileReplica s false]
  | .derive p _ structured => [caReplica s (some p), fileReplica s structured]

/-- A structured configuration is only used if its source has a name. -/
def Mode.Named (s : Settings) (m : Mode) : Prop :=
  ∀ p client, m = .derive p client true → (structuredSource s).isEmpty = false

variable {ctx : Context} {m : Mode} {i : Intent}

theorem caPlan_eq (ctx : Context) (p : Provider) :
    caPlan ctx p = (caReplica ctx.settings (some p)).planOn ctx.lookup := rfl

theorem structuredPlan_eq {structured : Bool}
    (named : structured = true → (structuredSource ctx.settings).isEmpty = false) :
    structuredPlan ctx structured = (fileReplica ctx.settings structured).planOn ctx.lookup := by
  cases structured with
  | false => rfl
  | true => simp [structuredPlan, fileReplica, Wanted.planOn, named rfl]

theorem Mode.Named.structured {p client structured}
    (named : Named ctx.settings (.derive p client structured)) (on : structured = true) :
    (structuredSource ctx.settings).isEmpty = false :=
  named p client (by rw [on])

theorem Mode.intent_reset : Mode.reset.intent ctx = .ok i ↔ ∃ ca file,
    (caReplica ctx.settings none).planOn ctx.lookup = .ok ca ∧
    (fileReplica ctx.settings false).planOn ctx.lookup = .ok file ∧ i = .reset ca file := by
  constructor
  · exact resetIntent_eq_ok
  · rintro ⟨ca, file, caPlanned, filePlanned, rfl⟩
    have caRemoved : Replica.planRemoval ctx.lookup (caTarget ctx.settings) = .ok ca := caPlanned
    have fileRemoved : Replica.planRemoval ctx.lookup (structuredTarget ctx.settings) = .ok file :=
      filePlanned
    simp only [Mode.intent, resetIntent, caRemoved, fileRemoved]
    rfl

theorem Mode.intent_derive {p client structured}
    (named : Named ctx.settings (.derive p client structured)) :
    (Mode.derive p client structured).intent ctx = .ok i ↔ ∃ ca file,
      (caReplica ctx.settings (some p)).planOn ctx.lookup = .ok ca ∧
      (fileReplica ctx.settings structured).planOn ctx.lookup = .ok file ∧
      i = .derive ca file (candidate ctx.settings p client structured) := by
  rw [← caPlan_eq, ← structuredPlan_eq named.structured]
  simp only [Mode.intent, bind_eq_ok, pure_eq_ok]
  constructor
  · rintro ⟨⟨ca, file⟩, both, rfl⟩
    obtain ⟨caPlanned, filePlanned⟩ := bothPlans_eq_ok.mp both
    exact ⟨ca, file, caPlanned, filePlanned, rfl⟩
  · rintro ⟨ca, file, caPlanned, filePlanned, rfl⟩
    exact ⟨(ca, file), bothPlans_eq_ok.mpr ⟨caPlanned, filePlanned⟩, rfl⟩

/-- Whatever a mode intends, it plans for the replicas that belong to it. -/
theorem Mode.exists_arranged (named : m.Named ctx.settings) (intended : m.intent ctx = .ok i) :
    ∃ arranged : List (Arranged ctx.lookup),
      arranged.map (·.toWanted) = m.replicas ctx.settings ∧
        i.plans = Arranged.plans arranged := by
  cases m with
  | keep =>
    cases intended
    exact ⟨[], rfl, rfl⟩
  | reset =>
    obtain ⟨ca, file, caPlanned, filePlanned, rfl⟩ := intent_reset.mp intended
    let caArranged : Arranged ctx.lookup := ⟨caReplica ctx.settings none, ca, caPlanned⟩
    let fileArranged : Arranged ctx.lookup := ⟨fileReplica ctx.settings false, file, filePlanned⟩
    exact ⟨[caArranged, fileArranged], rfl, rfl⟩
  | derive p client structured =>
    obtain ⟨ca, file, caPlanned, filePlanned, rfl⟩ := (intent_derive named).mp intended
    let caArranged : Arranged ctx.lookup := ⟨caReplica ctx.settings (some p), ca, caPlanned⟩
    let fileArranged : Arranged ctx.lookup :=
      ⟨fileReplica ctx.settings structured, file, filePlanned⟩
    exact ⟨[caArranged, fileArranged], rfl, rfl⟩

theorem derivedMessages_eq_nil_iff {ca file : Replica.Plan} :
    derivedMessages ca file false = [] ↔ ca.outcome = .unchanged ∧ file.outcome = .unchanged := by
  unfold derivedMessages
  cases ca.outcome <;> cases file.outcome <;> simp [announcement]

/-- There is something to announce just when a replica for a provider is not in place. -/
theorem Mode.announcements_eq_nil_iff (named : m.Named ctx.settings)
    (intended : m.intent ctx = .ok i) :
    i.announcements = [] ↔ ∀ p client structured, m = .derive p client structured →
      (caReplica ctx.settings (some p)).InPlace ctx.lookup ∧
        (fileReplica ctx.settings structured).InPlace ctx.lookup := by
  cases m with
  | keep =>
    cases intended
    simp [Intent.announcements]
  | reset =>
    obtain ⟨ca, file, -, -, rfl⟩ := intent_reset.mp intended
    simp [Intent.announcements]
  | derive p client structured =>
    obtain ⟨ca, file, caPlanned, filePlanned, rfl⟩ := (intent_derive named).mp intended
    rw [Intent.announcements, derivedMessages_eq_nil_iff,
      Replica.outcome_eq_unchanged_iff caPlanned, Replica.outcome_eq_unchanged_iff filePlanned]
    constructor
    · rintro inPlace _ _ _ ⟨⟩
      exact inPlace
    · intro inPlace
      exact inPlace p client structured rfl

/-- Where its replicas are in place a mode has an intention, which settles them in silence. -/
theorem Mode.intent_of_inPlace (ctx : Context) (named : m.Named ctx.settings)
    (inPlace : ∀ w ∈ m.replicas ctx.settings, w.InPlace ctx.lookup) :
    ∃ i, m.intent ctx = .ok i ∧ i.plans = (m.replicas ctx.settings).map Wanted.settled ∧
      i.announcements = [] := by
  cases m with
  | keep => exact ⟨.keep, rfl, rfl, rfl⟩
  | reset =>
    simp only [Mode.replicas, List.forall_mem_cons] at inPlace
    obtain ⟨ca, file, -⟩ := inPlace
    have intended : Mode.reset.intent ctx = .ok _ :=
      intent_reset.mpr
        ⟨_, _, Replica.planOn_of_inPlace ca, Replica.planOn_of_inPlace file, rfl⟩
    exact ⟨_, intended, rfl, rfl⟩
  | derive p client structured =>
    simp only [Mode.replicas, List.forall_mem_cons] at inPlace
    obtain ⟨ca, file, -⟩ := inPlace
    have intended : (Mode.derive p client structured).intent ctx = .ok _ :=
      (intent_derive named).mpr
        ⟨_, _, Replica.planOn_of_inPlace ca, Replica.planOn_of_inPlace file, rfl⟩
    exact ⟨_, intended, rfl, derivedMessages_eq_nil_iff.mpr ⟨rfl, rfl⟩⟩

end ObservedConfig.ExternalOidc
