import ObservedConfig.Proofs.Location
import ObservedConfig.Proofs.Replica.Acceptance

/-! Rules as the record of a history of requests. After any requests to rules that were empty at
first, the source of a target is that of its last accepted request, and the generation counts the
accepted requests that changed something. -/
namespace ObservedConfig.Replica

/-- Targets with the sources that are asked for; the latest request comes first. -/
abbrev Requests := List (Location × Location)

def Targetable (namespaceName : String) (target : Location) : Prop :=
  target.namespaceName = namespaceName ∧ target.isEmpty = false

instance (namespaceName : String) (target : Location) :
    Decidable (Targetable namespaceName target) :=
  inferInstanceAs (Decidable (_ ∧ _))

namespace Requests

def rules (namespaceName : String) : Requests → Rules
  | [] => .empty namespaceName
  | (target, source) :: earlier => (Syncer.request (rules namespaceName earlier) target source).2

def accepted (namespaceName : String) (requests : Requests) : Requests :=
  requests.filter fun request => Targetable namespaceName request.1

/-- The number of accepted requests whose source was not in force already. -/
def changes (namespaceName : String) : Requests → Nat
  | [] => 0
  | (target, source) :: earlier =>
    if Targetable namespaceName target ∧
        Entries.find? target (accepted namespaceName earlier) ≠ some source
    then changes namespaceName earlier + 1
    else changes namespaceName earlier

theorem accepted_cons_of_targetable {namespaceName : String} {target : Location}
    (targetable : Targetable namespaceName target) (source : Location) (earlier : Requests) :
    accepted namespaceName ((target, source) :: earlier) =
      (target, source) :: accepted namespaceName earlier := by
  simp [accepted, targetable]

theorem accepted_cons_of_not {namespaceName : String} {target : Location}
    (refused : ¬ Targetable namespaceName target) (source : Location) (earlier : Requests) :
    accepted namespaceName ((target, source) :: earlier) = accepted namespaceName earlier := by
  simp [accepted, refused]

end Requests

/-- All that one request can come to. -/
inductive Requested (rules : Rules) (target source : Location) :
    Except ObserveError Unit × Rules → Prop where
  | rejected {e} (refused : ¬ Targetable rules.namespaceName target) :
    Requested rules target source (.error e, rules)
  | repeated (targetable : Targetable rules.namespaceName target)
    (inForce : rules.source? target = some source) : Requested rules target source (.ok (), rules)
  | changed (targetable : Targetable rules.namespaceName target)
    (differs : rules.source? target ≠ some source) :
    Requested rules target source (.ok (), { rules with
      sources := Entries.insert target source rules.sources
      generation := rules.generation + 1 })

theorem requested (rules : Rules) (target source : Location) :
    Requested rules target source (Syncer.request rules target source) := by
  cases rejection : rules.rejection? target with
  | some e =>
    have answer : Syncer.request rules target source = (.error e, rules) := by
      simp [Syncer.request, Rules.request, rejection]
    rw [answer]
    refine .rejected fun targetable => ?_
    rw [Rules.rejection?_eq_none_iff.mpr targetable] at rejection
    cases rejection
  | none =>
    have targetable : Targetable rules.namespaceName target :=
      Rules.rejection?_eq_none_iff.mp rejection
    by_cases inForce : rules.source? target = some source
    · have answer : Syncer.request rules target source = (.ok (), rules) := by
        simp [Syncer.request, Rules.request, rejection, inForce]
      rw [answer]
      exact .repeated targetable inForce
    · have answer : Syncer.request rules target source = (.ok (), { rules with
          sources := Entries.insert target source rules.sources
          generation := rules.generation + 1 }) := by
        simp [Syncer.request, Rules.request, rejection, inForce]
      rw [answer]
      exact .changed targetable inForce

theorem sorted_insert_location (place source : Location) {sources : List (Location × Location)}
    (sorted : Entries.Sorted sources) : Entries.Sorted (Entries.insert place source sources) :=
  Entries.sorted_insert (fun _ _ _ => Location.lt_trans) Location.lt_connected place source sorted

theorem sorted_issueAll {plans : List Plan} {rules rules' : Rules}
    {result : Except ObserveError Unit} (sorted : Entries.Sorted rules.sources)
    (issued : Decision.issueAll plans rules = (result, rules')) : Entries.Sorted rules'.sources := by
  induction plans generalizing rules with
  | nil =>
    cases issued
    exact sorted
  | cons plan rest ih =>
    have next : Entries.Sorted (plan.issue rules).2.sources := by
      unfold Plan.issue
      split
      · exact sorted
      next source request =>
        have answer := requested rules plan.target source
        generalize Syncer.request rules plan.target source = outcome at answer
        cases answer with
        | rejected | repeated => exact sorted
        | changed => exact sorted_insert_location _ _ sorted
    unfold Decision.issueAll at issued
    split at issued
    next refused =>
      cases issued
      rwa [refused] at next
    next accepted =>
      rw [accepted] at next
      exact ih next issued

/-- Plans for different targets give each target the rule that is asked for. -/
theorem source?_issueAll {plans : List Plan} {rules rules' : Rules}
    (apart : plans.Pairwise fun a b => a.target ≠ b.target)
    (issued : Decision.issueAll plans rules = (.ok (), rules')) (place : Location) :
    rules'.source? place =
      ((plans.find? fun plan => plan.target = place).bind (·.request)).or (rules.source? place) := by
  induction plans generalizing rules with
  | nil =>
    cases issued
    rfl
  | cons plan rest ih =>
    obtain ⟨different, later⟩ := List.pairwise_cons.mp apart
    obtain ⟨middle, first, last⟩ := issueAll_cons issued
    have here : middle.source? place =
        if place = plan.target then plan.request.or (rules.source? place)
        else rules.source? place := by
      rcases issue_cases first with ⟨none, rfl⟩ | ⟨source, request, accepted⟩
      · simp [none]
      · rw [(Rules.request_eq_ok accepted).2.2]
        simp [request]
    rw [ih later last, here]
    by_cases same : plan.target = place
    · subst same
      have gone : rest.find? (fun other => other.target = plan.target) = none := by
        rw [List.find?_eq_none]
        intro other member
        simpa using (different other member).symm
      simp [gone]
    · simp [same, Ne.symm same]

/-- What rules record of requests. -/
structure Records (namespaceName : String) (requests : Requests) (rules : Rules) : Prop where
  namespaceName_eq : rules.namespaceName = namespaceName
  /-- Every rule has a target in the namespace with a name. -/
  targets : ∀ rule ∈ rules.sources, rule.1.namespaceName = namespaceName ∧ rule.1.name ≠ ""
  /-- The rules are listed in strictly increasing order of their targets. -/
  sorted : Entries.Sorted rules.sources
  /-- In force is what the last accepted request for a target said. -/
  source : ∀ target,
    rules.source? target = Entries.find? target (requests.accepted namespaceName)
  generation : rules.generation.toNat = requests.changes namespaceName % UInt64.size

theorem toNat_next (generation : UInt64) {count : Nat}
    (counted : generation.toNat = count % UInt64.size) :
    (generation + 1).toNat = (count + 1) % UInt64.size := by
  have size : UInt64.size = 18446744073709551616 := rfl
  have one : (1 : UInt64).toNat = 1 := rfl
  rw [UInt64.toNat_add, counted, size, one]
  omega

variable {namespaceName : String} {requests : Requests} {rules rules' : Rules}

theorem Records.start (namespaceName : String) : Records namespaceName [] (.empty namespaceName) where
  namespaceName_eq := rfl
  targets := by simp [Rules.empty]
  sorted := List.Pairwise.nil
  source _ := rfl
  generation := rfl

theorem Records.request (records : Records namespaceName requests rules) {target source : Location}
    {result : Except ObserveError Unit} (requested : Requested rules target source (result, rules')) :
    Records namespaceName ((target, source) :: requests) rules' := by
  have here := records.namespaceName_eq
  cases requested with
  | rejected refused =>
    rw [here] at refused
    have same := Requests.accepted_cons_of_not refused source requests
    exact { records with
      source := fun place => by rw [same, records.source]
      generation := by simpa [Requests.changes, refused] using records.generation }
  | repeated targetable inForce =>
    rw [here] at targetable
    have grown := Requests.accepted_cons_of_targetable targetable source requests
    have known : Entries.find? target (requests.accepted namespaceName) = some source := by
      rw [← records.source, inForce]
    refine { records with source := fun place => ?_, generation := ?_ }
    · rw [grown, Entries.find?_cons, records.source]
      split
      next equal => rw [equal, known]
      next => rfl
    · simpa [Requests.changes, known] using records.generation
  | changed targetable differs =>
    rw [here] at targetable
    have grown := Requests.accepted_cons_of_targetable targetable source requests
    have news : Entries.find? target (requests.accepted namespaceName) ≠ some source := by
      rwa [← records.source]
    refine ⟨here, ?_, sorted_insert_location _ _ records.sorted, fun place => ?_, ?_⟩
    · intro rule member
      rcases Entries.mem_insert member with rfl | former
      · exact ⟨targetable.1, by simpa [Location.isEmpty] using targetable.2⟩
      · exact records.targets rule former
    · rw [grown, Entries.find?_cons]
      split
      next equal =>
        subst equal
        exact Entries.find?_insert_same _ _ _
      next different => exact (Entries.find?_insert_other different _ _).trans (records.source place)
    · simpa [Requests.changes, targetable, news] using toNat_next _ records.generation

theorem Requests.records (namespaceName : String) (requests : Requests) :
    Records namespaceName requests (requests.rules namespaceName) := by
  induction requests with
  | nil => exact .start namespaceName
  | cons request earlier ih => exact ih.request (requested _ _ _)

end ObservedConfig.Replica
