import ObservedConfig.Proofs.Replica.Content
import ObservedConfig.Proofs.Replica.Rules

/-! Plans and what carrying them out leads to. A replica is in place when it has the content of its
source, or is not there when it has none. Just then the plan for it has nothing to announce, and once
what a plan asked for has been carried out, the replica is in place. -/
namespace ObservedConfig

@[simp] theorem Location.isEmpty_empty : Location.empty.isEmpty = true := rfl

namespace Replica

/-- A replica that is wanted at a target. It is a copy of the source, of which one key counts, or
nothing if the source is empty. -/
structure Wanted where
  target : Location
  source : Location
  key : String

namespace Wanted

def planOn (lookup : Lookup) (w : Wanted) : Except ObserveError Plan :=
  if w.source.isEmpty then planRemoval lookup w.target
  else planSync lookup w.target w.source w.key

/-- The replica has the content of its source, or is not there when it has none. -/
def InPlace (lookup : Lookup) (w : Wanted) : Prop :=
  if w.source.isEmpty then lookup.configMap w.target = .ok none
  else needsSync lookup w.target w.source w.key = .ok false

/-- The plan for the replica when it is in place asks for a deletion or for nothing. -/
def settled (w : Wanted) : Plan :=
  ⟨w.target, if w.source.isEmpty then some .empty else none, .unchanged⟩

end Wanted

variable {lookup lookup' : Lookup} {w : Wanted} {plan : Plan}

theorem planOn_of_inPlace (inPlace : w.InPlace lookup) : w.planOn lookup = .ok w.settled := by
  unfold Wanted.InPlace at inPlace
  cases gone : w.source.isEmpty with
  | true =>
    simp only [gone, if_true] at inPlace
    simp [Wanted.planOn, Wanted.settled, gone, planRemoval, inPlace, bind, Except.bind, pure,
      Except.pure]
  | false =>
    simp only [gone, Bool.false_eq_true, if_false] at inPlace
    simp [Wanted.planOn, Wanted.settled, gone, planSync, inPlace, bind, Except.bind, pure,
      Except.pure]

inductive Planned (lookup : Lookup) (w : Wanted) : Plan → Prop where
  | settled (inPlace : w.InPlace lookup) : Planned lookup w w.settled
  | removal {object} (gone : w.source.isEmpty = true)
    (present : lookup.configMap w.target = .ok (some object)) :
    Planned lookup w ⟨w.target, some .empty, .removed⟩
  | copy (named : w.source.isEmpty = false)
    (stale : needsSync lookup w.target w.source w.key = .ok true) :
    Planned lookup w ⟨w.target, some w.source, .synced⟩

theorem planned (made : w.planOn lookup = .ok plan) : Planned lookup w plan := by
  cases gone : w.source.isEmpty with
  | true =>
    simp only [Wanted.planOn, gone, if_true, planRemoval, bind_eq_ok, pure_eq_ok] at made
    obtain ⟨found, present, rfl⟩ := made
    cases found with
    | none =>
      have inPlace : w.InPlace lookup := by simp [Wanted.InPlace, gone, present]
      simpa [Wanted.settled, gone] using Planned.settled inPlace
    | some object => exact .removal gone present
  | false =>
    simp only [Wanted.planOn, gone, Bool.false_eq_true, if_false, planSync, bind_eq_ok] at made
    obtain ⟨needed, compared, made⟩ := made
    cases needed with
    | true =>
      obtain rfl : ⟨w.target, some w.source, .synced⟩ = plan := by simpa [gone] using made
      exact .copy gone compared
    | false =>
      obtain rfl : ⟨w.target, none, .unchanged⟩ = plan := by simpa using made
      have inPlace : w.InPlace lookup := by simp [Wanted.InPlace, gone, compared]
      simpa [Wanted.settled, gone] using Planned.settled inPlace

/-- A plan announces something unless the replica is in place. -/
theorem outcome_eq_unchanged_iff (made : w.planOn lookup = .ok plan) :
    plan.outcome = .unchanged ↔ w.InPlace lookup := by
  cases planned made with
  | settled inPlace => simp [Wanted.settled, inPlace]
  | removal gone present => simp [Wanted.InPlace, gone, present]
  | copy named stale => simp [Wanted.InPlace, named, stale]

theorem target_of_planOn (made : w.planOn lookup = .ok plan) : plan.target = w.target := by
  cases planned made <;> rfl

/-- A wanted replica with the plan that was made for it on a cluster. -/
structure Arranged (lookup : Lookup) extends Wanted where
  plan : Plan
  made : toWanted.planOn lookup = .ok plan

def Arranged.plans {lookup : Lookup} (arranged : List (Arranged lookup)) : List Plan :=
  arranged.map (·.plan)

theorem Arranged.plan_target (a : Arranged lookup) : a.plan.target = a.target :=
  target_of_planOn a.made

theorem source_of_planOn (made : w.planOn lookup = .ok plan) {asked : Location}
    (request : plan.request = some asked) (named : asked.isEmpty = false) : asked = w.source := by
  cases planned made with
  | settled =>
    cases gone : w.source.isEmpty with
    | true =>
      obtain rfl : Location.empty = asked := by simpa [Wanted.settled, gone] using request
      cases named
    | false => simp [Wanted.settled, gone] at request
  | removal =>
    obtain rfl : Location.empty = asked := by simpa using request
    cases named
  | copy => simpa using request.symm

/-- A replica in place asks for no more than was asked for to bring it there. -/
theorem InForce.settled {rules : Rules} (made : w.planOn lookup = .ok plan)
    (inForce : InForce rules plan) : InForce rules w.settled := by
  intro asked request
  cases planned made with
  | settled => exact inForce asked request
  | removal gone => exact inForce asked (by simpa [Wanted.settled, gone] using request)
  | copy named => simp [Wanted.settled, named] at request

/-- What a cluster has at a target after the request of a plan was carried out. -/
def Carries (lookup lookup' : Lookup) (plan : Plan) : Prop :=
  match plan.request with
  | none => lookup'.configMap plan.target = lookup.configMap plan.target
  | some source =>
    if source.isEmpty then lookup'.configMap plan.target = .ok none
    else ∃ object, lookup.configMap source = .ok (some object) ∧
      lookup'.configMap plan.target = .ok (some (copied plan.target object))

/-- A source that is to be copied is there and holds the key that is compared, if one is. -/
def Held (lookup : Lookup) (source : Location) (key : String) : Prop :=
  ∃ object, lookup.configMap source = .ok (some object) ∧
    (key ≠ "" → (Entries.find? key object.texts).isSome)

/-- Once the request for a replica was carried out the replica is in place. -/
theorem inPlace_of_carries (made : w.planOn lookup = .ok plan)
    (carries : Carries lookup lookup' plan)
    (untouched : w.source.isEmpty = false →
      lookup'.configMap w.source = lookup.configMap w.source)
    (held : plan.request = some w.source → w.source.isEmpty = false →
      Held lookup w.source w.key) : w.InPlace lookup' := by
  cases planned made with
  | settled inPlace =>
    unfold Wanted.InPlace at inPlace ⊢
    cases gone : w.source.isEmpty with
    | true => simpa [Carries, Wanted.settled, gone] using carries
    | false =>
      have same : lookup'.configMap w.target = lookup.configMap w.target := by
        simpa [Carries, Wanted.settled, gone] using carries
      simp only [gone, Bool.false_eq_true, if_false] at inPlace ⊢
      rwa [needsSync, same, untouched gone]
  | removal gone present => simpa [Carries, Wanted.InPlace, gone] using carries
  | copy named stale =>
    obtain ⟨object, found, keyed⟩ := held rfl named
    obtain ⟨object', found', replica⟩ : ∃ object, lookup.configMap w.source = .ok (some object) ∧
        lookup'.configMap w.target = .ok (some (copied w.target object)) := by
      simpa [Carries, named] using carries
    obtain rfl : object = object' := by simpa [found] using found'
    have kept : lookup'.configMap w.source = .ok (some object) := (untouched named).trans found
    have keyed : Keyed object.texts (some w.key) := by
      rintro k ⟨⟩ filled
      exact keyed filled
    have inSync : needsSync lookup' w.target w.source w.key = .ok false := by
      rw [needsSync_of_found replica named kept, texts_copied, differs_self keyed]
    simpa [Wanted.InPlace, named] using inSync

end Replica

end ObservedConfig
