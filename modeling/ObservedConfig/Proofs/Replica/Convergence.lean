import ObservedConfig.Proofs.Replica.InPlace
import ObservedConfig.Proofs.Replica.Requests
import ObservedConfig.Proofs.Replica.Settlement

/-! Rules bring replicas into place. When plans were made for a list of wanted replicas and all of
them were accepted, applying the rules once leaves every replica in place. What stands elsewhere, the
sources included, is as it was. -/
namespace ObservedConfig.Replica

/-- No target is wanted twice, and no source that is to be copied is a target. -/
structure Apart {lookup : Lookup} (arranged : List (Arranged lookup)) : Prop where
  targets : arranged.Pairwise fun a b => a.target ≠ b.target
  sources : ∀ a ∈ arranged, a.source.isEmpty = false → ∀ b ∈ arranged, a.source ≠ b.target

def Run.cluster (run : Run) (former : Snapshot) : Snapshot :=
  { former with configMaps := run.server.configMaps }

section Requested
variable {lookup : Lookup} {arranged : List (Arranged lookup)} {a : Arranged lookup} {rules : Rules}
  {namespaceName : String}

theorem Apart.plans (apart : Apart arranged) :
    (Arranged.plans arranged).Pairwise fun a b => a.target ≠ b.target := by
  simpa [Arranged.plans, List.pairwise_map, Arranged.plan_target] using apart.targets

theorem Apart.find?_target (apart : Apart arranged) (member : a ∈ arranged) :
    arranged.find? (fun b => b.target = a.target) = some a := by
  have targets := apart.targets
  clear apart
  induction arranged with
  | nil => cases member
  | cons first rest ih =>
    obtain ⟨different, later⟩ := List.pairwise_cons.mp targets
    rcases List.mem_cons.mp member with rfl | member
    · simp
    · simp [different a member, ih member later]

variable (apart : Apart arranged)
  (issued : Decision.issueAll (Arranged.plans arranged) (.empty namespaceName) = (.ok (), rules))
include apart issued

theorem Apart.source?_eq (place : Location) :
    rules.source? place = (arranged.find? fun a => a.target = place).bind (·.plan.request) := by
  have nothing : (Rules.empty namespaceName).source? place = none := rfl
  rw [source?_issueAll apart.plans issued, nothing, Option.or_none, Arranged.plans, List.find?_map]
  simp only [Function.comp_def, Arranged.plan_target]
  cases arranged.find? fun a => a.target = place <;> rfl

theorem Apart.source?_target (member : a ∈ arranged) :
    rules.source? a.target = a.plan.request := by
  rw [apart.source?_eq issued, apart.find?_target member, Option.bind_some]

theorem Apart.exists_of_source? {place source : Location}
    (inForce : rules.source? place = some source) :
    ∃ a ∈ arranged, a.target = place ∧ a.plan.request = some source := by
  rw [apart.source?_eq issued, Option.bind_eq_some_iff] at inForce
  obtain ⟨a, found, request⟩ := inForce
  exact ⟨a, List.mem_of_find?_eq_some found, by simpa using List.find?_some found, request⟩

/-- The rules are in order, and no source of one is the target of one. -/
theorem Apart.source_not_target :
    Entries.Sorted rules.sources ∧
      ∀ a ∈ rules.sources, a.2.isEmpty = false → ∀ b ∈ rules.sources, a.2 ≠ b.1 := by
  have start : Entries.Sorted (Rules.empty namespaceName).sources := List.Pairwise.nil
  have sorted : Entries.Sorted rules.sources := sorted_issueAll start issued
  have inForce : ∀ rule ∈ rules.sources, rules.source? rule.1 = some rule.2 :=
    fun rule member => sorted.find?_of_mem Location.lt_asymmetric member
  refine ⟨sorted, fun a member named b other => ?_⟩
  obtain ⟨copied, wantedCopied, -, request⟩ := apart.exists_of_source? issued (inForce a member)
  obtain ⟨target, wantedTarget, here, -⟩ := apart.exists_of_source? issued (inForce b other)
  have source := source_of_planOn copied.made request named
  rw [source, ← here]
  exact apart.sources copied wantedCopied (source ▸ named) target wantedTarget

/-- Rules that were made for replicas have in force what is asked for once these are in place. -/
theorem Apart.inForce_settled :
    ∀ plan ∈ (arranged.map (·.toWanted)).map Wanted.settled, InForce rules plan := by
  intro plan member
  rw [List.map_map] at member
  obtain ⟨a, listed, rfl⟩ := List.mem_map.mp member
  have inForce := inForce_of_issueAll apart.plans issued a.plan (List.mem_map_of_mem listed)
  exact inForce.settled a.made

end Requested

section Applied
variable {cluster : Snapshot} {refusal : List Request → Request → Option ApiStatus}
  {arranged : List (Arranged cluster.lookup)} {rules : Rules} {namespaceName : String} {run : Run}
  (apart : Apart arranged)
  (issued : Decision.issueAll (Arranged.plans arranged) (.empty namespaceName) = (.ok (), rules))
  (sincere : Server.Sincere ⟨cluster.configMaps, refusal⟩)
  (applied : rules.apply ⟨cluster.configMaps, refusal⟩ = (.ok (), run))
include apart issued sincere applied

theorem Apart.configMap?_of_apply (place : Location) :
    (run.cluster cluster).configMap? place =
      match rules.source? place with
      | none => cluster.configMap? place
      | some source => replica? cluster.configMaps place source := by
  obtain ⟨sorted, sources⟩ := apart.source_not_target issued
  have targets : rules.sources.Pairwise fun a b => a.1 ≠ b.1 := by
    refine sorted.imp fun less same => ?_
    rw [same] at less
    exact Location.lt_irreflexive _ less
  have settled := settled_of_apply ⟨targets, sources⟩
    (fun _ _ r _ sent => sincere.truthful sent r) applied
  cases inForce : rules.source? place with
  | none =>
    refine settled.untouched place fun rule member same => ?_
    have found := sorted.find?_of_mem Location.lt_asymmetric member
    rw [← same, ← Rules.source?, inForce] at found
    cases found
  | some source =>
    exact (settled_iff.mp settled).1 (place, source) (Entries.mem_of_find? inForce)

theorem Apart.untouched {place : Location} (other : ∀ a ∈ arranged, place ≠ a.target) :
    (run.cluster cluster).lookup.configMap place = cluster.lookup.configMap place := by
  have none : rules.source? place = none := by
    cases inForce : rules.source? place with
    | none => rfl
    | some source =>
      obtain ⟨a, member, here, -⟩ := apart.exists_of_source? issued inForce
      exact absurd here.symm (other a member)
  have after := apart.configMap?_of_apply issued sincere applied place
  rw [none] at after
  exact congrArg Except.ok after

/-- One application of the rules brings every replica into place, when the sources that are copied
hold the keys that are compared. -/
theorem Apart.inPlace_of_apply
    (held : ∀ a ∈ arranged, ∀ source, rules.source? a.target = some source →
      source.isEmpty = false → Held cluster.lookup source a.key) {a : Arranged cluster.lookup}
    (member : a ∈ arranged) : a.InPlace (run.cluster cluster).lookup := by
  have inForce := apart.source?_target issued member
  have after := apart.configMap?_of_apply issued sincere applied a.target
  rw [inForce] at after
  have carries : Carries cluster.lookup (run.cluster cluster).lookup a.plan := by
    unfold Carries
    rw [a.plan_target]
    cases request : a.plan.request with
    | none =>
      rw [request] at after
      exact congrArg Except.ok after
    | some source =>
      rw [request] at after inForce
      cases gone : source.isEmpty with
      | true =>
        simp only [replica?, gone, if_true] at after ⊢
        exact congrArg Except.ok after
      | false =>
        obtain ⟨object, found, -⟩ := held a member source inForce gone
        have present : Entries.find? source cluster.configMaps = some object :=
          Except.ok.inj found
        simp only [replica?, gone, Bool.false_eq_true, if_false, present, Option.map_some]
          at after ⊢
        exact ⟨object, found, congrArg Except.ok after⟩
  refine inPlace_of_carries a.made carries (fun named => ?_) fun request named => ?_
  · exact apart.untouched issued sincere applied (apart.sources a member named)
  · exact held a member a.source (inForce.trans request) named

end Applied

end ObservedConfig.Replica
