import ObservedConfig.Proofs.Slice.Merging
import ObservedConfig.Proofs.Slice.Verdict
import ObservedConfig.Proofs.Tree.Equality

/-! Comparing and merging agree. A comparison looks at single sequences and stops at the first that
differs, while merging clears, joins and prunes whole trees. Still a change is reported exactly when
merging the fragment changes the tree. -/
namespace ObservedConfig

namespace Slice

section Agreement
variable {existing candidate : Tree} {owned : List Path} {outcome : Outcome}

/-- Where a change is reported, some owned path holds another sequence than in the fragment. -/
theorem exists_departure (compared : diff existing candidate owned = .ok outcome)
    (changed : outcome.changed = true) : ∃ path ∈ owned,
      ((existing.get? path).bind Node.kept).bind Node.list? ≠
        (outcome.fragment.get? path).bind Node.list? := by
  have read := (diff_eq_ok.mp compared).2
  rw [changed, differs_eq_first (by simp)] at read
  obtain ⟨before, path, after, rfl, -, departs⟩ := read
  obtain ⟨readable, readableFragment, differ⟩ := verdict_eq_ok.mp departs
  exact ⟨path, by simp, fun lists =>
    differ.mp rfl (kept_eq_of_lists readable readableFragment lists)⟩

/-- Merging the fragment of a change puts another sequence somewhere. -/
theorem exists_other_list (sorted : Tree.Sorted existing) (sortedCandidate : Tree.Sorted candidate)
    (nonempty : [] ∉ owned) (compared : diff existing candidate owned = .ok outcome)
    (changed : outcome.changed = true) :
    ∃ m, mergeOwned existing [(owned, outcome.fragment)] = .ok m ∧
      ∃ p, (m.get? p).bind Node.list? ≠ (Tree.get? (Tree.pruned existing) p).bind Node.list? := by
  have restricts := restricts_of_diff sortedCandidate compared
  have sortedFragments : ∀ c ∈ [(owned, outcome.fragment)], Tree.Sorted c.2 := by
    simpa using restricts.sorted
  obtain ⟨m, merged, merges⟩ :=
    exists_mergeOwned sorted sortedFragments (List.pairwise_singleton _ _)
  obtain ⟨p, member, differ⟩ := exists_departure compared changed
  have covered : Path.Covered owned p :=
    ⟨p, member, fun root => nonempty (root ▸ member), List.prefix_rfl⟩
  refine ⟨m, merged, p, fun lists => differ ?_⟩
  rw [merges.get?_owned sortedFragments List.mem_cons_self covered,
    ← Tree.get?_pruned restricts.sorted, Tree.pruned_eq_self restricts.pruned,
    Tree.get?_pruned sorted] at lists
  exact lists.symm

/-- Without a change the fragment holds what the owned paths hold already. -/
theorem mergeOwned_of_unchanged (sorted : Tree.Sorted existing)
    (sortedCandidate : Tree.Sorted candidate) (nonempty : [] ∉ owned)
    (compared : diff existing candidate owned = .ok outcome) (unchanged : outcome.changed = false) :
    mergeOwned existing [(owned, outcome.fragment)] = .ok (Tree.pruned existing) := by
  have restricts := restricts_of_diff sortedCandidate compared
  refine mergeOwned_self sorted (by simpa using restricts.sorted) ?_
  simp only [List.mem_singleton, forall_eq]
  rintro _ ⟨p, member, -, rest, rfl⟩
  have inside : p ≠ [] := fun root => nonempty (root ▸ member)
  have same := ((unchanged_iff compared).mp unchanged p member).same
  rw [← Tree.content?_pruned sorted, Tree.content?_append _ inside,
    Tree.content?_append _ inside, Tree.get?_pruned sorted, same]

/-- A change is reported exactly when the owned slice of the fragment is not the committed one. -/
theorem changed_iff_slice_differs (sorted : Tree.Sorted existing) (nonempty : [] ∉ owned)
    (compared : diff existing candidate owned = .ok outcome) : outcome.changed = true ↔
      ∃ q, Path.Covered owned q ∧
        outcome.fragment.get? q ≠ Tree.get? (Tree.pruned existing) q := by
  constructor
  · intro changed
    obtain ⟨p, member, differ⟩ := exists_departure compared changed
    refine ⟨p, ⟨p, member, fun root => nonempty (root ▸ member), List.prefix_rfl⟩, fun same => ?_⟩
    rw [same, Tree.get?_pruned sorted] at differ
    exact differ rfl
  · rintro ⟨_, ⟨p, member, inside, rest, rfl⟩, differ⟩
    rw [← Bool.not_eq_false]
    intro unchanged
    have same := ((unchanged_iff compared).mp unchanged p member).same
    rw [← Tree.get?_pruned sorted] at same
    rw [Tree.get?_append _ inside, Tree.get?_append _ inside, same] at differ
    exact differ rfl

/-- How the outcome of a comparison goes with the merge of its fragment. -/
structure Reflects (existing candidate : Tree) (owned : List Path) (outcome : Outcome) : Prop where
  /-- Under the equality of trees, which is numeric, a tree with a NaN differs from itself as
  well. -/
  merge : ∃ m, mergeOwned existing [(owned, outcome.fragment)] = .ok m ∧
    (outcome.changed = true ↔ m ≠ Tree.pruned existing) ∧
    (Tree.same m (Tree.pruned existing) = true ↔ outcome.changed = false ∧ existing.NaNFree)
  below : ∀ p ∈ owned, ∀ q, p <+: q →
    outcome.fragment.get? q = Tree.get? (Tree.pruned candidate) q
  /-- Outside the owned paths there is nothing but the way to them. -/
  elsewhere : ∀ q node, outcome.fragment.get? q = some node → (∀ p ∈ owned, ¬ p <+: q) →
    node.isLeaf = false ∧ ∃ p ∈ owned, q <+: p

/-- A change is reported exactly when putting the fragment in the place of the owned paths changes
the tree, and the fragment is the pruned candidate below these paths and nothing else. -/
theorem reflects_of_diff (sorted : Tree.Sorted existing) (sortedCandidate : Tree.Sorted candidate)
    (nonempty : [] ∉ owned) (compared : diff existing candidate owned = .ok outcome) :
    Reflects existing candidate owned outcome := by
  have restricts := restricts_of_diff sortedCandidate compared
  refine ⟨?_, ?_, ?_⟩
  · cases changed : outcome.changed with
    | true =>
      obtain ⟨m, merged, p, differ⟩ :=
        exists_other_list sorted sortedCandidate nonempty compared changed
      have other : m ≠ Tree.pruned existing := fun same => differ (by rw [same])
      have unequal : ¬ Tree.same m (Tree.pruned existing) = true := fun same =>
        differ (Tree.list?_of_same same p)
      exact ⟨m, merged, by simp [other], by simp [unequal]⟩
    | false =>
      have merged := mergeOwned_of_unchanged sorted sortedCandidate nonempty compared changed
      refine ⟨_, merged, by simp, ?_⟩
      rw [Tree.same_self_iff (Tree.sorted_pruned sorted), Tree.naNFree_pruned sorted]
      simp
  · intro p member q below
    have covered : Path.Covered owned q :=
      ⟨p, member, fun root => nonempty (root ▸ member), below⟩
    rw [restricts.get? sortedCandidate covered, Tree.get?_pruned sortedCandidate]
  · intro q node found apart
    exact restricts.elsewhere found fun ⟨p, member, _, below⟩ => apart p member below

end Agreement

end Slice

end ObservedConfig
