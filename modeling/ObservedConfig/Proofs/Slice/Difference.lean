import ObservedConfig.Proofs.Tree.Restricting
import ObservedConfig.Proofs.Tree.Sequence
import ObservedConfig.Slice

/-! Comparing slices. The comparison reads the sequences at the owned paths in order, so it depends
on those readings alone, and its fragment is the candidate cut down to the owned paths. -/
namespace ObservedConfig

namespace Slice

theorem differs_congr {existing existing' fragment : Tree} {paths : List Path}
    (same : ∀ path ∈ paths, existing.getList path = existing'.getList path) :
    differs existing fragment paths = differs existing' fragment paths := by
  induction paths with
  | nil => rfl
  | cons path rest ih =>
    obtain ⟨here, later⟩ := List.forall_mem_cons.mp same
    simp only [differs, here, ih later]

theorem diff_congr {existing existing' candidate : Tree} {owned : List Path}
    (same : ∀ path ∈ owned, existing.getList path = existing'.getList path) :
    diff existing candidate owned = diff existing' candidate owned := by
  simp only [diff, differs_congr same]

theorem differs_cons {existing fragment : Tree} {path : Path}
    {current desired : Option (List String)} (read : existing.getList path = .ok current)
    (wanted : fragment.getList path = .ok desired) (rest : List Path) :
    differs existing fragment (path :: rest) =
      if present current = desired then differs existing fragment rest else .ok true := by
  by_cases same : present current = desired <;>
    simp [differs, read, wanted, same, bind, Except.bind, pure, Except.pure]

theorem differs_of_same {existing fragment : Tree} {paths : List Path}
    (same : ∀ path ∈ paths, ∃ current desired, existing.getList path = .ok current ∧
      fragment.getList path = .ok desired ∧ present current = desired) :
    differs existing fragment paths = .ok false := by
  induction paths with
  | nil => rfl
  | cons path rest ih =>
    obtain ⟨⟨current, desired, foundCurrent, foundDesired, equal⟩, later⟩ :=
      List.forall_mem_cons.mp same
    simp [differs, foundCurrent, foundDesired, equal, ih later, bind, Except.bind]

theorem diff_eq_ok {existing candidate : Tree} {owned : List Path} {outcome : Outcome} :
    diff existing candidate owned = .ok outcome ↔
      candidate.prunedTo owned = .ok outcome.fragment ∧
        differs existing outcome.fragment owned = .ok outcome.changed := by
  unfold diff
  cases cut : candidate.prunedTo owned with
  | error => simp [bind, Except.bind]
  | ok f =>
    cases verdict : differs existing f owned with
    | error fault =>
      simp only [verdict, bind, Except.bind, reduceCtorEq, Except.ok.injEq, false_iff, not_and]
      rintro rfl
      simp [verdict]
    | ok changed =>
      simp only [verdict, bind, Except.bind, pure, Except.pure, Except.ok.injEq]
      constructor
      · rintro rfl
        exact ⟨rfl, verdict⟩
      · rintro ⟨rfl, same⟩
        rw [verdict] at same
        cases same
        rfl

theorem diff_eq_error {existing candidate f : Tree} {owned : List Path}
    (cut : candidate.prunedTo owned = .ok f) {fault : Tree.Fault} :
    diff existing candidate owned = .error fault ↔ differs existing f owned = .error fault := by
  cases verdict : differs existing f owned <;>
    simp [diff, cut, verdict, bind, Except.bind, pure, Except.pure]

/-- The fragment of a comparison is the candidate cut down to the owned paths. -/
theorem restricts_of_diff {existing candidate : Tree} {owned : List Path} {outcome : Outcome}
    (sorted : Tree.Sorted candidate) (compared : diff existing candidate owned = .ok outcome) :
    candidate.Restricts owned outcome.fragment := by
  obtain ⟨f, cut, restricts⟩ := Tree.exists_prunedTo sorted owned
  have same := (diff_eq_ok.mp compared).1
  rw [cut] at same
  cases same
  exact restricts

end Slice

end ObservedConfig
