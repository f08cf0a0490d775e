import ObservedConfig.Location
import ObservedConfig.Proofs.Entries

/-! Locations in order. They are ordered strictly and linearly, and pairs of them by their first
locations and, where these are the same, by their second ones. -/
namespace ObservedConfig

namespace Location

theorem lt_trans {a b c : Location} (first : a < b) (second : b < c) : a < c := by
  rcases first with spaces | ⟨sameSpace, names⟩ <;>
    rcases second with spaces' | ⟨sameSpace', names'⟩
  · exact .inl (String.lt_trans spaces spaces')
  · exact .inl (sameSpace' ▸ spaces)
  · exact .inl (sameSpace ▸ spaces')
  · exact .inr ⟨sameSpace.trans sameSpace', String.lt_trans names names'⟩

theorem lt_asymmetric (a b : Location) (less : a < b) : ¬ b < a := by
  rintro (spaces' | ⟨sameSpace', names'⟩) <;> rcases less with spaces | ⟨sameSpace, names⟩
  · exact String.lt_asymm spaces spaces'
  · exact String.lt_irrefl _ (sameSpace ▸ spaces')
  · exact String.lt_irrefl _ (sameSpace' ▸ spaces)
  · exact String.lt_asymm names names'

theorem lt_irreflexive (a : Location) : ¬ a < a := fun less => lt_asymmetric a a less less

theorem lt_connected (a b : Location) (different : a ≠ b) (notLess : ¬ a < b) : b < a := by
  by_cases sameSpace : a.namespaceName = b.namespaceName
  · have names : a.name ≠ b.name := by
      intro sameName
      cases a
      cases b
      simp_all
    exact .inr ⟨sameSpace.symm,
      Entries.lt_connected _ _ names fun less => notLess (.inr ⟨sameSpace, less⟩)⟩
  · exact .inl (Entries.lt_connected _ _ sameSpace fun less => notLess (.inl less))

def pairPrecedes (a b : Location × Location) : Bool :=
  a.1 < b.1 ∨ (a.1 = b.1 ∧ ¬ b.2 < a.2)

theorem pairPrecedes_trans (a b c : Location × Location) (first : pairPrecedes a b)
    (second : pairPrecedes b c) : pairPrecedes a c := by
  simp only [pairPrecedes, decide_eq_true_eq] at first second ⊢
  rcases first with less | ⟨same, notLess⟩ <;> rcases second with less' | ⟨same', notLess'⟩
  · exact .inl (lt_trans less less')
  · exact .inl (same' ▸ less)
  · exact .inl (same ▸ less')
  · refine .inr ⟨same.trans same', fun back => ?_⟩
    by_cases equal : b.2 = c.2
    · exact notLess (equal ▸ back)
    · exact notLess (lt_trans (lt_connected _ _ (Ne.symm equal) notLess') back)

theorem pairPrecedes_total (a b : Location × Location) : pairPrecedes a b || pairPrecedes b a := by
  simp only [pairPrecedes, Bool.or_eq_true, decide_eq_true_eq]
  by_cases same : a.1 = b.1
  · by_cases less : b.2 < a.2
    · exact .inr (.inr ⟨same.symm, lt_asymmetric _ _ less⟩)
    · exact .inl (.inr ⟨same, less⟩)
  · by_cases less : a.1 < b.1
    · exact .inl (.inl less)
    · exact .inr (.inl (lt_connected _ _ same less))

theorem pairPrecedes_antisymm {a b : Location × Location} (first : pairPrecedes a b)
    (second : pairPrecedes b a) : a = b := by
  simp only [pairPrecedes, decide_eq_true_eq] at first second
  rcases first with less | ⟨same, notLess⟩ <;> rcases second with less' | ⟨same', notLess'⟩
  · exact absurd less' (lt_asymmetric _ _ less)
  · exact absurd (same' ▸ less) (lt_irreflexive _)
  · exact absurd (same ▸ less') (lt_irreflexive _)
  · refine Prod.ext same ?_
    by_cases equal : a.2 = b.2
    · exact equal
    · exact absurd (lt_connected _ _ equal notLess') notLess

end Location

/-- Locations sorted by their keys are listed in whatever order they are sorted from. -/
theorem Entries.Sorted.mergeSort_eq {entries listed : List (Location × Location)}
    (sorted : Sorted entries) (same : listed.Perm entries) :
    listed.mergeSort Location.pairPrecedes = entries := by
  have ordered := List.pairwise_mergeSort Location.pairPrecedes_trans Location.pairPrecedes_total
    listed
  have inOrder : entries.Pairwise fun a b => Location.pairPrecedes a b = true :=
    List.Pairwise.imp (fun less => by simp [Location.pairPrecedes, less]) sorted
  apply List.Perm.eq_of_pairwise _ ordered inOrder ((List.mergeSort_perm _ _).trans same)
  intro a b _ _ first second
  exact Location.pairPrecedes_antisymm first second

end ObservedConfig
