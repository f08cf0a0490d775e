import ObservedConfig.Proofs.Slice.Merging

/-! Leaves that nobody owns. Merging keeps a leaf of the committed configuration at a path that is
not owned unless a fragment brings content past it. Then the leaf gives way to the tree that leads
there. Owned paths may overlap in any way. -/
namespace ObservedConfig

/-- A covered path near one that is not covered goes on past it. -/
theorem Path.Covered.past {paths : List Path} {p q : Path} (covered : Covered paths p)
    (uncovered : ¬ Covered paths q) (comparable : Comparable p q) :
    ∃ name rest, p = q ++ name :: rest := by
  rcases comparable with ⟨rest, rfl⟩ | ⟨rest, rfl⟩
  · exact absurd (covered.append rest) uncovered
  · cases rest with
    | nil => exact absurd (by simpa using covered) uncovered
    | cons name rest => exact ⟨name, rest, rfl⟩

namespace Tree

variable {t fragment f : Tree} {owned : List Path} {q : Path}

/-- Some content lies past a path. -/
def Leads (t : Tree) (q : Path) : Prop :=
  ∃ name rest value, t.content? (q ++ name :: rest) = some value

theorem Leads.get? (leads : t.Leads q) (nonempty : q ≠ []) :
    ∃ child, t.get? q = some (.tree child) := by
  obtain ⟨name, rest, value, content⟩ := leads
  rw [content?_append t nonempty] at content
  obtain ⟨node, found, below⟩ := Option.bind_eq_some_iff.mp content
  cases node with
  | tree child => exact ⟨child, found⟩
  | list =>
    rw [Node.content?_leaf_cons rfl] at below
    cases below
  | scalar =>
    rw [Node.content?_leaf_cons rfl] at below
    cases below

/-- A fragment that is merged brings its content past every path in its way. -/
theorem leads_mergeFrom (restricts : fragment.Restricts owned f)
    (uncovered : ¬ Path.Covered owned q) {p : Path} {value : Node} (covered : Path.Covered owned p)
    (content : fragment.content? p = some value) (comparable : Path.Comparable p q) :
    Leads (mergeFrom t f) q := by
  obtain ⟨name, rest, rfl⟩ := covered.past uncovered comparable
  have brought : f.content? (q ++ name :: rest) = some value := by
    rw [restricts.content, if_pos covered, content]
  refine ⟨name, rest, value, ?_⟩
  rw [content?_mergeFrom t restricts.sorted, if_pos (shadows_of_content brought), brought]

/-- Merging a fragment takes the content past a path away only to put its own there. -/
theorem Leads.mergeFrom (leads : t.Leads q) (restricts : fragment.Restricts owned f)
    (uncovered : ¬ Path.Covered owned q) : Leads (Tree.mergeFrom t f) q := by
  obtain ⟨name, rest, value, content⟩ := leads
  by_cases shadows : (Node.tree f).shadows (q ++ name :: rest) = true
  · obtain ⟨p, other, covered, brought, comparable⟩ :=
      restricts.content_of_shadows (by simp) shadows
    exact leads_mergeFrom restricts uncovered covered brought comparable.of_append
  · refine ⟨name, rest, value, ?_⟩
    rw [content?_mergeFrom t restricts.sorted, if_neg shadows, content]

end Tree

namespace Slice

variable {contributions : Contributions}

/-- Where nobody owns a path, merging all fragments keeps the content that no fragment reaches, and
opens a way for the content that one brings. -/
theorem exists_mergeAll_unowned {t : Tree} (sorted : Tree.Sorted t)
    (sortedFragments : ∀ c ∈ contributions, Tree.Sorted c.2) :
    ∃ m, mergeAll t contributions = .ok m ∧ Tree.Sorted m ∧
      ∀ q, ¬ Owned contributions q →
        (Unreached contributions q → m.content? q = t.content? q) ∧
        (t.Leads q ∨ (∃ p value, Brings contributions p value ∧ Path.Comparable p q) →
          m.Leads q) := by
  induction contributions generalizing t with
  | nil =>
    refine ⟨t, rfl, sorted, fun q _ => ⟨fun _ => rfl, ?_⟩⟩
    rintro (leads | ⟨p, value, ⟨c, member, -⟩, -⟩)
    · exact leads
    · cases member
  | cons c rest ih =>
    obtain ⟨sortedHere, sortedLater⟩ := List.forall_mem_cons.mp sortedFragments
    obtain ⟨f, cut, restricts⟩ := Tree.exists_prunedTo sortedHere c.1
    obtain ⟨m, merged, sortedM, later⟩ :=
      ih (Tree.sorted_mergeFrom sorted restricts.sorted) sortedLater
    refine ⟨m, by simp [mergeAll, cut, merged, bind, Except.bind], sortedM, fun q unowned => ?_⟩
    rw [owned_cons, not_or] at unowned
    obtain ⟨uncovered, unownedLater⟩ := unowned
    obtain ⟨keeps, opens⟩ := later q unownedLater
    constructor
    · intro unreached
      rw [keeps unreached.tail, Tree.content?_mergeFrom_unreached restricts]
      exact fun p value covered content =>
        unreached p value ⟨c, List.mem_cons_self, covered, content⟩
    · rintro (leads | ⟨p, value, ⟨d, member, covered, content⟩, comparable⟩)
      · exact opens (.inl (leads.mergeFrom restricts uncovered))
      · rcases List.mem_cons.mp member with rfl | member
        · exact opens (.inl (Tree.leads_mergeFrom restricts uncovered covered content comparable))
        · exact opens (.inr ⟨p, value, ⟨d, member, covered, content⟩, comparable⟩)

/-- What the fragments hold at the owned paths past a path is what they bring near it. -/
theorem brings_iff {q : Path} (sortedFragments : ∀ c ∈ contributions, Tree.Sorted c.2)
    (nonempty : ∀ c ∈ contributions, [] ∉ c.1) (unowned : ¬ Owned contributions q) :
    (∃ p value, Brings contributions p value ∧ Path.Comparable p q) ↔
      ∃ c ∈ contributions, ∃ p ∈ c.1, q <+: p ∧ (c.2.get? p).bind Node.kept ≠ none := by
  constructor
  · rintro ⟨_, value, ⟨c, member, ⟨p, listed, inside, rest, rfl⟩, content⟩, comparable⟩
    have past : q <+: p := comparable.symm.of_append.resolve_right fun below =>
      unowned ⟨c, member, p, listed, inside, below⟩
    exact ⟨c, member, p, listed, past,
      (Tree.kept_ne_none_iff (sortedFragments c member) inside).mpr ⟨rest, value, content⟩⟩
  · rintro ⟨c, member, p, listed, past, holds⟩
    have inside : p ≠ [] := fun root => nonempty c member (root ▸ listed)
    obtain ⟨rest, value, content⟩ :=
      (Tree.kept_ne_none_iff (sortedFragments c member) inside).mp holds
    exact ⟨p ++ rest, value, ⟨c, member, ⟨p, listed, inside, List.prefix_append p rest⟩, content⟩,
      .inr (past.trans (List.prefix_append p rest))⟩

/-- A committed leaf at a path that nobody owns carries through, unless some fragment holds content
at an owned path past it: then a tree stands in its place. -/
theorem unowned_leaf_kept_iff {existing : Tree} (sorted : Tree.Sorted existing)
    (sortedFragments : ∀ c ∈ contributions, Tree.Sorted c.2)
    (nonempty : ∀ c ∈ contributions, [] ∉ c.1) :
    ∃ m, mergeOwned existing contributions = .ok m ∧
      ∀ q leaf, existing.get? q = some leaf → leaf.isSolid = true →
        (∀ c ∈ contributions, ∀ p ∈ c.1, ¬ p <+: q) →
        ((∀ c ∈ contributions, ∀ p ∈ c.1, q <+: p → (c.2.get? p).bind Node.kept = none) →
          m.get? q = some leaf) ∧
        ((∃ c ∈ contributions, ∃ p ∈ c.1, q <+: p ∧ (c.2.get? p).bind Node.kept ≠ none) →
          ∃ child, m.get? q = some (.tree child)) := by
  obtain ⟨m, merged, sortedM, unowned⟩ :=
    exists_mergeAll_unowned (sorted_cleared sorted contributions) sortedFragments
  rw [cleared] at merged
  refine ⟨Tree.pruned m, by rw [mergeOwned, merged]; rfl, ?_⟩
  intro q leaf found solid apart
  have free : ¬ Owned contributions q := by
    rintro ⟨c, member, p, listed, -, below⟩
    exact apart c member p listed below
  obtain ⟨keeps, opens⟩ := unowned q free
  constructor
  · intro bare
    have unreached : Unreached contributions q := by
      intro p value brings comparable
      obtain ⟨c, member, p, listed, past, holds⟩ :=
        (brings_iff sortedFragments nonempty free).mp ⟨p, value, brings, comparable⟩
      exact holds (bare c member p listed past)
    have content : Tree.content? (Tree.pruned m) q = some leaf := by
      rw [Tree.content?_pruned sortedM, keeps unreached, content?_cleared, if_neg free,
        Tree.content?, found, Option.filter_some, if_pos solid]
    exact (Tree.content?_eq_some.mp content).1
  · intro held
    obtain ⟨name, rest, value, content⟩ :=
      opens (.inr ((brings_iff sortedFragments nonempty free).mpr held))
    have leads : Tree.Leads (Tree.pruned m) q :=
      ⟨name, rest, value, (Tree.content?_pruned sortedM _).trans content⟩
    apply leads.get?
    rintro rfl
    simp at found

/-! Committed flags in one text, where an owner puts a flag of its own under the same name. -/

def flagText : Tree :=
  [(argumentsKey, .scalar (.text "--v=2")), ("servingInfo", .list ["cert"])]

def issuerContribution : List Path × Tree :=
  ([[argumentsKey, "oidc-issuer-url"]],
    [(argumentsKey, .tree [("oidc-issuer-url", .list ["https://login.example"])])])

theorem unowned_leaf_kept_iff_beside_flags :
    Tree.Sorted flagText ∧ Tree.Sorted issuerContribution.2 ∧ [] ∉ issuerContribution.1 ∧
      ∃ m, mergeOwned flagText [issuerContribution] = .ok m ∧
        m.get? ["servingInfo"] = some (.list ["cert"]) ∧
        ∃ child, m.get? [argumentsKey] = some (.tree child) := by
  obtain ⟨m, merged, each⟩ := @unowned_leaf_kept_iff [issuerContribution] flagText (by decide)
    (by decide) (by decide)
  obtain ⟨beside, -⟩ := each ["servingInfo"] _ rfl rfl (by decide)
  obtain ⟨-, above⟩ := each [argumentsKey] _ rfl rfl (by decide)
  refine ⟨by decide, by decide, by decide, m, merged, beside (by decide), above ?_⟩
  exact ⟨_, List.mem_cons_self, _, List.mem_cons_self, by decide, nofun⟩

/-- Nobody owns the flags, and still they are gone. Setting the owned path refuses to. -/
theorem unowned_flags_lost :
    flagText.get? [argumentsKey] = some (.scalar (.text "--v=2")) ∧
      (∀ p ∈ issuerContribution.1, ¬ p <+: [argumentsKey]) ∧
      mergeOwned flagText [issuerContribution] =
        .ok [(argumentsKey, .tree [("oidc-issuer-url", .list ["https://login.example"])]),
          ("servingInfo", .list ["cert"])] ∧
      flagText.setList [argumentsKey, "oidc-issuer-url"] ["https://login.example"] =
        .error (.notMap [argumentsKey]) :=
  ⟨rfl, by decide, rfl, rfl⟩

end Slice

end ObservedConfig
