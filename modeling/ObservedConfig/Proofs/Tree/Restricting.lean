import ObservedConfig.Proofs.Tree.Pruning
import ObservedConfig.Proofs.Tree.Updating

/-! Cutting a tree down to the nodes at some paths. The copy never runs into a leaf on its way,
since it holds nothing that the tree itself does not hold at the same place. -/
namespace ObservedConfig

/-- A path is covered at one of the paths and below it. The root covers nothing. -/
def Path.Covered (paths : List Path) (q : Path) : Prop := ∃ p ∈ paths, p ≠ [] ∧ p <+: q

instance (paths : List Path) (q : Path) : Decidable (Path.Covered paths q) :=
  inferInstanceAs (Decidable (∃ p ∈ paths, p ≠ [] ∧ p <+: q))

namespace Path

@[simp] theorem covered_nil (q : Path) : ¬ Covered [] q := by simp [Covered]

theorem covered_cons (p : Path) (paths : List Path) (q : Path) :
    Covered (p :: paths) q ↔ (p ≠ [] ∧ p <+: q) ∨ Covered paths q := by
  simp [Covered]

theorem Covered.ne_nil {paths : List Path} {q : Path} (covered : Covered paths q) : q ≠ [] := by
  rintro rfl
  obtain ⟨p, -, inside, below⟩ := covered
  exact inside (List.prefix_nil.mp below)

theorem Covered.append {paths : List Path} {q : Path} (covered : Covered paths q) (rest : Path) :
    Covered paths (q ++ rest) := by
  obtain ⟨p, member, nonempty, below⟩ := covered
  exact ⟨p, member, nonempty, below.trans (List.prefix_append q rest)⟩

end Path

namespace Tree

/-- Every leaf of one tree is the leaf of another at the same path. -/
def Embeds (s t : Tree) : Prop :=
  ∀ q node, s.get? q = some node → node.isLeaf = true → t.get? q = some node

theorem Embeds.content? {s t : Tree} (embeds : s.Embeds t) {q : Path} {value : Node}
    (content : s.content? q = some value) : t.content? q = some value := by
  obtain ⟨found, solid⟩ := content?_eq_some.mp content
  exact content?_eq_some.mpr ⟨embeds q value found (Node.isLeaf_of_isSolid solid), solid⟩

/-- Nothing stands in the way where the larger tree has a node. -/
theorem Embeds.opens {s t : Tree} (embeds : s.Embeds t) {path : Path} {node : Node}
    (found : t.get? path = some node) : s.Open path := by
  rintro p rest rfl more other here
  cases leaf : other.isLeaf with
  | false => rfl
  | true =>
    obtain ⟨name, rest, rfl⟩ := List.exists_cons_of_ne_nil more
    rw [get?_behind_leaf (embeds p other here leaf) leaf] at found
    cases found

theorem Embeds.set {s t u : Tree} (embeds : s.Embeds t) {path : Path} {node : Node}
    (found : t.get? path = some node) (result : s.set path node = .ok u) : u.Embeds t := by
  intro q other here leaf
  have nonempty : path ≠ [] := by
    rintro rfl
    simp at found
  by_cases below : path <+: q
  · obtain ⟨rest, rfl⟩ := below
    rw [get?_set_append result] at here
    rw [get?_append t nonempty, found, Option.bind_some, here]
  · by_cases above : q <+: path
    · obtain ⟨rest, rfl⟩ := above
      have more : rest ≠ [] := by
        rintro rfl
        simp at below
      have inside : q ≠ [] := by
        rintro rfl
        simp at here
      obtain ⟨child, tree⟩ := get?_set_above result inside more
      rw [tree] at here
      cases here
      cases leaf
    · rw [get?_set_apart result below above] at here
      exact embeds q other here leaf

/-- Copying into a part of a tree succeeds and adds the content below the copied paths. -/
theorem exists_copyTo {t s : Tree} (sortedT : Tree.Sorted t) (sortedS : Tree.Sorted s)
    (embeds : s.Embeds t) (paths : List Path) :
    ∃ u, t.copyTo paths s = .ok u ∧ Tree.Sorted u ∧
      ∀ q, u.content? q = if Path.Covered paths q then t.content? q else s.content? q := by
  induction paths generalizing s with
  | nil => exact ⟨s, rfl, sortedS, by simp⟩
  | cons path rest ih =>
    cases found : t.get? path with
    | none =>
      obtain ⟨u, copied, sorted, content⟩ := ih sortedS embeds
      refine ⟨u, by simp [copyTo, found, copied], sorted, fun q => ?_⟩
      rw [content q]
      by_cases later : Path.Covered rest q
      · simp [Path.covered_cons, later]
      · by_cases here : path ≠ [] ∧ path <+: q
        · obtain ⟨nonempty, below, rfl⟩ := here
          have absent : t.content? (path ++ below) = none := by
            simp [content?_append t nonempty, found]
          have absent' : s.content? (path ++ below) = none := by
            cases content : s.content? (path ++ below) with
            | none => rfl
            | some value =>
              rw [embeds.content? content] at absent
              cases absent
          simp [absent, absent']
        · simp [Path.covered_cons, here, later]
    | some node =>
      have nonempty : path ≠ [] := by
        rintro rfl
        simp at found
      obtain ⟨s', result⟩ := exists_set nonempty (embeds.opens found) node
      have sortedS' := sorted_set sortedS (sorted_get? sortedT found) result
      obtain ⟨u, copied, sorted, content⟩ := ih sortedS' (embeds.set found result)
      refine ⟨u, by simp [copyTo, found, result, copied, bind, Except.bind], sorted, fun q => ?_⟩
      rw [content q]
      by_cases later : Path.Covered rest q
      · simp [Path.covered_cons, later]
      · by_cases below : path <+: q
        · have here : Path.Covered (path :: rest) q :=
            (Path.covered_cons path rest q).mpr (.inl ⟨nonempty, below⟩)
          obtain ⟨below, rfl⟩ := below
          simp [here, later, content?_set_append result, content?_append t nonempty, found]
        · simp [Path.covered_cons, below, later, content?_set_other result below]

/-- A pruned tree with just the content of another that some paths cover. -/
structure Restricts (t : Tree) (paths : List Path) (f : Tree) : Prop where
  sorted : Tree.Sorted f
  pruned : Tree.Pruned f
  content : ∀ q, f.content? q = if Path.Covered paths q then t.content? q else none

/-- A tree is restricted like every other one with its content. -/
theorem Restricts.of_content {s t f : Tree} {paths : List Path} (restricts : t.Restricts paths f)
    (same : ∀ q, Path.Covered paths q → s.content? q = t.content? q) : s.Restricts paths f where
  sorted := restricts.sorted
  pruned := restricts.pruned
  content q := by
    rw [restricts.content]
    split
    next covered => rw [same q covered]
    next => rfl

/-- At and below its paths the smaller tree shows what pruning leaves of the larger one. -/
theorem Restricts.get? {t f : Tree} {paths : List Path} (restricts : t.Restricts paths f)
    (sorted : Tree.Sorted t) {q : Path} (covered : Path.Covered paths q) :
    f.get? q = (t.get? q).bind Node.kept := by
  apply get?_of_content restricts.sorted restricts.pruned sorted covered.ne_nil
  intro rest
  rw [restricts.content, if_pos (covered.append rest)]

/-- Trees cut down to the same paths are the same. -/
theorem Restricts.unique {t f g : Tree} {paths others : List Path}
    (same : ∀ q, Path.Covered paths q ↔ Path.Covered others q) (first : t.Restricts paths f)
    (second : t.Restricts others g) : f = g := by
  apply eq_of_content first.sorted second.sorted first.pruned second.pruned
  intro q
  rw [first.content, second.content]
  simp only [same]

/-- A tree that is cut down to some paths has nothing elsewhere but the trees on the way to them. -/
theorem Restricts.elsewhere {t f : Tree} {paths : List Path} (restricts : t.Restricts paths f)
    {q : Path} {node : Node} (found : f.get? q = some node) (apart : ¬ Path.Covered paths q) :
    node.isLeaf = false ∧ ∃ p ∈ paths, q <+: p := by
  have root : q ≠ [] := by
    rintro rfl
    simp at found
  have kept : node.kept = some node := by
    have same := get?_pruned restricts.sorted q
    rwa [pruned_eq_self restricts.pruned, found, Option.bind_some, eq_comm] at same
  obtain ⟨pruned, filled⟩ := Node.kept_eq_some kept
  obtain ⟨rest, value, content⟩ := node.exists_content filled (pruned ▸ node.pruned_pruned)
  have here : f.content? (q ++ rest) = some value := by
    rw [content?_append f root, found, Option.bind_some, content]
  rw [restricts.content] at here
  split at here
  next covered =>
    obtain ⟨p, member, nonempty, below⟩ := covered
    have past : q <+: p := by
      rcases List.prefix_or_prefix_of_prefix below (List.prefix_append q rest) with onWay | past
      · exact absurd ⟨p, member, nonempty, onWay⟩ apart
      · exact past
    refine ⟨?_, p, member, past⟩
    cases leaf : node.isLeaf with
    | false => rfl
    | true =>
      cases rest with
      | nil =>
        rw [List.append_nil] at below
        exact absurd ⟨p, member, nonempty, below⟩ apart
      | cons name rest =>
        rw [Node.content?_leaf_cons leaf] at content
        cases content
  next => cases here

theorem exists_prunedTo {t : Tree} (sorted : Tree.Sorted t) (paths : List Path) :
    ∃ f, t.prunedTo paths = .ok f ∧ t.Restricts paths f := by
  have embeds : Embeds [] t := by
    intro q node found
    cases q <;> simp [get?_cons] at found
  obtain ⟨u, copied, sortedU, content⟩ := exists_copyTo sorted sorted_nil embeds paths
  refine ⟨Tree.pruned u, by simp [prunedTo, copied, Except.map], sorted_pruned sortedU,
    pruned_pruned u, fun q => ?_⟩
  rw [content?_pruned sortedU, content q]
  simp

end Tree

end ObservedConfig
