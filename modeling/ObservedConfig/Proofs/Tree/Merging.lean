import ObservedConfig.Proofs.Tree.Pruning
import ObservedConfig.Proofs.Tree.Updating

/-! Merging one tree over another. At every path the content of the result comes from one of the
two trees: from the merged one where it holds a leaf on the way, the path itself, or goes on past
it, and from the former one elsewhere. -/
namespace ObservedConfig

/-- Whether a node that is merged decides what stands at a path. -/
def Node.shadows : Node → Path → Bool
  | .tree entries, name :: rest =>
    (Entries.find? name entries).any fun child => child.shadows rest
  | _, _ => true

@[simp] theorem Node.shadows_nil (node : Node) : node.shadows [] = true := by cases node <;> rfl

@[simp] theorem Node.shadows_tree_cons (t : Tree) (name : String) (rest : Path) :
    (Node.tree t).shadows (name :: rest) =
      (Entries.find? name t).any fun child => child.shadows rest := rfl

/-- A node decides wherever it shows something itself. -/
theorem Node.shadows_of_at? {node found : Node} {q : Path} (here : node.at? q = some found) :
    node.shadows q = true := by
  induction q generalizing node with
  | nil => simp
  | cons name rest ih =>
    cases node with
    | tree t =>
      obtain ⟨child, listed, below⟩ := Option.bind_eq_some_iff.mp here
      simp [listed, ih below]
    | list => rfl
    | scalar => rfl

theorem Node.shadows_of_content {node value : Node} {q : Path}
    (content : node.content? q = some value) : node.shadows q = true :=
  Node.shadows_of_at? (Option.filter_eq_some_iff.mp content).1

/-- A node without empty containers that decides at a path has content on the way to it, at it or
past it. -/
theorem Node.content_of_shadows {node : Node} {q : Path} (shadows : node.shadows q = true)
    (filled : node.isEmptyContainer = false) (pruned : node.Pruned) :
    ∃ p value, node.content? p = some value ∧ (p <+: q ∨ q <+: p) := by
  induction q generalizing node with
  | nil =>
    obtain ⟨p, value, content⟩ := node.exists_content filled pruned
    exact ⟨p, value, content, .inr List.nil_prefix⟩
  | cons name rest ih =>
    cases node with
    | tree t =>
      obtain ⟨child, found, below⟩ := (Option.any_eq_true _ _).mp
        ((Node.shadows_tree_cons t name rest).symm.trans shadows)
      obtain ⟨filledChild, prunedChild⟩ := Tree.Pruned.find? pruned found
      obtain ⟨p, value, content, comparable⟩ := ih below filledChild prunedChild
      refine ⟨name :: p, value, by simp [found, content], ?_⟩
      simpa [List.cons_prefix_cons] using comparable
    | list values =>
      exact ⟨[], .list values, by simp [Node.content?_nil, isSolid, isLeaf, filled],
        .inl List.nil_prefix⟩
    | scalar value =>
      exact ⟨[], .scalar value, by simp [Node.content?_nil, isSolid, isLeaf, filled],
        .inl List.nil_prefix⟩

namespace Tree

theorem find?_mergeFrom (mine : Tree) {theirs : Tree} (sorted : Entries.Sorted theirs)
    (name : String) :
    Entries.find? name (mergeFrom mine theirs) =
      match Entries.find? name theirs with
      | some node => some (Node.over (Entries.find? name mine) node)
      | none => Entries.find? name mine := by
  induction theirs generalizing mine with
  | nil => rfl
  | cons entry rest ih =>
    rw [mergeFrom, ih _ sorted.tail]
    by_cases same : name = entry.1
    · subst same
      simp [sorted.find?_tail Entries.lt_asymmetric]
    · rw [Entries.find?_cons_other same, Entries.find?_insert_other same]

end Tree

/-- A tree is merged with a tree and takes the place of everything else. -/
theorem Node.over_tree_cases (mine : Option Node) (t : Tree) :
    (∃ s, mine = some (.tree s) ∧ Node.over mine (.tree t) = .tree (Tree.mergeFrom s t)) ∨
      ((∀ former ∈ mine, former.isLeaf = true) ∧ Node.over mine (.tree t) = .tree t) := by
  cases mine with
  | none => exact .inr ⟨by simp, rfl⟩
  | some former =>
    cases former with
    | tree s => exact .inl ⟨s, rfl, rfl⟩
    | list => exact .inr ⟨by simp [isLeaf], rfl⟩
    | scalar => exact .inr ⟨by simp [isLeaf], rfl⟩

@[simp] theorem Node.over_none (node : Node) : Node.over none node = node := by cases node <;> rfl

theorem Node.over_leaf (mine : Option Node) {node : Node} (leaf : node.isLeaf = true) :
    Node.over mine node = node := by
  cases node with
  | tree => cases leaf
  | list => rfl
  | scalar => rfl

theorem Node.isLeaf_over (mine : Option Node) (node : Node) :
    (Node.over mine node).isLeaf = node.isLeaf := by
  cases node with
  | tree t =>
    rcases Node.over_tree_cases mine t with ⟨s, -, merged⟩ | ⟨-, alone⟩
    · rw [merged]
      rfl
    · rw [alone]
  | list => rfl
  | scalar => rfl

/-- What a node merged over another shows at a path: where it has a node itself, that one merged
over the former node there, and else the former node, unless a leaf of the new one is in the way. -/
theorem Node.at?_over (mine : Option Node) {node : Node} (sorted : node.Sorted) (q : Path) :
    (Node.over mine node).at? q =
      match node.at? q with
      | some found => some (Node.over (mine.bind fun former => former.at? q) found)
      | none => if node.shadows q then none else mine.bind fun former => former.at? q := by
  induction q generalizing mine node with
  | nil => simp
  | cons name rest ih =>
    cases node with
    | list => rfl
    | scalar => rfl
    | tree t =>
      have entries := Tree.Sorted.entries sorted
      rw [Node.shadows_tree_cons]
      rcases Node.over_tree_cases mine t with ⟨s, rfl, merged⟩ | ⟨leaves, alone⟩
      · rw [merged]
        simp only [Option.bind_some, Node.at?_tree_cons, Tree.find?_mergeFrom s entries]
        cases found : Entries.find? name t with
        | none => simp
        | some child => simp [ih _ (Tree.Sorted.find? sorted found)]
      · -- A former leaf has nothing at longer paths, so nothing is lost under the new tree.
        have bare : (mine.bind fun former => former.at? (name :: rest)) = none := by
          cases mine with
          | none => rfl
          | some former => exact Node.at?_leaf_cons (leaves former rfl) name rest
        rw [alone, bare]
        cases (Node.tree t).at? (name :: rest) <;> simp

/-- The content of a node that is merged over another one. -/
theorem Node.content?_over (mine : Option Node) {node : Node} (sorted : node.Sorted) (q : Path) :
    (Node.over mine node).content? q =
      if node.shadows q then node.content? q else mine.bind fun former => former.content? q := by
  rw [content?, content?, at?_over mine sorted q]
  cases here : node.at? q with
  | none =>
    dsimp only
    split
    · rfl
    · cases mine <;> rfl
  | some found =>
    simp only [shadows_of_at? here, if_true]
    cases leaf : found.isLeaf with
    | true => rw [over_leaf _ leaf]
    | false => simp [Option.filter_some, isSolid, isLeaf_over, leaf]

namespace Tree

theorem shadows_of_content {t : Tree} {q : Path} {value : Node}
    (content : t.content? q = some value) : (Node.tree t).shadows q = true :=
  Node.shadows_of_content ((content?_eq t q).symm.trans content)

/-- There is no content where a tree decides nothing. -/
theorem content?_of_not_shadows {t : Tree} {q : Path} (hidden : ¬ (Node.tree t).shadows q = true) :
    t.content? q = none :=
  Option.eq_none_iff_forall_ne_some.mpr fun _ content => hidden (shadows_of_content content)

theorem content?_mergeFrom (mine : Tree) {theirs : Tree} (sorted : Tree.Sorted theirs) (q : Path) :
    content? (mergeFrom mine theirs) q =
      if (Node.tree theirs).shadows q then theirs.content? q else mine.content? q := by
  have merged := Node.content?_over (some (.tree mine)) (show (Node.tree theirs).Sorted from sorted)
    q
  simpa [Node.over, content?_eq] using merged

/-- Where a merged tree decides, it has content on the way to the path, at it or past it. -/
theorem content_of_shadows {t : Tree} (pruned : Tree.Pruned t) {name : String} {rest : Path}
    (shadows : (Node.tree t).shadows (name :: rest) = true) :
    ∃ p value, t.content? p = some value ∧ (p <+: name :: rest ∨ name :: rest <+: p) := by
  have filled : (Node.tree t).isEmptyContainer = false := by
    cases t with
    | nil => cases shadows
    | cons => rfl
  simpa [content?_eq] using Node.content_of_shadows shadows filled pruned

end Tree

theorem Node.sorted_over {node : Node} (sorted : node.Sorted) {mine : Option Node}
    (sortedMine : ∀ former ∈ mine, former.Sorted) : (Node.over mine node).Sorted := by
  induction node using Node.induction generalizing mine with
  | list => exact sorted
  | scalar => exact sorted
  | tree t ih =>
    rcases Node.over_tree_cases mine t with ⟨s, rfl, merged⟩ | ⟨-, alone⟩
    · rw [merged]
      have sortedS : Tree.Sorted s := sortedMine (.tree s) rfl
      have each := ((Tree.sorted_iff t).mp sorted).2
      clear sorted sortedMine merged
      show Tree.Sorted (Tree.mergeFrom s t)
      induction t generalizing s with
      | nil => exact sortedS
      | cons entry rest ihRest =>
        obtain ⟨here, later⟩ := List.forall_mem_cons.mp each
        rw [Tree.mergeFrom]
        refine ihRest (fun e member => ih e (List.mem_cons_of_mem _ member)) _ ?_ later
        apply Tree.sorted_insert sortedS
        exact ih entry List.mem_cons_self here fun former found => Tree.Sorted.find? sortedS found
    · rwa [alone]

theorem Tree.sorted_mergeFrom {mine theirs : Tree} (sortedMine : Tree.Sorted mine)
    (sortedTheirs : Tree.Sorted theirs) : Tree.Sorted (mergeFrom mine theirs) := by
  have each : ∀ former ∈ some (Node.tree mine), former.Sorted := by
    rintro _ ⟨⟩
    exact sortedMine
  exact Node.sorted_over (show (Node.tree theirs).Sorted from sortedTheirs) each

end ObservedConfig
