import ObservedConfig.Proofs.Tree.View

/-! Pruning as a canonical form. What pruning leaves of a node is the node without the empty
containers in it, or nothing. Pruning keeps the content of a tree, and two nodes with the same
content leave the same. -/
namespace ObservedConfig

/-- What is left of a node in a pruned tree. -/
def Node.kept (node : Node) : Option Node :=
  if node.pruned.isEmptyContainer then none else some node.pruned

theorem Node.pruned_leaf {node : Node} (leaf : node.isLeaf = true) : node.pruned = node := by
  cases node with
  | tree => cases leaf
  | list => rfl
  | scalar => rfl

theorem Node.kept_leaf {node : Node} (leaf : node.isLeaf = true) :
    node.kept = if node.isEmptyContainer then none else some node := by
  rw [kept, pruned_leaf leaf]

namespace Tree

theorem pruned_cons (entry : String × Node) (rest : Tree) :
    Tree.pruned (entry :: rest) =
      (entry.2.kept.map fun node => (entry.1, node)).toList ++ Tree.pruned rest := by
  simp only [Tree.pruned, Node.kept]
  split <;> rfl

theorem mem_pruned {t : Tree} {entry : String × Node} (member : entry ∈ Tree.pruned t) :
    ∃ node, (entry.1, node) ∈ t ∧ node.kept = some entry.2 := by
  induction t with
  | nil => cases member
  | cons first rest ih =>
    rw [pruned_cons, List.mem_append] at member
    rcases member with here | there
    · cases kept : first.2.kept with
      | none => simp [kept] at here
      | some node =>
        obtain rfl : entry = (first.1, node) := by simpa [kept] using here
        exact ⟨first.2, List.mem_cons_self, kept⟩
    · obtain ⟨node, member, kept⟩ := ih there
      exact ⟨node, List.mem_cons_of_mem _ member, kept⟩

theorem find?_pruned {t : Tree} (sorted : Entries.Sorted t) (name : String) :
    Entries.find? name (Tree.pruned t) = (Entries.find? name t).bind Node.kept := by
  induction t with
  | nil => rfl
  | cons entry rest ih =>
    rw [pruned_cons, Entries.find?_append, ih sorted.tail]
    by_cases same : name = entry.1
    · subst same
      rw [sorted.find?_tail Entries.lt_asymmetric, Entries.find?_cons_same]
      cases kept : entry.2.kept <;> simp [kept, Entries.find?_cons]
    · rw [Entries.find?_cons_other same]
      cases kept : entry.2.kept <;> simp [Entries.find?_cons, same]

end Tree

theorem Node.kept_eq_some {node left : Node} (kept : node.kept = some left) :
    left = node.pruned ∧ left.isEmptyContainer = false := by
  rw [Node.kept] at kept
  split at kept
  next => cases kept
  next filled =>
    cases kept
    exact ⟨rfl, by simpa using filled⟩

theorem Node.sorted_pruned {node : Node} (sorted : node.Sorted) : node.pruned.Sorted := by
  induction node using Node.induction with
  | list => exact sorted
  | scalar => exact sorted
  | tree t ih =>
    obtain ⟨ordered, below⟩ := (Tree.sorted_iff t).mp sorted
    apply (Tree.sorted_iff (Tree.pruned t)).mpr
    constructor
    · clear ih below sorted
      induction t with
      | nil => exact ordered
      | cons entry rest ih =>
        rw [Tree.pruned_cons]
        cases kept : entry.2.kept with
        | none => exact ih ordered.tail
        | some left =>
          refine List.pairwise_cons.mpr ⟨fun other member => ?_, ih ordered.tail⟩
          obtain ⟨node, member, -⟩ := Tree.mem_pruned member
          have less : entry.1 < (other.1, node).1 := ordered.head_lt member
          exact less
    · intro entry member
      obtain ⟨node, member, kept⟩ := Tree.mem_pruned member
      rw [(Node.kept_eq_some kept).1]
      exact ih _ member (below _ member)

theorem Node.pruned_pruned (node : Node) : node.pruned.Pruned := by
  induction node using Node.induction with
  | list => trivial
  | scalar => trivial
  | tree t ih =>
    apply (Tree.pruned_iff (Tree.pruned t)).mpr
    intro entry member
    obtain ⟨node, member, kept⟩ := Tree.mem_pruned member
    obtain ⟨same, filled⟩ := Node.kept_eq_some kept
    exact ⟨filled, same ▸ ih _ member⟩

theorem Node.pruned_eq_self {node : Node} (pruned : node.Pruned) : node.pruned = node := by
  induction node using Node.induction with
  | list => rfl
  | scalar => rfl
  | tree t ih =>
    have same : Tree.pruned t = t := by
      have each := (Tree.pruned_iff t).mp pruned
      clear pruned
      induction t with
      | nil => rfl
      | cons entry rest ihRest =>
        obtain ⟨⟨filled, below⟩, later⟩ := List.forall_mem_cons.mp each
        have here := ih entry List.mem_cons_self below
        rw [Tree.pruned_cons, ihRest (fun e m => ih e (List.mem_cons_of_mem _ m)) later,
          Node.kept, here, filled]
        rfl
    simp only [Node.pruned, same]

namespace Tree

theorem sorted_pruned {t : Tree} (sorted : Tree.Sorted t) : Tree.Sorted (Tree.pruned t) :=
  Node.sorted_pruned (show (Node.tree t).Sorted from sorted)

theorem pruned_pruned (t : Tree) : Tree.Pruned (Tree.pruned t) := Node.pruned_pruned (.tree t)

theorem pruned_eq_self {t : Tree} (pruned : Tree.Pruned t) : Tree.pruned t = t := by
  have same := Node.pruned_eq_self (show (Node.tree t).Pruned from pruned)
  injection same

end Tree

theorem Node.sorted_at? {node found : Node} (sorted : node.Sorted) {path : Path}
    (here : node.at? path = some found) : found.Sorted := by
  induction path generalizing node with
  | nil =>
    cases here
    exact sorted
  | cons name rest ih =>
    cases node with
    | tree t =>
      obtain ⟨child, foundChild, below⟩ := Option.bind_eq_some_iff.mp here
      exact ih (Tree.Sorted.find? sorted foundChild) below
    | list => cases here
    | scalar => cases here

/-- What is left at a path below a node is what is left of the node there. -/
theorem Node.at?_kept {node : Node} (sorted : node.Sorted) (path : Path) :
    (node.kept.bind fun left => left.at? path) = (node.at? path).bind Node.kept := by
  induction path generalizing node with
  | nil => simp
  | cons name rest ih =>
    cases node with
    | tree t =>
      have seen : ((Node.tree t).kept.bind fun left => left.at? (name :: rest)) =
          (Entries.find? name (Tree.pruned t)).bind fun child => child.at? rest := by
        cases left : Tree.pruned t <;>
          simp [Node.kept, Node.pruned, left, Node.isEmptyContainer]
      rw [seen, Tree.find?_pruned (Tree.Sorted.entries sorted), Node.at?_tree_cons]
      cases found : Entries.find? name t with
      | none => rfl
      | some child => exact ih (Tree.Sorted.find? sorted found)
    | list values =>
      rw [Node.kept_leaf rfl, Node.at?_leaf_cons rfl]
      split <;> simp [Node.at?]
    | scalar value =>
      rw [Node.kept_leaf rfl, Node.at?_leaf_cons rfl]
      split <;> simp [Node.at?]

theorem Node.filter_kept (node : Node) :
    node.kept.filter Node.isSolid = (some node).filter Node.isSolid := by
  cases node with
  | tree t =>
    cases kept : (Node.tree t).kept with
    | none => rfl
    | some left =>
      obtain ⟨rfl, -⟩ := Node.kept_eq_some kept
      rfl
  | list values =>
    rw [Node.kept_leaf rfl]
    cases values <;> rfl
  | scalar value => rfl

/-- Pruning keeps the content of a node. -/
theorem Node.content?_kept {node : Node} (sorted : node.Sorted) (path : Path) :
    (node.kept.bind fun left => left.content? path) = node.content? path := by
  have view : (node.kept.bind fun left => left.content? path) =
      ((node.at? path).bind Node.kept).filter Node.isSolid := by
    rw [← Node.at?_kept sorted path]
    cases node.kept <;> rfl
  rw [view, Node.content?]
  cases node.at? path with
  | none => rfl
  | some found => exact found.filter_kept

/-- Nodes with the same content leave the same, and so does the absence of a node. -/
theorem Node.kept_congr {a b : Option Node} (sortedA : ∀ node ∈ a, node.Sorted)
    (sortedB : ∀ node ∈ b, node.Sorted)
    (same : ∀ path, (a.bind fun node => node.content? path) = b.bind fun node => node.content? path) :
    a.bind Node.kept = b.bind Node.kept := by
  have view : ∀ {o : Option Node}, (∀ node ∈ o, node.Sorted) → ∀ path,
      ((o.bind Node.kept).bind fun left => left.content? path) =
        o.bind fun node => node.content? path := by
    intro o sorted path
    cases o with
    | none => rfl
    | some node => exact Node.content?_kept (sorted node rfl) path
  have left : ∀ {o : Option Node}, (∀ node ∈ o, node.Sorted) → ∀ left ∈ o.bind Node.kept,
      left.Sorted ∧ left.isEmptyContainer = false ∧ left.Pruned := by
    intro o sorted left kept
    obtain ⟨node, rfl, kept⟩ := Option.bind_eq_some_iff.mp kept
    obtain ⟨rfl, filled⟩ := Node.kept_eq_some kept
    exact ⟨Node.sorted_pruned (sorted node rfl), filled, node.pruned_pruned⟩
  refine Node.option_eq_of_content (fun x kept => (left sortedA x kept).2)
    (fun y kept => (left sortedB y kept).2) ?_ fun path => ?_
  · intro x keptX y keptY below
    obtain ⟨sortedX, filledX, prunedX⟩ := left sortedA x keptX
    obtain ⟨sortedY, filledY, prunedY⟩ := left sortedB y keptY
    exact Node.eq_of_content sortedX sortedY prunedX prunedY filledX filledY below
  · rw [view sortedA, view sortedB, same path]

namespace Tree

theorem sorted_get? {t : Tree} (sorted : Tree.Sorted t) {path : Path} {node : Node}
    (found : t.get? path = some node) : node.Sorted := by
  cases path with
  | nil => simp at found
  | cons name rest =>
    rw [get?_cons, ← Node.at?_tree_cons] at found
    exact Node.sorted_at? (show (Node.tree t).Sorted from sorted) found

/-- A pruned tree shows at each path what is left of the node there. -/
theorem get?_pruned {t : Tree} (sorted : Tree.Sorted t) (path : Path) :
    get? (Tree.pruned t) path = (t.get? path).bind Node.kept := by
  cases path with
  | nil => simp
  | cons name rest =>
    rw [get?_cons, get?_cons, find?_pruned sorted.entries]
    cases found : Entries.find? name t with
    | none => rfl
    | some child => exact Node.at?_kept (Sorted.find? sorted found) rest

theorem content?_pruned {t : Tree} (sorted : Tree.Sorted t) (path : Path) :
    content? (Tree.pruned t) path = t.content? path := by
  rw [content?, content?, get?_pruned sorted]
  cases t.get? path with
  | none => rfl
  | some node => exact node.filter_kept

/-- A pruned tree that has the content of another at and below a path shows there what pruning
leaves of the other. -/
theorem get?_of_content {s t : Tree} (sortedS : Tree.Sorted s) (prunedS : Tree.Pruned s)
    (sortedT : Tree.Sorted t) {path : Path} (nonempty : path ≠ [])
    (same : ∀ rest, s.content? (path ++ rest) = t.content? (path ++ rest)) :
    s.get? path = (t.get? path).bind Node.kept := by
  rw [← pruned_eq_self prunedS, get?_pruned sortedS]
  apply Node.kept_congr
  · exact fun node found => sorted_get? sortedS found
  · exact fun node found => sorted_get? sortedT found
  · intro rest
    rw [← content?_append s nonempty, ← content?_append t nonempty, same rest]

/-- Pruning leaves something of the node at a path just when content lies there or below. -/
theorem kept_ne_none_iff {t : Tree} (sorted : Tree.Sorted t) {p : Path} (nonempty : p ≠ []) :
    (t.get? p).bind Node.kept ≠ none ↔ ∃ rest value, t.content? (p ++ rest) = some value := by
  simp only [content?_append t nonempty]
  cases found : t.get? p with
  | none => simp
  | some node =>
    have same := Node.content?_kept (sorted_get? sorted found)
    simp only [Option.bind_some, ← same]
    cases kept : node.kept with
    | none => simp
    | some left =>
      obtain ⟨rfl, filled⟩ := Node.kept_eq_some kept
      simpa using node.pruned.exists_content filled node.pruned_pruned

/-- Pruned trees with the same content at and below a path show the same there. -/
theorem get?_congr {s t : Tree} (sortedS : Tree.Sorted s) (prunedS : Tree.Pruned s)
    (sortedT : Tree.Sorted t) (prunedT : Tree.Pruned t) {path : Path}
    (same : ∀ rest, s.content? (path ++ rest) = t.content? (path ++ rest)) :
    s.get? path = t.get? path := by
  by_cases root : path = []
  · subst root
    simp
  · rw [get?_of_content sortedS prunedS sortedT root same, ← get?_pruned sortedT,
      pruned_eq_self prunedT]

end Tree

end ObservedConfig
