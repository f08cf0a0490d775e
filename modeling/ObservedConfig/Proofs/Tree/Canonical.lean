import ObservedConfig.Proofs.Tree.Restricting

/-! Normal forms of trees. Pruned trees are the same just when the trees held the same content, so a
comparison after pruning compares content and nothing else. Cutting a tree down to some paths gives
the one pruned tree with the content that they cover. Neither the order of the paths nor vestiges in
the tree have a say in it, and a tree that is cut down already stays as it is. -/
namespace ObservedConfig

/-- What is left of a node is never an empty container. -/
theorem Node.filled_of_kept {o : Option Node} {left : Node} (kept : o.bind Node.kept = some left) :
    left.isEmptyContainer = false := by
  obtain ⟨node, -, kept⟩ := Option.bind_eq_some_iff.mp kept
  exact (Node.kept_eq_some kept).2

namespace Path

theorem covered_congr {paths others : List Path} (same : ∀ p, p ∈ others ↔ p ∈ paths) (q : Path) :
    Covered others q ↔ Covered paths q := by
  simp only [Covered, same]

end Path

namespace Tree

variable {t u f : Tree} {q : Path} {leaf : Node} {paths others : List Path}

/-- Two trees have the same content when they hold the same scalars and the same sequences with an
element at the same paths. -/
theorem content?_congr_iff :
    (∀ q, t.content? q = u.content? q) ↔
      ∀ q leaf, leaf.isSolid = true → (t.get? q = some leaf ↔ u.get? q = some leaf) := by
  constructor
  · intro same q leaf solid
    have content := congrArg (· = some leaf) (same q)
    simpa only [content?_eq_some, solid, and_true, eq_iff_iff] using content
  · intro same q
    refine Option.ext fun leaf => ?_
    simp only [content?_eq_some]
    exact and_congr_left (same q leaf)

theorem pruned_eq_iff (sortedT : Tree.Sorted t) (sortedU : Tree.Sorted u) :
    Tree.pruned t = Tree.pruned u ↔ ∀ q, t.content? q = u.content? q := by
  constructor
  · intro same q
    rw [← content?_pruned sortedT, same, content?_pruned sortedU]
  · intro same
    apply eq_of_content (sorted_pruned sortedT) (sorted_pruned sortedU) (pruned_pruned t)
      (pruned_pruned u)
    intro q
    rw [content?_pruned sortedT, content?_pruned sortedU, same q]

theorem get?_pruned_eq_some_leaf (sorted : Tree.Sorted t) (isLeaf : leaf.isLeaf = true) :
    get? (Tree.pruned t) q = some leaf ↔ t.get? q = some leaf ∧ leaf.isSolid = true := by
  rw [← content?_eq_some, ← content?_pruned sorted, content?_eq_some]
  refine ⟨fun found => ⟨found, ?_⟩, And.left⟩
  rw [get?_pruned sorted] at found
  simp [Node.isSolid, isLeaf, Node.filled_of_kept found]

/-- Pruning is a canonical form. Two trees come to the same just when they hold the same scalars and
the same sequences with an element at the same paths; what a tree comes to shows no empty container
anywhere, has those leaves and no others, and is not changed by pruning it again. -/
theorem pruned_canonical (sortedT : Tree.Sorted t) (sortedU : Tree.Sorted u) :
    (Tree.pruned t = Tree.pruned u ↔
      ∀ q leaf, leaf.isSolid = true → (t.get? q = some leaf ↔ u.get? q = some leaf)) ∧
    (∀ q node, get? (Tree.pruned t) q = some node → node.isEmptyContainer = false) ∧
    (∀ q leaf, leaf.isLeaf = true → (get? (Tree.pruned t) q = some leaf ↔
      t.get? q = some leaf ∧ leaf.isSolid = true)) ∧
    Tree.pruned (Tree.pruned t) = Tree.pruned t := by
  refine ⟨(pruned_eq_iff sortedT sortedU).trans content?_congr_iff, ?_, ?_, ?_⟩
  · intro q node found
    rw [get?_pruned sortedT] at found
    exact Node.filled_of_kept found
  · exact fun q leaf isLeaf => get?_pruned_eq_some_leaf sortedT isLeaf
  · exact pruned_eq_self (pruned_pruned t)

/-! A client with vestiges beside it, at one level and at two, and the client alone. -/

def clientAmidVestiges : Tree :=
  [("apiServerArguments",
      .tree [("oidc-client-id", .list ["console"]), ("oidc-required-claim", .list [])]),
    ("servingInfo", .tree [("tls", .tree [])])]

def clientAlone : Tree := [("apiServerArguments", .tree [("oidc-client-id", .list ["console"])])]

theorem pruned_canonical_amid_vestiges :
    Tree.Sorted clientAmidVestiges ∧ Tree.Sorted clientAlone ∧
      Tree.pruned clientAmidVestiges = clientAlone ∧
      (∀ q leaf, leaf.isSolid = true →
        (clientAmidVestiges.get? q = some leaf ↔ clientAlone.get? q = some leaf)) ∧
      get? (Tree.pruned clientAmidVestiges) ["apiServerArguments", "oidc-client-id"] =
        some (.list ["console"]) := by
  obtain ⟨same, -, leaves, -⟩ :=
    @pruned_canonical clientAmidVestiges clientAlone (by decide) (by decide)
  exact ⟨by decide, by decide, rfl, same.mp rfl,
    (leaves ["apiServerArguments", "oidc-client-id"] (.list ["console"]) rfl).mpr ⟨rfl, rfl⟩⟩

/-- Cutting a tree down succeeds with the one tree that restricts it to the paths. -/
theorem prunedTo_eq_ok (sorted : Tree.Sorted t) :
    t.prunedTo paths = .ok f ↔ t.Restricts paths f := by
  obtain ⟨g, cut, restricts⟩ := exists_prunedTo sorted paths
  rw [cut, Except.ok.injEq]
  constructor
  · rintro rfl
    exact restricts
  · exact fun other => restricts.unique (fun _ => .rfl) other

theorem Restricts.of_mem_iff (restricts : t.Restricts paths f)
    (same : ∀ p, p ∈ others ↔ p ∈ paths) : t.Restricts others f where
  sorted := restricts.sorted
  pruned := restricts.pruned
  content q := by simp only [restricts.content, Path.covered_congr same]

/-- What a tree is cut down to is cut down to itself. -/
theorem Restricts.again (restricts : t.Restricts paths f) : f.Restricts paths f :=
  restricts.of_content fun q covered => by rw [restricts.content, if_pos covered]

/-- Cutting a tree down to some paths always succeeds. The result shows at the paths and below them
what the pruned tree shows, has no leaf elsewhere, and stays the same when the paths come in another
order or several times, when the tree is pruned before, and when it is cut down again. -/
theorem prunedTo_projects (sorted : Tree.Sorted t) (paths : List Path) :
    ∃ r, t.prunedTo paths = .ok r ∧
      (∀ q, Path.Covered paths q → r.get? q = get? (Tree.pruned t) q) ∧
      (∀ q leaf, r.get? q = some leaf → leaf.isLeaf = true → Path.Covered paths q) ∧
      (∀ others, (∀ p, p ∈ others ↔ p ∈ paths) → t.prunedTo others = .ok r) ∧
      prunedTo (Tree.pruned t) paths = .ok r ∧
      r.prunedTo paths = .ok r := by
  obtain ⟨r, cut, restricts⟩ := exists_prunedTo sorted paths
  refine ⟨r, cut, ?_, ?_, ?_, ?_, ?_⟩
  · intro q covered
    rw [restricts.get? sorted covered, get?_pruned sorted]
  · intro q leaf found isLeaf
    refine Decidable.byContradiction fun uncovered => ?_
    obtain ⟨inner, -⟩ := restricts.elsewhere found uncovered
    rw [isLeaf] at inner
    cases inner
  · exact fun others same => (prunedTo_eq_ok sorted).mpr (restricts.of_mem_iff same)
  · exact (prunedTo_eq_ok (sorted_pruned sorted)).mpr
      (restricts.of_content fun q _ => content?_pruned sorted q)
  · exact (prunedTo_eq_ok restricts.sorted).mpr restricts.again

/-! Paths within each other, one of them twice and one empty, on a tree with vestiges. -/

def nestedPaths : List Path :=
  [["apiServerArguments", "oidc-client-id"], [], ["servingInfo", "tls", "cert"],
    ["apiServerArguments"], ["apiServerArguments", "oidc-client-id"]]

theorem prunedTo_projects_nested :
    Tree.Sorted clientAmidVestiges ∧
      clientAmidVestiges.prunedTo nestedPaths = .ok clientAlone ∧
      clientAmidVestiges.prunedTo nestedPaths.reverse = .ok clientAlone ∧
      clientAlone.prunedTo nestedPaths = .ok clientAlone ∧
      Path.Covered nestedPaths ["apiServerArguments", "oidc-client-id"] ∧
      clientAlone.get? ["apiServerArguments", "oidc-required-claim"] =
        get? (Tree.pruned clientAmidVestiges) ["apiServerArguments", "oidc-required-claim"] := by
  have sorted : Tree.Sorted clientAmidVestiges := by decide
  obtain ⟨r, cut, shows, leaves, permuted, -, again⟩ := prunedTo_projects sorted nestedPaths
  obtain rfl : clientAlone = r := Except.ok.inj cut
  exact ⟨sorted, cut, permuted _ fun p => List.mem_reverse, again, leaves _ _ rfl rfl,
    shows _ (by decide)⟩

end Tree

end ObservedConfig
