import ObservedConfig.Proofs.Tree.Assignment
import ObservedConfig.Proofs.Tree.Merging

/-! What a merge keeps of either tree. The merged tree keeps all its leaves and puts trees where it
has trees. The former one keeps a leaf just where the merged tree has no node and no leaf in the
way, so merging what is in place already changes nothing. -/
namespace ObservedConfig

/-- A leaf gives way to whatever is merged over it. -/
theorem Node.over_former_leaf {former : Node} (leaf : former.isLeaf = true) (node : Node) :
    Node.over (some former) node = node := by
  cases former with
  | tree => cases leaf
  | list => cases node <;> rfl
  | scalar => cases node <;> rfl

namespace Tree

variable {a b t : Tree} {q : Path}

/-- A tree spares what another one has at a path when it has no node there and no leaf in the
way. -/
def Spares (b : Tree) (q : Path) : Prop := b.get? q = none ∧ ∀ place, ¬ b.BlockedAt q place

theorem shadows_cons (t : Tree) (name : String) {rest : Path} (more : rest ≠ []) :
    (Node.tree t).shadows (name :: rest) =
      match t.below? name with
      | some child => (Node.tree child).shadows rest
      | none => true := by
  obtain ⟨next, tail, rfl⟩ := List.exists_cons_of_ne_nil more
  rw [Node.shadows_tree_cons]
  unfold below?
  cases Entries.find? name t with
  | none => rfl
  | some other => cases other <;> rfl

theorem shadows_eq_false (inside : q ≠ []) :
    (Node.tree t).shadows q = false ↔ t.get? q = none ∧ t.Open q := by
  induction q generalizing t with
  | nil => exact absurd rfl inside
  | cons name rest ih =>
    by_cases more : rest = []
    · subst more
      simp [get?_cons, open_name]
    · rw [shadows_cons t name more, open_cons more]
      cases below : t.below? name with
      | none => simp
      | some child => simp [get?_below below more, ih more]

theorem spares_iff : b.Spares q ↔ q = [] ∨ (Node.tree b).shadows q = false := by
  by_cases root : q = []
  · subst root
    simp [Spares]
  · simp only [Spares, root, false_or, shadows_eq_false root, open_iff]

instance (b : Tree) (q : Path) : Decidable (b.Spares q) := decidable_of_iff _ spares_iff.symm

/-- At every path a merge shows the node of the merged tree over the former one, or the former one
where the merged tree spares it. -/
theorem get?_mergeFrom (a : Tree) (sorted : Tree.Sorted b) (q : Path) :
    get? (mergeFrom a b) q =
      match b.get? q with
      | some found => some (Node.over (a.get? q) found)
      | none => if b.Spares q then a.get? q else none := by
  by_cases root : q = []
  · subst root
    simp
  · have merged := Node.at?_over (some (.tree a)) (show (Node.tree b).Sorted from sorted) q
    simp only [Node.over, Option.bind_some, ← get?_eq_at? _ root] at merged
    rw [merged]
    cases b.get? q with
    | some found => rfl
    | none =>
      cases shadows : (Node.tree b).shadows q <;> simp [spares_iff, root, shadows]

/-- What merging a tree over another makes of the two: the leaves and the trees of the merged one
stand, a leaf of the former one stays where it is spared and else gives way to what the merged one
has there, and there are no other leaves. -/
structure Overlaid (a b m : Tree) : Prop where
  leaves : ∀ q leaf, b.get? q = some leaf → leaf.isLeaf = true → m.get? q = some leaf
  trees : ∀ q child, b.get? q = some (.tree child) → ∃ merged, m.get? q = some (.tree merged)
  spared : ∀ q leaf, a.get? q = some leaf → leaf.isLeaf = true → b.Spares q →
    m.get? q = some leaf
  decided : ∀ q leaf, a.get? q = some leaf → leaf.isLeaf = true → ¬ b.Spares q →
    m.get? q = b.get? q
  origin : ∀ q leaf, m.get? q = some leaf → leaf.isLeaf = true →
    b.get? q = some leaf ∨ a.get? q = some leaf ∧ b.Spares q

theorem overlaid_mergeFrom (a : Tree) (sorted : Tree.Sorted b) : Overlaid a b (mergeFrom a b) where
  leaves q leaf found isLeaf := by
    rw [get?_mergeFrom a sorted, found]
    simp only [Node.over_leaf _ isLeaf]
  trees q child found := by
    rw [get?_mergeFrom a sorted, found]
    rcases Node.over_tree_cases (a.get? q) child with ⟨s, -, merged⟩ | ⟨-, alone⟩
    · exact ⟨_, congrArg some merged⟩
    · exact ⟨_, congrArg some alone⟩
  spared q leaf found isLeaf spares := by
    rw [get?_mergeFrom a sorted, spares.1]
    simp only [if_pos spares, found]
  decided q leaf found isLeaf decided := by
    rw [get?_mergeFrom a sorted, found]
    cases b.get? q with
    | some other => exact congrArg some (Node.over_former_leaf isLeaf other)
    | none => exact if_neg decided
  origin q leaf found isLeaf := by
    rw [get?_mergeFrom a sorted] at found
    cases here : b.get? q with
    | some other =>
      rw [here] at found
      obtain rfl : Node.over (a.get? q) other = leaf := Option.some.inj found
      rw [Node.isLeaf_over] at isLeaf
      exact .inl (congrArg some (Node.over_leaf _ isLeaf).symm)
    | none =>
      rw [here] at found
      dsimp only at found
      split at found
      next spares => exact .inr ⟨found, spares⟩
      next => cases found

theorem mergeFrom_nil (sorted : Tree.Sorted t) : mergeFrom [] t = t := by
  apply Entries.Sorted.ext Entries.lt_asymmetric (sorted_mergeFrom sorted_nil sorted).entries
    sorted.entries
  intro name
  rw [find?_mergeFrom [] sorted.entries]
  cases Entries.find? name t <;> simp

end Tree

/-- Merging a node where it has been merged already changes nothing. -/
theorem Node.over_over {node : Node} (sorted : node.Sorted) {mine : Option Node}
    (sortedMine : ∀ former ∈ mine, former.Sorted) :
    Node.over (some (Node.over mine node)) node = Node.over mine node := by
  induction node using Node.induction generalizing mine with
  | list => rfl
  | scalar => rfl
  | tree t ih =>
    have sortedT : Tree.Sorted t := sorted
    obtain ⟨s, sortedS, merged⟩ :
        ∃ s, Tree.Sorted s ∧ Node.over mine (.tree t) = .tree (Tree.mergeFrom s t) := by
      rcases Node.over_tree_cases mine t with ⟨s, rfl, merged⟩ | ⟨-, alone⟩
      · exact ⟨s, sortedMine (.tree s) rfl, merged⟩
      · exact ⟨[], Tree.sorted_nil, by rw [alone, Tree.mergeFrom_nil sortedT]⟩
    have once := Tree.sorted_mergeFrom sortedS sortedT
    have same : Tree.mergeFrom (Tree.mergeFrom s t) t = Tree.mergeFrom s t := by
      apply Entries.Sorted.ext Entries.lt_asymmetric (Tree.sorted_mergeFrom once sortedT).entries
        once.entries
      intro name
      rw [Tree.find?_mergeFrom _ sortedT.entries, Tree.find?_mergeFrom s sortedT.entries]
      cases found : Entries.find? name t with
      | none => rfl
      | some child =>
        exact congrArg some (ih (name, child) (Entries.mem_of_find? found) (sortedT.find? found)
          fun former listed => sortedS.find? listed)
    rw [merged]
    exact congrArg Node.tree same

namespace Tree

theorem mergeFrom_mergeFrom (sortedA : Tree.Sorted a) (sortedB : Tree.Sorted b) :
    mergeFrom (mergeFrom a b) b = mergeFrom a b := by
  have each : ∀ former ∈ some (Node.tree a), former.Sorted := by
    rintro _ ⟨⟩
    exact sortedA
  have same := Node.over_over (show (Node.tree b).Sorted from sortedB) each
  injection same

theorem mergeFrom_self (sorted : Tree.Sorted t) : mergeFrom t t = t := by
  have same := mergeFrom_mergeFrom sorted_nil sorted
  rwa [mergeFrom_nil sorted] at same

/-- Merging a tree over another keeps what it has itself and, of the leaves of the other, just those
it spares. A second time it changes nothing, nor does a tree that is merged into itself. -/
theorem mergeFrom_exact (sortedA : Tree.Sorted a) (sortedB : Tree.Sorted b) :
    Overlaid a b (mergeFrom a b) ∧ mergeFrom (mergeFrom a b) b = mergeFrom a b ∧
      mergeFrom a a = a :=
  ⟨overlaid_mergeFrom a sortedB, mergeFrom_mergeFrom sortedA sortedB, mergeFrom_self sortedA⟩

/-! Flags in one text that give way to a tree, a certificate that stays in a tree both have, and a
tree that gives way to a text. -/

def flagsAndServing : Tree :=
  [("apiServerArguments", .scalar (.text "--v=2")), ("audit", .tree [("path", .list ["log"])]),
    ("servingInfo", .tree [("cert", .list ["tls.crt"]), ("tls", .tree [])])]

def issuerAndServing : Tree :=
  [("apiServerArguments", .tree [("oidc-issuer-url", .list ["https://login.example"])]),
    ("audit", .scalar (.text "off")), ("servingInfo", .tree [("bind", .list ["0.0.0.0"])])]

theorem mergeFrom_exact_of_flags :
    Tree.Sorted flagsAndServing ∧ Tree.Sorted issuerAndServing ∧
      get? (mergeFrom flagsAndServing issuerAndServing) ["servingInfo", "cert"] =
        some (.list ["tls.crt"]) ∧
      get? (mergeFrom flagsAndServing issuerAndServing) ["audit", "path"] = none ∧
      ∃ flags, get? (mergeFrom flagsAndServing issuerAndServing) ["apiServerArguments"] =
        some (.tree flags) := by
  obtain ⟨overlaid, -, -⟩ := @mergeFrom_exact flagsAndServing issuerAndServing (by decide) (by decide)
  exact ⟨by decide, by decide,
    overlaid.spared ["servingInfo", "cert"] _ rfl rfl (by decide),
    overlaid.decided ["audit", "path"] _ rfl rfl (by decide),
    overlaid.trees ["apiServerArguments"] _ rfl⟩

end Tree

end ObservedConfig
