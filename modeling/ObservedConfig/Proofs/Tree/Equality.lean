import ObservedConfig.Proofs.Tree.Pruning

/-! Equality of trees. Floating point values are compared as numbers, so a tree equals itself when
it holds no NaN. -/
namespace ObservedConfig

/-- No NaN stands in the node. -/
def Node.NaNFree (node : Node) : Prop :=
  ∀ path x, node.at? path = some (.scalar (.float x)) → x.isNaN = false

def Tree.NaNFree (t : Tree) : Prop :=
  ∀ path x, t.get? path = some (.scalar (.float x)) → x.isNaN = false

theorem Node.naNFree_list (values : List String) : (Node.list values).NaNFree := floats_list values

theorem Node.naNFree_tree {t : Tree} (each : ∀ entry ∈ t, entry.2.NaNFree) :
    (Node.tree t).NaNFree :=
  floats_tree each

theorem Tree.naNFree_iff_node (t : Tree) : t.NaNFree ↔ (Node.tree t).NaNFree := floats_iff_node t

theorem Scalar.same_self {value : Scalar} (numeric : ∀ x, value = .float x → x.isNaN = false) :
    value.same value = true := by
  cases value with
  | float x => exact Binary64.same_self (numeric x rfl)
  | bool => simp [same]
  | int => simp [same]
  | text => simp [same]

theorem Tree.same_of_entries {t : Tree} (same : ∀ entry ∈ t, entry.2.same entry.2 = true) :
    Tree.same t t = true := by
  induction t with
  | nil => rfl
  | cons entry rest ih =>
    obtain ⟨here, later⟩ := List.forall_mem_cons.mp same
    simp [Tree.same, here, ih later]

theorem Node.same_self {node : Node} (sorted : node.Sorted) (numeric : node.NaNFree) :
    node.same node = true := by
  induction node using Node.induction with
  | list values => simp [same]
  | scalar value =>
    refine Scalar.same_self fun x float => numeric [] x ?_
    rw [float, at?_nil]
  | tree t ih =>
    obtain ⟨ordered, below⟩ := (Tree.sorted_iff t).mp sorted
    exact Tree.same_of_entries fun entry member => ih entry member (below entry member)
      (Node.Floats.child ordered numeric member)

theorem Tree.same_self {t : Tree} (sorted : Tree.Sorted t) (numeric : t.NaNFree) :
    Tree.same t t = true :=
  Node.same_self (show (Node.tree t).Sorted from sorted) ((naNFree_iff_node t).mp numeric)

theorem Tree.entries_of_same {t : Tree} (same : Tree.same t t = true) :
    ∀ entry ∈ t, entry.2.same entry.2 = true := by
  induction t with
  | nil => simp
  | cons entry rest ih =>
    simp only [Tree.same, Bool.and_eq_true] at same
    exact List.forall_mem_cons.mpr ⟨same.1.2, ih same.2⟩

theorem Node.naNFree_of_same {node : Node} (same : node.same node = true) : node.NaNFree := by
  induction node using Node.induction with
  | list values => exact naNFree_list values
  | scalar value =>
    intro path x found
    cases path with
    | cons => cases found
    | nil =>
      obtain rfl : value = .float x := by simpa using found
      cases nan : x.isNaN with
      | false => rfl
      | true =>
        simp only [Node.same, Scalar.same, Binary64.not_same_of_isNaN nan] at same
        cases same
  | tree t ih =>
    exact naNFree_tree fun entry member => ih entry member (Tree.entries_of_same same entry member)

/-- A tree equals itself just when no NaN stands in it. -/
theorem Tree.same_self_iff {t : Tree} (sorted : Tree.Sorted t) :
    Tree.same t t = true ↔ t.NaNFree :=
  ⟨fun same => (naNFree_iff_node t).mpr (@Node.naNFree_of_same (.tree t) same),
    same_self sorted⟩

/-- Equal trees bind the same names to equal nodes. -/
theorem Tree.find?_of_same {s t : Tree} (same : Tree.same s t = true) (name : String) :
    (Entries.find? name s = none ∧ Entries.find? name t = none) ∨
      ∃ a b, Entries.find? name s = some a ∧ Entries.find? name t = some b ∧ a.same b = true := by
  induction s generalizing t with
  | nil =>
    cases t with
    | nil => exact .inl ⟨rfl, rfl⟩
    | cons => cases same
  | cons first restS ih =>
    cases t with
    | nil => cases same
    | cons second restT =>
      simp only [Tree.same, Bool.and_eq_true, beq_iff_eq] at same
      obtain ⟨⟨names, here⟩, later⟩ := same
      by_cases head : name = first.1
      · subst head
        exact .inr ⟨first.2, second.2, by simp, by rw [names, Entries.find?_cons_same], here⟩
      · rw [Entries.find?_cons_other head, Entries.find?_cons_other (names ▸ head)]
        exact ih later

/-- Equality is coarser than identity on numbers, but not on sequences. -/
theorem Node.list?_of_same {a b : Node} (same : a.same b = true) (path : Path) :
    (a.at? path).bind Node.list? = (b.at? path).bind Node.list? := by
  induction a using Node.induction generalizing b path with
  | list values =>
    cases b with
    | list others =>
      obtain rfl : values = others := by simpa [Node.same] using same
      rfl
    | scalar => cases same
    | tree => cases same
  | scalar value =>
    cases b with
    | list => cases same
    | scalar other => cases path <;> rfl
    | tree => cases same
  | tree s ih =>
    cases b with
    | list => cases same
    | scalar => cases same
    | tree t =>
      cases path with
      | nil => rfl
      | cons name rest =>
        rw [at?_tree_cons, at?_tree_cons]
        rcases Tree.find?_of_same (show Tree.same s t = true from same) name with
          ⟨none, none'⟩ | ⟨a, b, found, found', equal⟩
        · rw [none, none']
        · rw [found, found']
          exact ih _ (Entries.mem_of_find? found) equal rest

theorem Tree.list?_of_same {s t : Tree} (same : Tree.same s t = true) (path : Path) :
    (s.get? path).bind Node.list? = (t.get? path).bind Node.list? := by
  by_cases root : path = []
  · subst root
    simp
  · rw [get?_eq_at? s root, get?_eq_at? t root]
    exact @Node.list?_of_same (.tree s) (.tree t) same path

/-- A NaN counts as content. -/
theorem Tree.naNFree_iff (t : Tree) :
    t.NaNFree ↔ ∀ path x, t.content? path = some (.scalar (.float x)) → x.isNaN = false := by
  have same : ∀ path x, t.content? path = some (.scalar (.float x)) ↔
      t.get? path = some (.scalar (.float x)) := by
    intro path x
    simp [content?, Option.filter_eq_some_iff, Node.isSolid, Node.isLeaf, Node.isEmptyContainer]
  simp only [NaNFree, same]

theorem Tree.naNFree_pruned {t : Tree} (sorted : Tree.Sorted t) :
    NaNFree (Tree.pruned t) ↔ t.NaNFree := by
  simp only [naNFree_iff, content?_pruned sorted]

/-- No number stands at a sequence or below it. -/
theorem Tree.not_float_of_list {t : Tree} {p q : Path} (nonempty : p ≠ []) (below : p <+: q)
    (lists : ∀ node, t.get? p = some node → ∃ values, node = .list values) (x : Binary64) :
    t.content? q ≠ some (.scalar (.float x)) := by
  obtain ⟨rest, rfl⟩ := below
  rw [content?_append t nonempty]
  intro content
  obtain ⟨node, found, content⟩ := Option.bind_eq_some_iff.mp content
  obtain ⟨values, rfl⟩ := lists node found
  cases rest with
  | nil =>
    rw [Node.content?_nil] at content
    split at content <;> cases content
  | cons => cases content

end ObservedConfig
