import ObservedConfig.Proofs.Entries
import ObservedConfig.Tree

/-! What a tree shows at its paths. `Node.at?` follows a path from a node, the empty path included,
and `get?` is the same from the root of a tree. `content?` keeps only what configures anything:
scalars and sequences with an element. A sorted tree without empty containers is determined by its
content. -/
namespace ObservedConfig

theorem Node.induction {motive : Node → Prop} (list : ∀ values, motive (.list values))
    (scalar : ∀ value, motive (.scalar value))
    (tree : ∀ entries, (∀ entry ∈ entries, motive entry.2) → motive (.tree entries))
    (node : Node) : motive node := by
  refine @Node.rec motive (fun entries => ∀ entry ∈ entries, motive entry.2)
    (fun entry => motive entry.2) list scalar tree ?_ ?_ ?_ node
  · intro entry member
    cases member
  · intro head rest here there entry member
    rcases List.mem_cons.mp member with rfl | later
    · exact here
    · exact there entry later
  · intro name node here
    exact here

mutual

def Node.decideSorted : (node : Node) → Decidable node.Sorted
  | .tree entries => Tree.decideSorted entries
  | .list _ => .isTrue trivial
  | .scalar _ => .isTrue trivial

def Tree.decideSorted : (t : List (String × Node)) → Decidable (Tree.Sorted t)
  | [] => .isTrue trivial
  | (_, node) :: rest =>
    have := node.decideSorted
    have := Tree.decideSorted rest
    inferInstanceAs (Decidable (_ ∧ _ ∧ _))

end

instance (t : List (String × Node)) : Decidable (Tree.Sorted t) := Tree.decideSorted t

theorem Tree.sorted_nil : Tree.Sorted [] := trivial

theorem Tree.sorted_iff (t : Tree) :
    Tree.Sorted t ↔ Entries.Sorted t ∧ ∀ entry ∈ t, entry.2.Sorted := by
  induction t with
  | nil => simp [Tree.Sorted, Entries.Sorted]
  | cons entry rest ih =>
    obtain ⟨name, node⟩ := entry
    simp only [Tree.Sorted, ih, Entries.Sorted, List.pairwise_cons, List.forall_mem_cons]
    constructor
    · rintro ⟨before, here, ordered, below⟩
      exact ⟨⟨before, ordered⟩, here, below⟩
    · rintro ⟨⟨before, ordered⟩, here, below⟩
      exact ⟨before, here, ordered, below⟩

theorem Tree.pruned_iff (t : Tree) :
    Tree.Pruned t ↔ ∀ entry ∈ t, entry.2.isEmptyContainer = false ∧ entry.2.Pruned := by
  induction t with
  | nil => simp [Tree.Pruned]
  | cons entry rest ih =>
    obtain ⟨name, node⟩ := entry
    simp only [Tree.Pruned, ih, List.forall_mem_cons, and_assoc]

theorem Tree.Sorted.entries {t : Tree} (sorted : Tree.Sorted t) : Entries.Sorted t :=
  ((Tree.sorted_iff t).mp sorted).1

theorem Tree.Sorted.find? {t : Tree} (sorted : Tree.Sorted t) {name : String} {node : Node}
    (found : Entries.find? name t = some node) : node.Sorted :=
  ((Tree.sorted_iff t).mp sorted).2 _ (Entries.mem_of_find? found)

theorem Tree.Pruned.find? {t : Tree} (pruned : Tree.Pruned t) {name : String} {node : Node}
    (found : Entries.find? name t = some node) : node.isEmptyContainer = false ∧ node.Pruned :=
  (Tree.pruned_iff t).mp pruned _ (Entries.mem_of_find? found)

namespace Node

def at? : Node → Path → Option Node
  | node, [] => some node
  | .tree entries, name :: rest => (Entries.find? name entries).bind fun child => child.at? rest
  | _, _ :: _ => none

/-- Whether a node configures anything by itself: a scalar, or a sequence with an element. -/
def isSolid (node : Node) : Bool := node.isLeaf && !node.isEmptyContainer

def content? (node : Node) (path : Path) : Option Node := (node.at? path).filter isSolid

theorem isLeaf_of_isSolid {node : Node} (solid : node.isSolid = true) : node.isLeaf = true := by
  simp only [isSolid, Bool.and_eq_true] at solid
  exact solid.1

@[simp] theorem at?_nil (node : Node) : node.at? [] = some node := by cases node <;> rfl

@[simp] theorem at?_tree_cons (t : Tree) (name : String) (rest : Path) :
    (Node.tree t).at? (name :: rest) = (Entries.find? name t).bind fun child => child.at? rest :=
  rfl

theorem at?_leaf_cons {node : Node} (leaf : node.isLeaf = true) (name : String) (rest : Path) :
    node.at? (name :: rest) = none := by
  cases node with
  | tree => cases leaf
  | list => rfl
  | scalar => rfl

theorem at?_append (node : Node) (p q : Path) :
    node.at? (p ++ q) = (node.at? p).bind fun child => child.at? q := by
  induction p generalizing node with
  | nil => simp
  | cons name rest ih =>
    cases node with
    | tree t => cases h : Entries.find? name t <;> simp [h, ih]
    | list => rfl
    | scalar => rfl

theorem content?_nil (node : Node) :
    node.content? [] = if node.isSolid then some node else none := by
  simp [content?, Option.filter]

@[simp] theorem content?_tree_cons (t : Tree) (name : String) (rest : Path) :
    (Node.tree t).content? (name :: rest) =
      (Entries.find? name t).bind fun child => child.content? rest := by
  cases h : Entries.find? name t <;> simp [content?, h]

@[simp] theorem content?_tree_nil (t : Tree) : (Node.tree t).content? [] = none := rfl

theorem content?_leaf_cons {node : Node} (leaf : node.isLeaf = true) (name : String)
    (rest : Path) : node.content? (name :: rest) = none := by
  simp [content?, at?_leaf_cons leaf]

theorem content?_append (node : Node) (p q : Path) :
    node.content? (p ++ q) = (node.at? p).bind fun child => child.content? q := by
  cases h : node.at? p <;> simp [content?, at?_append, h]

/-- Nothing lies below content. -/
theorem content?_below {node : Node} {p : Path} {value : Node}
    (content : node.content? p = some value) (name : String) (rest : Path) :
    node.content? (p ++ name :: rest) = none := by
  obtain ⟨found, solid⟩ := Option.filter_eq_some_iff.mp content
  simp [content?_append, found, content?_leaf_cons (isLeaf_of_isSolid solid)]

end Node

namespace Tree

@[simp] theorem get?_nil (t : Tree) : t.get? [] = none := by simp [get?]

theorem get?_cons (t : Tree) (name : String) (rest : Path) :
    t.get? (name :: rest) = (Entries.find? name t).bind fun child => child.at? rest := by
  induction rest generalizing t name with
  | nil => cases h : Entries.find? name t <;> simp [get?, h]
  | cons next rest ih =>
    cases h : Entries.find? name t with
    | none => simp [get?, h]
    | some child =>
      cases child with
      | tree child => simp [get?, h, ih]
      | list => simp [get?, h, Node.at?]
      | scalar => simp [get?, h, Node.at?]

@[simp] theorem get?_empty (path : Path) : get? [] path = none := by
  cases path <;> simp [get?_cons]

theorem get?_eq_at? (t : Tree) {path : Path} (nonempty : path ≠ []) :
    t.get? path = (Node.tree t).at? path := by
  cases path with
  | nil => exact absurd rfl nonempty
  | cons name rest => exact get?_cons t name rest

theorem get?_append (t : Tree) {p : Path} (nonempty : p ≠ []) (q : Path) :
    t.get? (p ++ q) = (t.get? p).bind fun child => child.at? q := by
  rw [get?_eq_at? t (by simp [nonempty]), get?_eq_at? t nonempty, Node.at?_append]

/-- Nothing stands behind a leaf. -/
theorem get?_behind_leaf {t : Tree} {p : Path} {leaf : Node} (found : t.get? p = some leaf)
    (isLeaf : leaf.isLeaf = true) (name : String) (rest : Path) :
    t.get? (p ++ name :: rest) = none := by
  have nonempty : p ≠ [] := by
    rintro rfl
    simp at found
  rw [get?_append t nonempty, found, Option.bind_some, Node.at?_leaf_cons isLeaf]

/-- The scalar or the sequence with an element at a path. -/
def content? (t : Tree) (path : Path) : Option Node := (t.get? path).filter Node.isSolid

theorem content?_eq_some {t : Tree} {path : Path} {value : Node} :
    t.content? path = some value ↔ t.get? path = some value ∧ value.isSolid = true :=
  Option.filter_eq_some_iff

theorem content?_eq (t : Tree) (path : Path) : t.content? path = (Node.tree t).content? path := by
  cases path with
  | nil => simp [content?]
  | cons name rest => simp [content?, Node.content?, get?_cons]

@[simp] theorem content?_nil (t : Tree) : t.content? [] = none := by simp [content?]

@[simp] theorem content?_empty (path : Path) : content? [] path = none := by simp [content?]

theorem content?_cons (t : Tree) (name : String) (rest : Path) :
    t.content? (name :: rest) = (Entries.find? name t).bind fun child => child.content? rest := by
  rw [content?_eq, Node.content?_tree_cons]

theorem content?_append (t : Tree) {p : Path} (nonempty : p ≠ []) (q : Path) :
    t.content? (p ++ q) = (t.get? p).bind fun child => child.content? q := by
  rw [content?_eq, Node.content?_append, get?_eq_at? t nonempty]

theorem content?_below {t : Tree} {p : Path} {value : Node} (content : t.content? p = some value)
    (name : String) (rest : Path) : t.content? (p ++ name :: rest) = none := by
  rw [content?_eq] at content ⊢
  exact Node.content?_below content name rest

/-- Content at one of two paths of which one continues the other excludes content at the other. -/
theorem content?_unique {t : Tree} {p q : Path} {a b : Node} (first : t.content? p = some a)
    (second : t.content? q = some b) (comparable : p <+: q ∨ q <+: p) : p = q := by
  rcases comparable with ⟨rest, rfl⟩ | ⟨rest, rfl⟩
  · cases rest with
    | nil => simp
    | cons name rest => simp [content?_below first name rest] at second
  · cases rest with
    | nil => simp
    | cons name rest => simp [content?_below second name rest] at first

end Tree

def Node.Floats (p : Binary64 → Prop) (node : Node) : Prop :=
  ∀ path x, node.at? path = some (.scalar (.float x)) → p x

def Tree.Floats (p : Binary64 → Prop) (t : Tree) : Prop :=
  ∀ path x, t.get? path = some (.scalar (.float x)) → p x

section Floats
variable {p : Binary64 → Prop}

theorem Node.floats_list (values : List String) : (Node.list values).Floats p := by
  intro path x found
  cases path <;> cases found

theorem Node.floats_scalar {value : Scalar} (each : ∀ x, value = .float x → p x) :
    (Node.scalar value).Floats p := by
  intro path x found
  cases path with
  | nil =>
    cases found
    exact each x rfl
  | cons name rest => cases found

theorem Node.floats_tree {t : Tree} (each : ∀ entry ∈ t, entry.2.Floats p) :
    (Node.tree t).Floats p := by
  intro path x found
  cases path with
  | nil => cases found
  | cons name rest =>
    obtain ⟨child, listed, below⟩ := Option.bind_eq_some_iff.mp found
    exact each _ (Entries.mem_of_find? listed) rest x below

theorem Node.Floats.child {t : Tree} (sorted : Entries.Sorted t) (all : (Node.tree t).Floats p)
    {entry : String × Node} (member : entry ∈ t) : entry.2.Floats p := by
  intro path x found
  apply all (entry.1 :: path) x
  rw [at?_tree_cons, sorted.find?_of_mem Entries.lt_asymmetric member]
  exact found

theorem Tree.floats_iff_node (t : Tree) : t.Floats p ↔ (Node.tree t).Floats p := by
  constructor
  · rintro all (_ | ⟨name, rest⟩) x found
    · cases found
    · exact all (name :: rest) x ((get?_cons t name rest).trans found)
  · rintro all (_ | ⟨name, rest⟩) x found
    · simp at found
    · exact all (name :: rest) x ((get?_cons t name rest).symm.trans found)

end Floats

/-- A node that is no empty container and has none below it holds content. -/
theorem Node.exists_content (node : Node) (filled : node.isEmptyContainer = false)
    (pruned : node.Pruned) : ∃ path value, node.content? path = some value := by
  induction node using Node.induction with
  | list values =>
    exact ⟨[], .list values, by simp [Node.content?_nil, Node.isSolid, Node.isLeaf, filled]⟩
  | scalar value =>
    exact ⟨[], .scalar value, by simp [Node.content?_nil, Node.isSolid, Node.isLeaf, filled]⟩
  | tree entries ih =>
    cases entries with
    | nil => cases filled
    | cons entry rest =>
      obtain ⟨here, below⟩ := (Tree.pruned_iff _).mp pruned entry List.mem_cons_self
      obtain ⟨path, value, content⟩ := ih entry List.mem_cons_self here below
      exact ⟨entry.1 :: path, value, by simpa using content⟩

theorem Node.content?_nil_of_leaf {node : Node} (leaf : node.isLeaf = true)
    (filled : node.isEmptyContainer = false) : node.content? [] = some node := by
  simp [Node.content?_nil, isSolid, leaf, filled]

theorem Node.eq_of_content?_nil {node value : Node} (content : node.content? [] = some value) :
    node = value := by
  obtain ⟨found, -⟩ := Option.filter_eq_some_iff.mp content
  simpa using found

/-- Where two nodes without empty containers may each be missing, a node on one side only would hold
content that the other side lacks. -/
theorem Node.option_eq_of_content {a b : Option Node}
    (fullA : ∀ node ∈ a, node.isEmptyContainer = false ∧ node.Pruned)
    (fullB : ∀ node ∈ b, node.isEmptyContainer = false ∧ node.Pruned)
    (equal : ∀ x ∈ a, ∀ y ∈ b, (∀ path, x.content? path = y.content? path) → x = y)
    (same : ∀ path, (a.bind fun node => node.content? path) =
      b.bind fun node => node.content? path) : a = b := by
  cases a with
  | none =>
    cases b with
    | none => rfl
    | some y =>
      obtain ⟨path, value, content⟩ := y.exists_content (fullB y rfl).1 (fullB y rfl).2
      cases (same path).trans content
  | some x =>
    cases b with
    | none =>
      obtain ⟨path, value, content⟩ := x.exists_content (fullA x rfl).1 (fullA x rfl).2
      cases (same path).symm.trans content
    | some y => exact congrArg some (equal x rfl y rfl same)

/-- Sorted nodes without empty containers that have the same content are the same. -/
theorem Node.eq_of_content {a b : Node} (sortedA : a.Sorted) (sortedB : b.Sorted)
    (prunedA : a.Pruned) (prunedB : b.Pruned) (filledA : a.isEmptyContainer = false)
    (filledB : b.isEmptyContainer = false) (same : ∀ path, a.content? path = b.content? path) :
    a = b := by
  induction a using Node.induction generalizing b with
  | list values =>
    exact (eq_of_content?_nil ((same []).symm.trans (content?_nil_of_leaf rfl filledA))).symm
  | scalar value =>
    exact (eq_of_content?_nil ((same []).symm.trans (content?_nil_of_leaf rfl filledA))).symm
  | tree s ih =>
    cases b with
    | list values => exact eq_of_content?_nil ((same []).trans (content?_nil_of_leaf rfl filledB))
    | scalar value => exact eq_of_content?_nil ((same []).trans (content?_nil_of_leaf rfl filledB))
    | tree t =>
      congr 1
      apply Entries.Sorted.ext Entries.lt_asymmetric (Tree.Sorted.entries sortedA)
        (Tree.Sorted.entries sortedB)
      intro name
      refine Node.option_eq_of_content (fun _ found => Tree.Pruned.find? prunedA found)
        (fun _ found => Tree.Pruned.find? prunedB found) ?_ fun path => ?_
      · intro x foundX y foundY below
        obtain ⟨filledX, prunedX⟩ := Tree.Pruned.find? prunedA foundX
        obtain ⟨filledY, prunedY⟩ := Tree.Pruned.find? prunedB foundY
        exact ih (name, x) (Entries.mem_of_find? foundX) (Tree.Sorted.find? sortedA foundX)
          (Tree.Sorted.find? sortedB foundY) prunedX prunedY filledX filledY below
      · simpa using same (name :: path)

/-- A tree without empty containers and without content is empty. -/
theorem Tree.eq_nil_of_content {t : Tree} (pruned : Tree.Pruned t)
    (bare : ∀ path, t.content? path = none) : t = [] := by
  cases t with
  | nil => rfl
  | cons entry rest =>
    obtain ⟨path, value, content⟩ := (Node.tree (entry :: rest)).exists_content rfl pruned
    rw [← Tree.content?_eq, bare path] at content
    cases content

/-- A sorted tree without empty containers is determined by its content. -/
theorem Tree.eq_of_content {s t : Tree} (sortedS : Tree.Sorted s) (sortedT : Tree.Sorted t)
    (prunedS : Tree.Pruned s) (prunedT : Tree.Pruned t)
    (same : ∀ path, s.content? path = t.content? path) : s = t := by
  cases s with
  | nil => exact (Tree.eq_nil_of_content prunedT fun path => by rw [← same path]; simp).symm
  | cons a restA =>
    cases t with
    | nil => exact Tree.eq_nil_of_content prunedS fun path => by rw [same path]; simp
    | cons b restB =>
      have equal := Node.eq_of_content (a := .tree (a :: restA)) (b := .tree (b :: restB)) sortedS
        sortedT prunedS prunedT rfl rfl fun path => by simpa only [Tree.content?_eq] using same path
      injection equal

end ObservedConfig
