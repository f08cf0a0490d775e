import ObservedConfig.Proofs.Result
import ObservedConfig.Proofs.Tree.View

/-! Changing a tree at a path. `set` succeeds where no leaf stands in the way, puts the node at the
path and leaves every path apart from it as it was. `remove` takes away exactly the content at and
below the path, whichever trees it cleans up. -/
namespace ObservedConfig.Tree

/-- The tree in which a path goes on behind a name; a name without a node leads into an empty
tree. -/
def below? (t : Tree) (name : String) : Option Tree :=
  match Entries.find? name t with
  | none => some []
  | some (.tree child) => some child
  | some _ => none

/-- No scalar and no sequence stands on the way to a path. -/
def Open (t : Tree) (path : Path) : Prop :=
  ∀ p rest, path = p ++ rest → rest ≠ [] → ∀ node, t.get? p = some node → node.isLeaf = false

theorem below?_eq_some {t child : Tree} {name : String} :
    t.below? name = some child ↔
      (Entries.find? name t = none ∧ child = []) ∨ Entries.find? name t = some (.tree child) := by
  unfold below?
  cases Entries.find? name t with
  | none => simp [eq_comm]
  | some node => cases node <;> simp

/-- A path goes on behind every name but that of a leaf. -/
theorem below?_eq_none {t : Tree} {name : String} :
    t.below? name = none ↔ ∃ node, t.get? [name] = some node ∧ node.isLeaf = true := by
  rw [get?_cons]
  unfold below?
  cases Entries.find? name t with
  | none => simp
  | some node => cases node <;> simp [Node.isLeaf]

theorem get?_below {t child : Tree} {name : String} (below : t.below? name = some child)
    {rest : Path} (more : rest ≠ []) : t.get? (name :: rest) = child.get? rest := by
  rw [get?_cons]
  rcases below?_eq_some.mp below with ⟨absent, rfl⟩ | found
  · simp [absent]
  · rw [found, get?_eq_at? child more]
    rfl

theorem open_name (t : Tree) (name : String) : t.Open [name] := by
  intro p rest split more node found
  cases p with
  | nil => simp at found
  | cons first p =>
    obtain ⟨-, empty⟩ := List.cons.inj split
    exact absurd (List.append_eq_nil_iff.mp empty.symm).2 more

theorem open_cons {t : Tree} {name : String} {rest : Path} (more : rest ≠ []) :
    t.Open (name :: rest) ↔ ∃ child, t.below? name = some child ∧ child.Open rest := by
  constructor
  · intro clear
    have here : ∃ child, t.below? name = some child := by
      refine Option.ne_none_iff_exists'.mp fun blocked => ?_
      obtain ⟨node, found, leaf⟩ := below?_eq_none.mp blocked
      rw [clear [name] rest rfl more node found] at leaf
      cases leaf
    obtain ⟨child, below⟩ := here
    refine ⟨child, below, ?_⟩
    intro p tail split further node found
    have nonempty : p ≠ [] := by
      rintro rfl
      simp at found
    exact clear (name :: p) tail (by rw [split]; rfl) further node
      (by rw [get?_below below nonempty, found])
  · rintro ⟨child, below, clear⟩ p tail split further node found
    cases p with
    | nil => simp at found
    | cons first p =>
      obtain ⟨rfl, splitRest⟩ := List.cons.inj split
      cases p with
      | nil =>
        refine Bool.eq_false_iff.mpr fun leaf => ?_
        rw [below?_eq_none.mpr ⟨node, found, leaf⟩] at below
        cases below
      | cons second p =>
        rw [get?_below below (by simp)] at found
        exact clear (second :: p) tail splitRest further node found

theorem set_cons_eq_ok {t u : Tree} {name : String} {rest : Path} {node : Node}
    (more : rest ≠ []) : t.set (name :: rest) node = .ok u ↔
      ∃ child child', t.below? name = some child ∧ child.set rest node = .ok child' ∧
        u = Entries.insert name (.tree child') t := by
  obtain ⟨next, tail, rfl⟩ := List.exists_cons_of_ne_nil more
  unfold below?
  simp only [set]
  cases found : Entries.find? name t with
  | none => cases result : set [] (next :: tail) node <;> simp [result, Except.map, eq_comm]
  | some other =>
    cases other with
    | tree child =>
      cases result : set child (next :: tail) node <;>
        simp [result, Except.map, eq_comm]
    | list => simp
    | scalar => simp

/-- A node can be set wherever nothing stands in the way. -/
theorem exists_set {t : Tree} {path : Path} (nonempty : path ≠ []) (clear : t.Open path)
    (node : Node) : ∃ u, t.set path node = .ok u := by
  induction path generalizing t with
  | nil => exact absurd rfl nonempty
  | cons name rest ih =>
    by_cases more : rest = []
    · subst more
      exact ⟨Entries.insert name node t, by simp [set]⟩
    · obtain ⟨child, below, clear⟩ := (open_cons more).mp clear
      obtain ⟨child', result⟩ := ih more clear
      exact ⟨_, (set_cons_eq_ok more).mpr ⟨child, child', below, result, rfl⟩⟩

theorem open_of_set {t u : Tree} {path : Path} {node : Node} (result : t.set path node = .ok u) :
    t.Open path := by
  induction path generalizing t u with
  | nil => simp [set] at result
  | cons name rest ih =>
    by_cases more : rest = []
    · subst more
      exact open_name t name
    · obtain ⟨child, child', below, result, -⟩ := (set_cons_eq_ok more).mp result
      exact (open_cons more).mpr ⟨child, below, ih result⟩

theorem get?_set_append {t u : Tree} {path : Path} {node : Node}
    (result : t.set path node = .ok u) (rest : Path) : u.get? (path ++ rest) = node.at? rest := by
  induction path generalizing t u with
  | nil => simp [set] at result
  | cons name tail ih =>
    by_cases more : tail = []
    · subst more
      obtain rfl : Entries.insert name node t = u := by simpa [set] using result
      simp [get?_cons]
    · obtain ⟨child, child', below, inner, rfl⟩ := (set_cons_eq_ok more).mp result
      rw [List.cons_append, get?_cons, Entries.find?_insert_same, Option.bind_some,
        ← get?_eq_at? child' (by simp [more]), ih inner]

/-- Trees lead to a node that was set. -/
theorem get?_set_above {t u : Tree} {p rest : Path} {node : Node}
    (result : t.set (p ++ rest) node = .ok u) (nonempty : p ≠ []) (more : rest ≠ []) :
    ∃ child, u.get? p = some (.tree child) := by
  induction p generalizing t u with
  | nil => exact absurd rfl nonempty
  | cons name tail ih =>
    have further : tail ++ rest ≠ [] := by simp [more]
    obtain ⟨child, child', below, inner, rfl⟩ := (set_cons_eq_ok further).mp result
    by_cases last : tail = []
    · subst last
      exact ⟨child', by simp [get?_cons]⟩
    · obtain ⟨lower, found⟩ := ih inner last
      refine ⟨lower, ?_⟩
      rw [get?_cons, Entries.find?_insert_same, Option.bind_some, ← get?_eq_at? child' last, found]

/-- Setting a node changes nothing at paths apart from it. -/
theorem get?_set_apart {t u : Tree} {path q : Path} {node : Node}
    (result : t.set path node = .ok u) (notBelow : ¬ path <+: q) (notAbove : ¬ q <+: path) :
    u.get? q = t.get? q := by
  induction path generalizing t u q with
  | nil => simp at notBelow
  | cons name rest ih =>
    cases q with
    | nil => simp at notAbove
    | cons first q =>
      by_cases same : first = name
      · subst same
        rw [List.cons_prefix_cons] at notBelow notAbove
        have apart : ¬ rest <+: q := fun h => notBelow ⟨rfl, h⟩
        have apart' : ¬ q <+: rest := fun h => notAbove ⟨rfl, h⟩
        have more : rest ≠ [] := by
          rintro rfl
          simp at apart
        have further : q ≠ [] := by
          rintro rfl
          simp at apart'
        obtain ⟨child, child', below, inner, rfl⟩ := (set_cons_eq_ok more).mp result
        rw [get?_cons, Entries.find?_insert_same, Option.bind_some, ← get?_eq_at? child' further,
          ih inner apart apart', get?_below below further]
      · by_cases more : rest = []
        · subst more
          obtain rfl : Entries.insert name node t = u := by simpa [set] using result
          rw [get?_cons, get?_cons, Entries.find?_insert_other same]
        · obtain ⟨child, child', below, inner, rfl⟩ := (set_cons_eq_ok more).mp result
          rw [get?_cons, get?_cons, Entries.find?_insert_other same]

/-- Below a node that was set there is the content of that node. -/
theorem content?_set_append {t u : Tree} {path : Path} {node : Node}
    (result : t.set path node = .ok u) (rest : Path) :
    u.content? (path ++ rest) = node.content? rest := by
  rw [content?, get?_set_append result, Node.content?]

/-- Elsewhere setting a node keeps all content, also above it. -/
theorem content?_set_other {t u : Tree} {path q : Path} {node : Node}
    (result : t.set path node = .ok u) (notBelow : ¬ path <+: q) :
    u.content? q = t.content? q := by
  by_cases above : q <+: path
  · by_cases root : q = []
    · subst root
      simp
    · obtain ⟨rest, rfl⟩ := above
      have more : rest ≠ [] := by
        rintro rfl
        simp at notBelow
      obtain ⟨child, found⟩ := get?_set_above result root more
      have former : t.content? q = none := by
        cases seen : t.get? q with
        | none => simp [content?, seen]
        | some other =>
          have inner := open_of_set result q rest rfl more other seen
          simp [content?, seen, Node.isSolid, inner]
      rw [former, content?, found]
      rfl
  · rw [content?, content?, get?_set_apart result notBelow above]

theorem sorted_insert {t : Tree} (sorted : Tree.Sorted t) {name : String} {node : Node}
    (sortedNode : node.Sorted) : Tree.Sorted (Entries.insert name node t) := by
  obtain ⟨ordered, below⟩ := (sorted_iff t).mp sorted
  refine (sorted_iff _).mpr ⟨Entries.sorted_insert_name name node ordered, fun entry member => ?_⟩
  rcases Entries.mem_insert member with rfl | former
  · exact sortedNode
  · exact below entry former

theorem sorted_below? {t child : Tree} (sorted : Tree.Sorted t) {name : String}
    (below : t.below? name = some child) : Tree.Sorted child := by
  rcases below?_eq_some.mp below with ⟨-, rfl⟩ | found
  · trivial
  · exact Sorted.find? sorted found

theorem sorted_set {t u : Tree} {path : Path} {node : Node} (sorted : Tree.Sorted t)
    (sortedNode : node.Sorted) (result : t.set path node = .ok u) : Tree.Sorted u := by
  induction path generalizing t u with
  | nil => simp [set] at result
  | cons name rest ih =>
    by_cases more : rest = []
    · subst more
      obtain rfl : Entries.insert name node t = u := by simpa [set] using result
      exact sorted_insert sorted sortedNode
    · obtain ⟨child, child', below, inner, rfl⟩ := (set_cons_eq_ok more).mp result
      have ordered : (Node.tree child').Sorted := ih (sorted_below? sorted below) inner
      exact sorted_insert sorted ordered

theorem get?_cons_eq_some {t : Tree} {name : String} {rest : Path} {node : Node}
    (more : rest ≠ []) : t.get? (name :: rest) = some node ↔
      ∃ child, Entries.find? name t = some (.tree child) ∧ get? child rest = some node := by
  obtain ⟨next, tail, rfl⟩ := List.exists_cons_of_ne_nil more
  simp only [get?]
  cases Entries.find? name t with
  | none => simp
  | some other => cases other <;> simp

/-- What is taken out is what stands at the path. -/
theorem take?_fst (t : Tree) (path : Path) : (t.take? path).map Prod.fst = t.get? path := by
  induction path generalizing t with
  | nil => simp [take?]
  | cons name rest ih =>
    by_cases more : rest = []
    · subst more
      simp [take?, get?_cons, Option.map_map, Function.comp_def]
    · obtain ⟨next, tail, rfl⟩ := List.exists_cons_of_ne_nil more
      simp only [take?, get?]
      cases Entries.find? name t with
      | none => rfl
      | some other =>
        cases other with
        | tree child => simp [← ih child, Option.map_map, Function.comp_def]
        | list => rfl
        | scalar => rfl

theorem remove_of_absent {t : Tree} {path : Path} (absent : t.get? path = none) :
    t.remove path = t := by
  rw [← take?_fst, Option.map_eq_none_iff] at absent
  simp [remove, absent]

theorem remove_name (t : Tree) (name : String) : t.remove [name] = Entries.erase name t := by
  cases found : Entries.find? name t with
  | none => simp [remove, take?, found, Entries.erase_of_absent found]
  | some other => simp [remove, take?, found]

/-- Below a tree that the path goes through, the node is taken out of that tree, which goes as well
when it is empty then. -/
theorem remove_through {t child : Tree} {name : String} {rest : Path} {node : Node}
    (more : rest ≠ []) (through : Entries.find? name t = some (.tree child))
    (found : get? child rest = some node) :
    t.remove (name :: rest) =
      if (remove child rest).isEmpty then Entries.erase name t
      else Entries.insert name (.tree (remove child rest)) t := by
  obtain ⟨next, tail, rfl⟩ := List.exists_cons_of_ne_nil more
  rw [← take?_fst] at found
  obtain ⟨⟨_, left⟩, taken, -⟩ := Option.map_eq_some_iff.mp found
  simp [remove, take?, through, taken]

/-- Removing a path takes away the content at and below it and no other. -/
theorem content?_remove (t : Tree) {path : Path} (nonempty : path ≠ []) (q : Path) :
    (t.remove path).content? q = if path <+: q then none else t.content? q := by
  induction path generalizing t q with
  | nil => exact absurd rfl nonempty
  | cons name rest ih =>
    cases seen : t.get? (name :: rest) with
    | none =>
      rw [remove_of_absent seen]
      split
      next below =>
        obtain ⟨behind, rfl⟩ := below
        rw [content?_append t nonempty, seen]
        rfl
      next => rfl
    | some node =>
      cases q with
      | nil => simp
      | cons first q =>
        simp only [content?_cons, List.cons_prefix_cons]
        by_cases more : rest = []
        · subst more
          rw [remove_name]
          by_cases same : name = first
          · subst same
            simp
          · simp [same, Entries.find?_erase_other (Ne.symm same)]
        · obtain ⟨child, through, found⟩ := (get?_cons_eq_some more).mp seen
          rw [remove_through more through found]
          by_cases same : name = first
          · subst same
            have inner := ih child more q
            simp only [true_and, through, Option.bind_some, ← content?_eq]
            rw [← inner]
            split
            next empty => simp [List.isEmpty_iff.mp empty]
            next => simp [← content?_eq]
          · simp only [same, false_and, if_false]
            split
            · rw [Entries.find?_erase_other (Ne.symm same)]
            · rw [Entries.find?_insert_other (Ne.symm same)]

theorem sorted_erase {t : Tree} (sorted : Tree.Sorted t) (name : String) :
    Tree.Sorted (Entries.erase name t) := by
  obtain ⟨ordered, below⟩ := (sorted_iff t).mp sorted
  exact (sorted_iff _).mpr ⟨Entries.sorted_erase name ordered,
    fun entry member => below entry (Entries.mem_erase member)⟩

theorem sorted_remove {t : Tree} (sorted : Tree.Sorted t) (path : Path) :
    Tree.Sorted (t.remove path) := by
  induction path generalizing t with
  | nil => simpa [remove, take?] using sorted
  | cons name rest ih =>
    cases seen : t.get? (name :: rest) with
    | none => rwa [remove_of_absent seen]
    | some node =>
      by_cases more : rest = []
      · subst more
        rw [remove_name]
        exact sorted_erase sorted name
      · obtain ⟨child, through, found⟩ := (get?_cons_eq_some more).mp seen
        have inner : (Node.tree (remove child rest)).Sorted := ih (Sorted.find? sorted through)
        rw [remove_through more through found]
        split
        · exact sorted_erase sorted name
        · exact sorted_insert sorted inner

end ObservedConfig.Tree
