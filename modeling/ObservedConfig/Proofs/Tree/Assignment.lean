import ObservedConfig.Proofs.Tree.Sequence

/-! Setting a node in place. The way to the node is walked name by name, and trees that are missing
on it are put in while it is walked, so an assignment that fails might leave some of them behind. It
does not: where a tree is missing everything below is missing too, and nothing can stand in the way
any more. -/
namespace ObservedConfig

namespace Tree

theorem open_empty (path : Path) : Open [] path := by
  intro p rest _ _ node found
  simp at found

theorem set_cons (t : Tree) (name : String) {rest : Path} (more : rest ≠ []) (node : Node) :
    t.set (name :: rest) node =
      match t.below? name with
      | some child => ((child.set rest node).mapError (Fault.under name)).map fun child =>
          Entries.insert name (.tree child) t
      | none => .error (.notMap [name]) := by
  obtain ⟨u, result⟩ := exists_set more (open_empty rest) node
  obtain ⟨next, tail, rfl⟩ := List.exists_cons_of_ne_nil more
  unfold below?
  simp only [set]
  cases Entries.find? name t with
  | none => simp [result]
  | some other => cases other <;> rfl

/-- Setting a node fails with the leaf that stands in the way. -/
theorem set_eq_error {t : Tree} {path : Path} (nonempty : path ≠ []) {node : Node} {fault : Fault} :
    t.set path node = .error fault ↔
      ∃ place, fault = .notMap place ∧ (Fault.notMap place).Obstructs t path := by
  induction path generalizing t fault with
  | nil => exact absurd rfl nonempty
  | cons name rest ih =>
    by_cases more : rest = []
    · subst more
      simp [set, Fault.obstructs_name]
    · rw [set_cons t name more]
      cases below : t.below? name with
      | none => simp [Fault.obstructs_of_leaf more below, eq_comm]
      | some child =>
        have fails : ((child.set rest node).mapError (Fault.under name)).map
            (fun child => Entries.insert name (.tree child) t) = .error fault ↔
              ∃ inner, child.set rest node = .error inner ∧ inner.under name = fault := by
          cases child.set rest node <;> simp [Except.map]
        simp only [fails, ih more, Fault.obstructs_below more below]
        constructor
        · rintro ⟨_, ⟨place, rfl, obstructs⟩, rfl⟩
          exact ⟨name :: place, rfl, _, obstructs, rfl⟩
        · rintro ⟨place, rfl, inner, obstructs, under⟩
          cases inner with
          | emptyPath => cases obstructs
          | notList => cases under
          | notMap below => exact ⟨_, ⟨below, rfl, obstructs⟩, under⟩

/-- An assignment comes to what `set` comes to, and one that fails leaves the tree as it was. -/
theorem assign_eq {t : Tree} (sorted : Tree.Sorted t) (path : Path) (node : Node) :
    t.assign path node =
      match t.set path node with
      | .ok u => (u, .ok ())
      | .error fault => (t, .error fault) := by
  induction path generalizing t with
  | nil => rfl
  | cons name rest ih =>
    by_cases more : rest = []
    · subst more
      rfl
    · obtain ⟨u, result⟩ := exists_set more (open_empty rest) node
      have missing := ih sorted_nil
      rw [result] at missing
      obtain ⟨next, tail, rfl⟩ := List.exists_cons_of_ne_nil more
      simp only [assign, set]
      cases found : Entries.find? name t with
      | none => simp [missing, result, Except.map]
      | some other =>
        cases other with
        | list => rfl
        | scalar => rfl
        | tree child =>
          have inner := ih (Sorted.find? sorted found)
          simp only [Option.getD_some, inner]
          cases Tree.set child (next :: tail) node with
          | ok => rfl
          | error fault =>
            -- The tree that is put back under the name is the one that stood there.
            simp [Entries.insert_self sorted.entries found, Except.map]

/-- A scalar or a sequence stands at a place where a path goes on. -/
def BlockedAt (t : Tree) (path place : Path) : Prop :=
  place ≠ [] ∧ place <+: path ∧ place ≠ path ∧ ∃ leaf, t.get? place = some leaf ∧ leaf.isLeaf = true

theorem blockedAt_iff {t : Tree} {path place : Path} :
    t.BlockedAt path place ↔ (Fault.notMap place).Obstructs t path := by
  constructor
  · rintro ⟨-, ⟨rest, rfl⟩, strict, leaf, found, isLeaf⟩
    refine ⟨⟨rest, ?_, rfl⟩, leaf, found, isLeaf⟩
    rintro rfl
    simp at strict
  · rintro ⟨⟨rest, more, rfl⟩, leaf, found, isLeaf⟩
    refine ⟨?_, List.prefix_append place rest, by simpa using more, leaf, found, isLeaf⟩
    rintro rfl
    simp at found

@[simp] theorem not_blockedAt_nil (t : Tree) (place : Path) : ¬ t.BlockedAt [] place :=
  fun ⟨nonempty, before, _⟩ => nonempty (List.prefix_nil.mp before)

/-- The way to a path is open when nothing stands in it. -/
theorem open_iff {t : Tree} {path : Path} : t.Open path ↔ ∀ place, ¬ t.BlockedAt path place := by
  simp only [blockedAt_iff, Fault.Obstructs]
  constructor
  · rintro clear place ⟨⟨rest, more, split⟩, node, found, isLeaf⟩
    rw [clear place rest split more node found] at isLeaf
    cases isLeaf
  · intro free place rest split more node found
    exact Bool.eq_false_iff.mpr fun isLeaf => free place ⟨⟨rest, more, split⟩, node, found, isLeaf⟩

/-- Nothing stands at a path with a leaf in its way. -/
theorem BlockedAt.get?_eq_none {t : Tree} {path place : Path} (blocked : t.BlockedAt path place) :
    t.get? path = none := by
  obtain ⟨-, ⟨rest, rfl⟩, strict, leaf, found, isLeaf⟩ := blocked
  have more : rest ≠ [] := by
    rintro rfl
    simp at strict
  obtain ⟨name, rest, rfl⟩ := List.exists_cons_of_ne_nil more
  exact get?_behind_leaf found isLeaf name rest

/-- No second leaf stands in the way of a path, since there is nothing behind the first. -/
theorem BlockedAt.eq {t : Tree} {path place other : Path} (first : t.BlockedAt path place)
    (second : t.BlockedAt path other) : place = other := by
  obtain ⟨-, before, -, leaf, found, isLeaf⟩ := first
  obtain ⟨-, before', -, leaf', found', isLeaf'⟩ := second
  rcases List.prefix_or_prefix_of_prefix before before' with ⟨rest, rfl⟩ | ⟨rest, rfl⟩
  · cases rest with
    | nil => simp
    | cons => simp [get?_behind_leaf found isLeaf] at found'
  · cases rest with
    | nil => simp
    | cons => simp [get?_behind_leaf found' isLeaf'] at found

/-- What putting a node in at a path makes of a tree: trees lead to the node, and apart from the
path nothing is different. -/
structure Placed (t u : Tree) (path : Path) (node : Node) : Prop where
  here : u.get? path = some node
  above : ∀ p, p ≠ [] → p <+: path → p ≠ path → ∃ child, u.get? p = some (.tree child)
  apart : ∀ q, ¬ q <+: path → ¬ path <+: q → u.get? q = t.get? q

theorem placed_of_set {t u : Tree} {path : Path} {node : Node} (result : t.set path node = .ok u) :
    Placed t u path node where
  here := by simpa using get?_set_append result []
  above := by
    rintro p nonempty ⟨rest, rfl⟩ strict
    exact get?_set_above result nonempty (by rintro rfl; simp at strict)
  apart := fun q notAbove notBelow => get?_set_apart result notBelow notAbove

/-- An assignment fails exactly at the empty path and where a leaf stands in the way. It leaves the
tree as it was when it fails, with no tree put in on the way, and names the first leaf that it
met; else it puts the node in and changes nothing apart from the path. -/
theorem assign_exact {t : Tree} (sorted : Tree.Sorted t) (path : Path) (node : Node) :
    ((∃ fault, (t.assign path node).2 = .error fault) ↔
      path = [] ∨ ∃ place, t.BlockedAt path place) ∧
    (∀ fault, (t.assign path node).2 = .error fault → (t.assign path node).1 = t ∧
      (path ≠ [] → ∃ place, fault = .notMap place ∧ t.BlockedAt path place ∧
        ∀ other, t.BlockedAt path other → place <+: other)) ∧
    ((t.assign path node).2 = .ok () → Placed t (t.assign path node).1 path node) := by
  rw [assign_eq sorted]
  by_cases root : path = []
  · subst root
    simp [set]
  have failure : ∀ fault, t.set path node = .error fault ↔
      ∃ place, fault = .notMap place ∧ t.BlockedAt path place := by
    simpa only [blockedAt_iff] using fun fault => set_eq_error root
  cases result : t.set path node with
  | ok u =>
    have free : ¬ ∃ place, t.BlockedAt path place := by
      rintro ⟨place, blocked⟩
      have failed := (failure _).mpr ⟨place, rfl, blocked⟩
      rw [result] at failed
      cases failed
    refine ⟨by simp [root, free], fun fault failed => ?_, fun _ => placed_of_set result⟩
    cases failed
  | error fault =>
    obtain ⟨place, rfl, blocked⟩ := (failure fault).mp result
    refine ⟨?_, ?_, fun done => ?_⟩
    · exact ⟨fun _ => .inr ⟨place, blocked⟩, fun _ => ⟨_, rfl⟩⟩
    · rintro _ ⟨⟩
      refine ⟨rfl, fun _ => ⟨place, rfl, blocked, fun other second => ?_⟩⟩
      exact blocked.eq second ▸ List.prefix_rfl
    · cases done

/-! A client whose argument is a sequence: nothing can be put in behind it. -/

def clientOnly : Tree := [("apiServerArguments", .tree [("oidc-client-id", .list ["console"])])]

theorem assign_exact_through_leaf :
    Tree.Sorted clientOnly ∧
      (clientOnly.assign ["apiServerArguments", "oidc-client-id", "x"] (.list ["y"])).2 =
        .error (.notMap ["apiServerArguments", "oidc-client-id"]) ∧
      (clientOnly.assign ["apiServerArguments", "oidc-client-id", "x"] (.list ["y"])).1 =
        clientOnly ∧
      ∃ child, (clientOnly.assign ["servingInfo", "tls", "cert"] (.list ["y"])).1.get?
        ["servingInfo", "tls"] = some (.tree child) := by
  have sorted : Tree.Sorted clientOnly := by decide
  obtain ⟨-, failed, -⟩ :=
    assign_exact sorted ["apiServerArguments", "oidc-client-id", "x"] (.list ["y"])
  obtain ⟨-, -, placed⟩ := assign_exact sorted ["servingInfo", "tls", "cert"] (.list ["y"])
  exact ⟨sorted, rfl, (failed _ rfl).1, (placed rfl).above _ (by simp) (by decide) (by simp)⟩

end Tree

end ObservedConfig
