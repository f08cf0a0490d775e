import ObservedConfig.Proofs.Tree.Pruning
import ObservedConfig.Proofs.Tree.Updating

/-! Reading sequences out of a tree. It fails where a leaf stands on the way or another kind of node
at the path; in every other case it is what `get?` sees. -/
namespace ObservedConfig

theorem Node.list?_eq_some {node : Node} {values : List String} :
    node.list? = some values ↔ node = .list values := by
  cases node <;> simp [Node.list?]

namespace Tree

theorem open_pair (t : Tree) (a b : String) :
    t.Open [a, b] ↔ ∀ node, t.get? [a] = some node → node.isLeaf = false := by
  constructor
  · intro clear node found
    exact clear [a] [b] rfl (by simp) node found
  · intro clear p rest split more node found
    have first : p = [a] := by
      match p, split with
      | [], _ => simp at found
      | [_], split => exact congrArg (fun path => path.take 1) split.symm
      | [_, _], split =>
        simp only [List.cons_append, List.nil_append, List.cons.injEq, List.nil_eq] at split
        exact absurd split.2.2 more
      | _ :: _ :: _ :: _, split => simp at split
    subst first
    exact clear node found

theorem getList_cons (t : Tree) (name : String) {rest : Path} (more : rest ≠ []) :
    t.getList (name :: rest) =
      match t.below? name with
      | some child => (child.getList rest).mapError (Fault.under name)
      | none => .error (.notMap [name]) := by
  have bare : ∀ path, getList [] path = .ok none := by
    intro path
    match path with
    | [] => rfl
    | [_] => rfl
    | _ :: _ :: _ => rfl
  obtain ⟨next, tail, rfl⟩ := List.exists_cons_of_ne_nil more
  unfold below?
  simp only [getList]
  cases Entries.find? name t with
  | none => simp [bare]
  | some node => cases node <;> rfl

/-- A sequence can be read where nothing stands in the way and no other kind of node is. -/
theorem getList_eq_ok {t : Tree} {path : Path} (nonempty : path ≠ [])
    {found : Option (List String)} :
    t.getList path = .ok found ↔
      t.Open path ∧ ((t.get? path = none ∧ found = none) ∨
        ∃ values, t.get? path = some (.list values) ∧ found = some values) := by
  induction path generalizing t with
  | nil => exact absurd rfl nonempty
  | cons name rest ih =>
    by_cases more : rest = []
    · subst more
      have clear : t.Open [name] := open_name t name
      simp only [getList, get?_cons, Node.at?_nil]
      cases here : Entries.find? name t with
      | none => simp [clear, eq_comm]
      | some node => cases node <;> simp [clear, eq_comm]
    · rw [getList_cons t name more, open_cons more]
      cases below : t.below? name with
      | none => simp
      | some child =>
        rw [get?_below below more]
        have inner := ih more (t := child)
        simp [inner]

/-- The fault that a tree has for a sequence at a path: a scalar or a sequence where the path goes
on, or another kind of node where it ends. -/
def Fault.Obstructs (t : Tree) (path : Path) : Fault → Prop
  | .emptyPath => False
  | .notMap place => (∃ rest, rest ≠ [] ∧ path = place ++ rest) ∧
      ∃ node, t.get? place = some node ∧ node.isLeaf = true
  | .notList place => place = path ∧ ∃ node, t.get? path = some node ∧ node.list? = none

namespace Fault

theorem obstructs_name {t : Tree} {name : String} {fault : Fault} :
    fault.Obstructs t [name] ↔
      fault = .notList [name] ∧ ∃ node, t.get? [name] = some node ∧ node.list? = none := by
  cases fault with
  | emptyPath => simp [Obstructs]
  | notList place => simp [Obstructs]
  | notMap place =>
    simp only [Obstructs, reduceCtorEq, false_and, iff_false]
    rintro ⟨⟨rest, more, split⟩, node, found, -⟩
    cases place with
    | nil => simp at found
    | cons first place =>
      obtain ⟨-, none⟩ := List.append_eq_nil_iff.mp (List.cons.inj split).2.symm
      exact more none

/-- Behind a leaf there is no other fault. -/
theorem obstructs_of_leaf {t : Tree} {name : String} {rest : Path} (more : rest ≠ [])
    (blocked : t.below? name = none) {fault : Fault} :
    fault.Obstructs t (name :: rest) ↔ fault = .notMap [name] := by
  obtain ⟨leaf, found, isLeaf⟩ := below?_eq_none.mp blocked
  have bare : ∀ next tail, t.get? (name :: next :: tail) = none := get?_behind_leaf found isLeaf
  obtain ⟨next, tail, rfl⟩ := List.exists_cons_of_ne_nil more
  cases fault with
  | emptyPath => simp [Obstructs]
  | notList place => simp [Obstructs, bare]
  | notMap place =>
    constructor
    · rintro ⟨⟨behind, -, split⟩, node, there, -⟩
      match place, split with
      | [], _ => simp at there
      | [_], split => rw [(List.cons.inj split).1]
      | _ :: _ :: _, split =>
        rw [← (List.cons.inj split).1, bare] at there
        cases there
    · rintro ⟨⟩
      exact ⟨⟨next :: tail, more, rfl⟩, leaf, found, isLeaf⟩

/-- Behind a tree the faults are those of that tree. -/
theorem obstructs_below {t child : Tree} {name : String} {rest : Path} (more : rest ≠ [])
    (below : t.below? name = some child) {fault : Fault} :
    fault.Obstructs t (name :: rest) ↔
      ∃ inner : Fault, inner.Obstructs child rest ∧ inner.under name = fault := by
  constructor
  · intro obstructs
    cases fault with
    | emptyPath => cases obstructs
    | notList place =>
      obtain ⟨rfl, node, found, other⟩ := obstructs
      exact ⟨.notList rest, ⟨rfl, node, (get?_below below more).symm.trans found, other⟩, rfl⟩
    | notMap place =>
      obtain ⟨⟨behind, further, split⟩, node, found, leaf⟩ := obstructs
      cases place with
      | nil => simp at found
      | cons first place =>
        obtain ⟨rfl, rfl⟩ := List.cons.inj split
        have inside : place ≠ [] := by
          rintro rfl
          rw [below?_eq_none.mpr ⟨node, found, leaf⟩] at below
          cases below
        exact ⟨.notMap place, ⟨⟨behind, further, rfl⟩, node,
          (get?_below below inside).symm.trans found, leaf⟩, rfl⟩
  · rintro ⟨inner, obstructs, rfl⟩
    cases inner with
    | emptyPath => cases obstructs
    | notList place =>
      obtain ⟨rfl, node, found, other⟩ := obstructs
      exact ⟨rfl, node, (get?_below below more).trans found, other⟩
    | notMap place =>
      obtain ⟨⟨behind, further, rfl⟩, node, found, leaf⟩ := obstructs
      have inside : place ≠ [] := by
        rintro rfl
        simp at found
      exact ⟨⟨behind, further, rfl⟩, node, (get?_below below inside).trans found, leaf⟩

theorem not_obstructs_nil {t : Tree} {fault : Fault} : ¬ fault.Obstructs t [] := by
  cases fault with
  | emptyPath => exact id
  | notList place => simp [Obstructs]
  | notMap place =>
    rintro ⟨⟨rest, more, split⟩, -⟩
    exact more (List.append_eq_nil_iff.mp split.symm).2

end Fault

/-- Reading a sequence fails with the fault that is in its way. -/
theorem getList_eq_error {t : Tree} {path : Path} {fault : Fault} :
    t.getList path = .error fault ↔ fault.Obstructs t path := by
  induction path generalizing t fault with
  | nil => simp [getList, Fault.not_obstructs_nil]
  | cons name rest ih =>
    by_cases more : rest = []
    · subst more
      rw [Fault.obstructs_name]
      simp only [getList, get?_cons, Node.at?_nil]
      cases Entries.find? name t with
      | none => simp
      | some node => cases node <;> simp [Node.list?, eq_comm]
    · rw [getList_cons t name more]
      cases below : t.below? name with
      | none => simp [Fault.obstructs_of_leaf more below, eq_comm]
      | some child =>
        rw [Fault.obstructs_below more below]
        simp only [← ih]
        cases child.getList rest <;> simp

theorem exists_getList {t : Tree} {path : Path} :
    (∃ found, t.getList path = .ok found) ↔ ∀ fault : Fault, ¬ fault.Obstructs t path := by
  simp only [← getList_eq_error]
  cases t.getList path <;> simp

/-- A sequence that is read is the node at the path. -/
theorem get?_of_getList {t : Tree} {path : Path} {found : Option (List String)}
    (read : t.getList path = .ok found) : t.get? path = found.map Node.list := by
  by_cases root : path = []
  · subst root
    cases read
    simp
  · rcases (getList_eq_ok root).mp read with ⟨-, ⟨absent, rfl⟩ | ⟨values, here, rfl⟩⟩
    · exact absent
    · exact here

/-- Reading below a name depends on the node at the name alone. -/
theorem getList_of_name {s t : Tree} {name : String} (same : s.get? [name] = t.get? [name])
    (rest : Path) : s.getList (name :: rest) = t.getList (name :: rest) := by
  have found : Entries.find? name s = Entries.find? name t := same
  cases rest <;> simp only [getList, found]

theorem containsAnyList_congr {s t : Tree} {paths : List Path}
    (same : ∀ path ∈ paths, s.getList path = t.getList path) :
    s.containsAnyList paths = t.containsAnyList paths := by
  induction paths with
  | nil => rfl
  | cons path rest ih =>
    obtain ⟨here, later⟩ := List.forall_mem_cons.mp same
    simp only [containsAnyList, here, ih later]

theorem containsAnyList_cons {t : Tree} {path : Path} {found : Option (List String)}
    (read : t.getList path = .ok found) (rest : List Path) :
    t.containsAnyList (path :: rest) =
      if found.isSome then .ok true else t.containsAnyList rest := by
  simp only [containsAnyList, read]
  rfl

theorem containsAnyList_of_absent {t : Tree} {paths : List Path}
    (absent : ∀ path ∈ paths, t.getList path = .ok none) : t.containsAnyList paths = .ok false := by
  induction paths with
  | nil => rfl
  | cons path rest ih =>
    obtain ⟨here, later⟩ := List.forall_mem_cons.mp absent
    simp [containsAnyList, here, ih later, bind, Except.bind]

/-- In a pruned tree every leaf is content. -/
theorem content?_of_leaf {t : Tree} (pruned : Tree.Pruned t) (sorted : Tree.Sorted t) {path : Path}
    {node : Node} (found : t.get? path = some node) (leaf : node.isLeaf = true) :
    t.content? path = some node := by
  have kept : (t.get? path).bind Node.kept = some node := by
    rw [← get?_pruned sorted, pruned_eq_self pruned, found]
  rw [found, Option.bind_some] at kept
  have filled := (Node.kept_eq_some kept).2
  simp [content?, found, Node.isSolid, leaf, filled]

/-- In a pruned tree without content at a name, sequences under the name can be read. -/
theorem getList_of_bare {t : Tree} (sorted : Tree.Sorted t) (pruned : Tree.Pruned t) {a b : String}
    (bare : t.content? [a] = none)
    (lists : ∀ node, t.get? [a, b] = some node → ∃ values, node = .list values) :
    t.getList [a, b] = .ok ((t.get? [a, b]).bind Node.list?) := by
  have clear : t.Open [a, b] := by
    refine (open_pair t a b).mpr fun node found => ?_
    cases leaf : node.isLeaf with
    | false => rfl
    | true =>
      rw [content?_of_leaf pruned sorted found leaf] at bare
      cases bare
  refine (getList_eq_ok (by simp)).mpr ⟨clear, ?_⟩
  cases found : t.get? [a, b] with
  | none => exact .inl ⟨rfl, rfl⟩
  | some node =>
    obtain ⟨values, rfl⟩ := lists node found
    exact .inr ⟨values, rfl, rfl⟩

/-- Where a sequence can be read, no scalar or sequence stands at the name above it. -/
theorem bare_of_getList {t : Tree} {a b : String} {found : Option (List String)}
    (read : t.getList [a, b] = .ok found) : t.content? [a] = none := by
  obtain ⟨clear, -⟩ := (getList_eq_ok (by simp)).mp read
  cases here : t.get? [a] with
  | none => simp [content?, here]
  | some node =>
    have inner := (open_pair t a b).mp clear node here
    simp [content?, here, Node.isSolid, inner]

end Tree

end ObservedConfig
