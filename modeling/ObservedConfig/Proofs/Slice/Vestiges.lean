import ObservedConfig.Proofs.Slice.Difference

/-! Reading a tree before and after it is pruned. An empty sequence reads as an absent one, so
reading differs only where a container that pruning takes away has the wrong shape for the path:
before it is a fault and afterwards it is gone. Only a search that asks whether there is any sequence
can also be answered by an empty one. -/
namespace ObservedConfig

namespace Tree

/-- The fault lies in a container at a path, or on the way to it, that pruning takes away. -/
def Fault.Vestigial (t : Tree) (path : Path) : Fault → Prop
  | .emptyPath => False
  | .notMap place | .notList place =>
    place <+: path ∧ ∃ node, t.get? place = some node ∧ node.kept = none

/-- The fault of a vestige at one of the paths. -/
def VestigeAt (t : Tree) (paths : List Path) (fault : Fault) : Prop :=
  ∃ path ∈ paths, fault.Vestigial t path

variable {t : Tree}

theorem VestigeAt.tail {path : Path} {rest : List Path} {fault : Fault}
    (vestige : t.VestigeAt rest fault) : t.VestigeAt (path :: rest) fault := by
  obtain ⟨p, member, vestigial⟩ := vestige
  exact ⟨p, List.mem_cons_of_mem _ member, vestigial⟩

theorem Fault.Vestigial.under {child : Tree} {name : String} {rest : Path} {fault : Fault}
    (below : t.below? name = some child) (vestigial : fault.Vestigial child rest) :
    (fault.under name).Vestigial t (name :: rest) := by
  have inside : ∀ {place : Path}, (place <+: rest ∧ ∃ node, child.get? place = some node ∧
      node.kept = none) → name :: place <+: name :: rest ∧
        ∃ node, t.get? (name :: place) = some node ∧ node.kept = none := by
    rintro place ⟨onWay, node, found, gone⟩
    have more : place ≠ [] := by
      rintro rfl
      simp at found
    exact ⟨List.cons_prefix_cons.mpr ⟨rfl, onWay⟩, node, (get?_below below more).trans found, gone⟩
  cases fault with
  | emptyPath => exact vestigial
  | notMap place => exact inside vestigial
  | notList place => exact inside vestigial

theorem kept_tree (t : Tree) :
    (Node.tree t).kept = if (Tree.pruned t).isEmpty then none else some (.tree (Tree.pruned t)) :=
  rfl

/-- A pruned tree goes on behind a name as the pruned tree behind it. -/
theorem below?_pruned (sorted : Tree.Sorted t) {name : String} {child : Tree}
    (below : t.below? name = some child) :
    below? (Tree.pruned t) name = some (Tree.pruned child) := by
  rw [below?_eq_some, find?_pruned sorted.entries]
  rcases below?_eq_some.mp below with ⟨absent, rfl⟩ | found
  · exact .inl ⟨by rw [absent]; rfl, rfl⟩
  · rw [found, Option.bind_some, kept_tree]
    cases Tree.pruned child <;> simp

/-- A sequence reads the same from a pruned tree, up to one that is empty, unless reading it from
the tree itself is a fault in a vestige. -/
theorem getList_pruned (sorted : Tree.Sorted t) (path : Path) :
    (∃ fault, t.getList path = .error fault ∧ fault.Vestigial t path) ∨
      getList (Tree.pruned t) path = (t.getList path).map Slice.present := by
  induction path generalizing t with
  | nil => exact .inr rfl
  | cons name rest ih =>
    by_cases more : rest = []
    · subst more
      simp only [getList, find?_pruned sorted.entries]
      cases found : Entries.find? name t with
      | none => exact .inr rfl
      | some node =>
        have here : t.get? [name] = some node := found
        cases node with
        | list values =>
          right
          rw [Option.bind_some, Node.kept_leaf rfl]
          cases values <;> rfl
        | scalar => exact .inr rfl
        | tree entries =>
          cases gone : (Node.tree entries).kept with
          | none => exact .inl ⟨_, rfl, List.prefix_rfl, _, here, gone⟩
          | some left =>
            obtain ⟨rfl, -⟩ := Node.kept_eq_some gone
            simp [gone, Node.pruned, Except.map]
    · rw [getList_cons t name more, getList_cons (Tree.pruned t) name more]
      cases below : t.below? name with
      | none =>
        obtain ⟨node, found, leaf⟩ := below?_eq_none.mp below
        cases gone : node.kept with
        | none =>
          exact .inl ⟨_, rfl, List.cons_prefix_cons.mpr ⟨rfl, List.nil_prefix⟩, node, found, gone⟩
        | some left =>
          obtain ⟨rfl, -⟩ := Node.kept_eq_some gone
          have blocked : below? (Tree.pruned t) name = none := by
            refine below?_eq_none.mpr ⟨node, ?_, leaf⟩
            rw [get?_pruned sorted, found, Option.bind_some, gone, Node.pruned_leaf leaf]
          rw [blocked]
          exact .inr rfl
      | some child =>
        rw [below?_pruned sorted below]
        have sortedChild : Tree.Sorted child := sorted_below? sorted below
        rcases ih sortedChild with ⟨fault, failed, vestigial⟩ | same
        · exact .inl ⟨_, by simp [failed], vestigial.under below⟩
        · right
          simp only [same]
          cases child.getList rest <;> rfl

/-- The first sequence found at the paths is an empty one, and behind it none is found once empty
ones are gone. -/
def FoundEmpty (t : Tree) (paths : List Path) : Prop :=
  ∃ before path after, paths = before ++ path :: after ∧
    (∀ earlier ∈ before, t.getList earlier = .ok none) ∧ t.get? path = some (.list []) ∧
      containsAnyList (Tree.pruned t) after ≠ .ok true

theorem FoundEmpty.cons {path : Path} {rest : List Path} (absent : t.getList path = .ok none)
    (found : t.FoundEmpty rest) : t.FoundEmpty (path :: rest) := by
  obtain ⟨before, first, after, rfl, earlier, empty, later⟩ := found
  exact ⟨path :: before, first, after, rfl, List.forall_mem_cons.mpr ⟨absent, earlier⟩, empty,
    later⟩

/-- Looking for a sequence counts an empty one, so the answer may come from a vestige. -/
theorem containsAnyList_pruned (sorted : Tree.Sorted t) (paths : List Path) :
    (∃ fault, t.containsAnyList paths = .error fault ∧ t.VestigeAt paths fault) ∨
      t.FoundEmpty paths ∨ containsAnyList (Tree.pruned t) paths = t.containsAnyList paths := by
  induction paths with
  | nil => exact .inr (.inr rfl)
  | cons path rest ih =>
    rcases getList_pruned sorted path with ⟨fault, failed, vestigial⟩ | same
    · exact .inl ⟨fault, by simp [containsAnyList, failed, bind, Except.bind], path,
        List.mem_cons_self, vestigial⟩
    cases read : t.getList path with
    | error fault =>
      right; right
      simp only [containsAnyList, same, read]
      rfl
    | ok found =>
      have readPruned : getList (Tree.pruned t) path = .ok (Slice.present found) := by
        rw [same, read]
        rfl
      rw [containsAnyList_cons read, containsAnyList_cons readPruned]
      cases found with
      | none =>
        rcases ih with ⟨fault, failed, vestige⟩ | empty | same
        · exact .inl ⟨fault, failed, vestige.tail⟩
        · exact .inr (.inl (empty.cons read))
        · exact .inr (.inr same)
      | some values =>
        right
        cases values with
        | nil =>
          by_cases later : containsAnyList (Tree.pruned t) rest = .ok true
          · exact .inr later
          · exact .inl ⟨[], path, rest, rfl, by simp, get?_of_getList read, later⟩
        | cons => exact .inr rfl

end Tree

namespace Slice

variable {t fragment : Tree}

theorem present_present (values : Option (List String)) :
    present (present values) = present values := by
  cases values with
  | none => rfl
  | some values => cases values <;> rfl

/-- Comparing slices counts an empty sequence as an absent one. -/
theorem differs_pruned (sorted : Tree.Sorted t) (paths : List Path) :
    (∃ fault, differs t fragment paths = .error fault ∧ t.VestigeAt paths fault) ∨
      differs (Tree.pruned t) fragment paths = differs t fragment paths := by
  induction paths with
  | nil => exact .inr rfl
  | cons path rest ih =>
    rcases Tree.getList_pruned sorted path with ⟨fault, failed, vestigial⟩ | same
    · exact .inl ⟨fault, by simp [differs, failed, bind, Except.bind], path, List.mem_cons_self,
        vestigial⟩
    · cases read : t.getList path with
      | error fault =>
        right
        simp only [differs, same, read]
        rfl
      | ok found =>
        have current : Tree.getList (Tree.pruned t) path = .ok (present found) := by
          rw [same, read]
          rfl
        cases desired : fragment.getList path with
        | error fault =>
          right
          simp only [differs, current, read, desired]
          rfl
        | ok wanted =>
          rw [differs_cons read desired, differs_cons current desired, present_present]
          split
          · rcases ih with ⟨fault, failed, vestige⟩ | same
            · exact .inl ⟨fault, failed, vestige.tail⟩
            · exact .inr same
          · exact .inr rfl

theorem diff_pruned (sorted : Tree.Sorted t) (candidate : Tree) (owned : List Path) :
    (∃ fault, diff t candidate owned = .error fault ∧ t.VestigeAt owned fault) ∨
      diff (Tree.pruned t) candidate owned = diff t candidate owned := by
  cases cut : candidate.prunedTo owned with
  | error => exact .inr (by simp [diff, cut, bind, Except.bind])
  | ok f =>
    rcases @differs_pruned t f sorted owned with ⟨fault, failed, vestige⟩ | same
    · exact .inl ⟨fault, by simp [diff, cut, failed, bind, Except.bind], vestige⟩
    · exact .inr (by simp [diff, cut, same, bind, Except.bind])

end Slice

end ObservedConfig
