import ObservedConfig.Proofs.Tree.Assignment

/-! Taking a node out of a tree in place. The trees on the way that become empty by it go as well,
and only those: each of them held nothing but the way to the node, so setting the node again builds
the same tree. -/
namespace ObservedConfig.Tree

variable {t : Tree} {path : Path} {node : Node}

/-- Taking a node out in place leaves what `remove` leaves and gives what `get?` sees. -/
theorem extract_eq (sorted : Tree.Sorted t) (path : Path) :
    t.extract path = (t.remove path, t.get? path) := by
  induction path generalizing t with
  | nil => simp [extract, remove, take?]
  | cons name rest ih =>
    by_cases more : rest = []
    · subst more
      simp [extract, remove_name, get?_cons]
    · obtain ⟨next, tail, rfl⟩ := List.exists_cons_of_ne_nil more
      simp only [extract]
      split
      next child through =>
        have same : t.get? (name :: next :: tail) = get? child (next :: tail) := by
          simp only [get?, through]
        rw [ih (Sorted.find? sorted through), same]
        cases found : get? child (next :: tail) with
        | none =>
          rw [remove_of_absent (same.trans found), remove_of_absent found]
          simp [Entries.insert_self sorted.entries through]
        | some node => rw [remove_through more through found]
      next noTree =>
        have absent : t.get? (name :: next :: tail) = none := by
          refine Option.eq_none_iff_forall_ne_some.mpr fun node seen => ?_
          obtain ⟨child, through, -⟩ := (get?_cons_eq_some more).mp seen
          exact noTree child through
        rw [absent, remove_of_absent absent]

theorem get?_remove (t : Tree) (path : Path) : (t.remove path).get? path = none := by
  induction path generalizing t with
  | nil => simp
  | cons name rest ih =>
    by_cases more : rest = []
    · subst more
      simp [remove_name, get?_cons]
    · cases seen : t.get? (name :: rest) with
      | none => rw [remove_of_absent seen, seen]
      | some node =>
        obtain ⟨child, through, found⟩ := (get?_cons_eq_some more).mp seen
        rw [remove_through more through found, get?_cons]
        split
        · simp
        · rw [Entries.find?_insert_same, Option.bind_some, ← get?_eq_at? _ more, ih]

/-- Taking a node out changes nothing at paths apart from it. -/
theorem get?_remove_apart {q : Path} (notAbove : ¬ q <+: path) (notBelow : ¬ path <+: q) :
    (t.remove path).get? q = t.get? q := by
  induction path generalizing t q with
  | nil => simp at notBelow
  | cons name rest ih =>
    cases q with
    | nil => simp at notAbove
    | cons first q =>
      by_cases more : rest = []
      · subst more
        have other : first ≠ name := by
          rintro rfl
          simp at notBelow
        rw [remove_name, get?_cons, get?_cons, Entries.find?_erase_other other]
      · cases seen : t.get? (name :: rest) with
        | none => rw [remove_of_absent seen]
        | some node =>
          obtain ⟨child, through, found⟩ := (get?_cons_eq_some more).mp seen
          rw [remove_through more through found, get?_cons, get?_cons]
          by_cases same : first = name
          · subst same
            rw [List.cons_prefix_cons] at notBelow notAbove
            have further : q ≠ [] := by
              rintro rfl
              simp at notAbove
            have inner := ih (t := child) (fun h => notAbove ⟨rfl, h⟩) fun h => notBelow ⟨rfl, h⟩
            rw [through, Option.bind_some, ← get?_eq_at? child further, ← inner]
            split
            next empty => simp [List.isEmpty_iff.mp empty]
            next => simp [get?_eq_at? _ further]
          · split
            · rw [Entries.find?_erase_other same]
            · rw [Entries.find?_insert_other same]

/-- No tree on the way is left empty. -/
theorem get?_remove_above {p : Path} (found : t.get? path = some node) (nonempty : p ≠ [])
    (above : p <+: path) (strict : p ≠ path) : (t.remove path).get? p ≠ some (.tree []) := by
  induction path generalizing t p with
  | nil => simp at found
  | cons name rest ih =>
    obtain ⟨first, p, rfl⟩ := List.exists_cons_of_ne_nil nonempty
    obtain ⟨rfl, within⟩ := List.cons_prefix_cons.mp above
    have inside : p ≠ rest := by simpa using strict
    have more : rest ≠ [] := by
      rintro rfl
      exact inside (List.prefix_nil.mp within)
    obtain ⟨child, through, found⟩ := (get?_cons_eq_some more).mp found
    rw [remove_through more through found, get?_cons]
    split
    · simp
    next filled =>
      rw [Entries.find?_insert_same, Option.bind_some]
      by_cases last : p = []
      · subst last
        simpa using filled
      · rw [← get?_eq_at? _ last]
        exact ih found last within inside

/-- Setting the node again gives the tree from which it was taken. -/
theorem set_remove (sorted : Tree.Sorted t) (found : t.get? path = some node) :
    (t.remove path).set path node = .ok t := by
  induction path generalizing t with
  | nil => simp at found
  | cons name rest ih =>
    by_cases more : rest = []
    · subst more
      have bound : Entries.find? name t = some node := by simpa [get?_cons] using found
      have again := Entries.insert_eq (sorted_erase sorted name).entries sorted.entries bound
        fun key other => Entries.find?_erase_other other t
      rw [remove_name, set, again]
    · obtain ⟨child, through, inside⟩ := (get?_cons_eq_some more).mp found
      have inner := ih (Sorted.find? sorted through) inside
      rw [set_cons_eq_ok more, remove_through more through inside]
      refine ⟨remove child rest, child, ?_, inner, ?_⟩
      · by_cases empty : (remove child rest).isEmpty = true
        · simp [below?, List.isEmpty_iff.mp empty]
        · simp [below?, empty]
      · symm
        split
        · exact Entries.insert_eq (sorted_erase sorted name).entries sorted.entries through
            fun key other => Entries.find?_erase_other other t
        · exact Entries.insert_eq (Entries.sorted_insert_name name _ sorted.entries) sorted.entries
            through fun key other => Entries.find?_insert_other other _ t

/-- What taking the node at a path out makes of a tree: the path leads nowhere, no tree on the way
is left empty, and apart from the path nothing is different. -/
structure Withdrawn (t u : Tree) (path : Path) : Prop where
  gone : u.get? path = none
  tidy : ∀ p, p ≠ [] → p <+: path → p ≠ path → u.get? p ≠ some (.tree [])
  apart : ∀ q, ¬ q <+: path → ¬ path <+: q → u.get? q = t.get? q

/-- Taking out a node gives what stands at the path. Where nothing does the tree stays as it is;
else the node is gone with the trees that held nothing else, and putting it in again gives the tree
back. -/
theorem extract_exact (sorted : Tree.Sorted t) (path : Path) :
    t.extract path = (t.remove path, t.get? path) ∧
      (t.get? path = none → (t.extract path).1 = t) ∧
      ∀ node, t.get? path = some node → Withdrawn t (t.extract path).1 path ∧
        (t.extract path).1.assign path node = (t, .ok ()) := by
  rw [extract_eq sorted]
  refine ⟨rfl, remove_of_absent, fun node found => ⟨⟨get?_remove t path, ?_, ?_⟩, ?_⟩⟩
  · intro p nonempty above strict
    exact get?_remove_above found nonempty above strict
  · intro q notAbove notBelow
    exact get?_remove_apart notAbove notBelow
  · rw [assign_eq (sorted_remove sorted path), set_remove sorted found]

/-! Taking the one argument out takes its tree out too, but not the tree that was empty before. -/

def clientBesideVestige : Tree :=
  [("apiServerArguments", .tree [("oidc-client-id", .list ["console"])]),
    ("servingInfo", .tree [("tls", .tree [])])]

theorem extract_exact_with_parent :
    Tree.Sorted clientBesideVestige ∧
      clientBesideVestige.extract ["apiServerArguments", "oidc-client-id"] =
        ([("servingInfo", .tree [("tls", .tree [])])], some (.list ["console"])) ∧
      Tree.assign [("servingInfo", .tree [("tls", .tree [])])]
        ["apiServerArguments", "oidc-client-id"] (.list ["console"]) =
          (clientBesideVestige, .ok ()) := by
  have sorted : Tree.Sorted clientBesideVestige := by decide
  obtain ⟨-, -, taken⟩ := extract_exact sorted ["apiServerArguments", "oidc-client-id"]
  obtain ⟨-, again⟩ := taken (.list ["console"]) rfl
  exact ⟨sorted, rfl, again⟩

end ObservedConfig.Tree
