import ObservedConfig.Proofs.Tree.Merging
import ObservedConfig.Proofs.Tree.Restricting
import ObservedConfig.Registry

/-! Merging owned slices. Clearing takes the content below all owned paths away, each fragment then
brings its own content back below its owned paths, and no fragment reaches a path that is apart from
them. So owners that keep apart determine the result path by path. -/
namespace ObservedConfig

namespace Path

/-- One path is the beginning of the other. -/
def Comparable (p q : Path) : Prop := p <+: q ∨ q <+: p

instance (p q : Path) : Decidable (Comparable p q) :=
  inferInstanceAs (Decidable (p <+: q ∨ q <+: p))

/-- Registration tests just this. -/
theorem overlaps_iff (p q : Path) : p.overlaps q = true ↔ Comparable p q := by
  induction p generalizing q with
  | nil => simp [overlaps, Comparable]
  | cons a p ih =>
    cases q with
    | nil => simp [overlaps, Comparable]
    | cons b q =>
      simp only [overlaps, Bool.and_eq_true, beq_iff_eq, ih, Comparable, List.cons_prefix_cons]
      constructor
      · rintro ⟨rfl, below | above⟩
        · exact .inl ⟨rfl, below⟩
        · exact .inr ⟨rfl, above⟩
      · rintro (⟨rfl, below⟩ | ⟨rfl, above⟩)
        · exact ⟨rfl, .inl below⟩
        · exact ⟨rfl, .inr above⟩

theorem Comparable.symm {p q : Path} (comparable : Comparable p q) : Comparable q p :=
  Or.symm comparable

theorem Comparable.of_prefix {p q r : Path} (below : p <+: q) (comparable : Comparable r q) :
    Comparable p r := by
  rcases comparable with before | after
  · exact List.prefix_or_prefix_of_prefix below before
  · exact .inl (below.trans after)

theorem Comparable.of_append {p q rest : Path} (comparable : Comparable p (q ++ rest)) :
    Comparable p q := by
  rcases comparable with before | after
  · exact List.prefix_or_prefix_of_prefix before (List.prefix_append q rest)
  · exact .inr ((List.prefix_append q rest).trans after)

end Path

namespace Tree

variable {t fragment f : Tree} {owned : List Path}

/-- Merging a fragment that is cut down to some paths brings its content back below them, where the
tree has been cleared or holds it already. -/
theorem content?_mergeFrom_covered (restricts : fragment.Restricts owned f) {q : Path}
    (covered : Path.Covered owned q)
    (former : t.content? q = none ∨ t.content? q = fragment.content? q) :
    content? (mergeFrom t f) q = fragment.content? q := by
  have same : f.content? q = fragment.content? q := by simp [restricts.content, covered]
  rw [content?_mergeFrom t restricts.sorted]
  split
  · exact same
  next hidden =>
    rw [content?_of_not_shadows hidden] at same
    rcases former with absent | held
    · exact absent.trans same
    · exact held

/-- Where a cut-down fragment decides, it has content on the way to the path, at it or past it, and
this content comes from below an owned path. -/
theorem Restricts.content_of_shadows (restricts : fragment.Restricts owned f) {q : Path}
    (nonempty : q ≠ []) (shadows : (Node.tree f).shadows q = true) :
    ∃ p value, Path.Covered owned p ∧ fragment.content? p = some value ∧ Path.Comparable p q := by
  obtain ⟨name, rest, rfl⟩ := List.exists_cons_of_ne_nil nonempty
  obtain ⟨p, value, content, comparable⟩ := Tree.content_of_shadows restricts.pruned shadows
  rw [restricts.content] at content
  split at content
  next covered => exact ⟨p, value, covered, content, comparable⟩
  next => cases content

/-- Content of a merge comes from the tree or from below an owned path of the fragment. -/
theorem content?_mergeFrom_origin (restricts : fragment.Restricts owned f) {q : Path} {value : Node}
    (content : content? (mergeFrom t f) q = some value) :
    t.content? q = some value ∨ (Path.Covered owned q ∧ fragment.content? q = some value) := by
  rw [content?_mergeFrom t restricts.sorted, restricts.content] at content
  split at content
  · split at content
    next covered => exact .inr ⟨covered, content⟩
    next => cases content
  · exact .inl content

/-- A cut-down fragment only changes the content at a path when it brings content there, on the way
to it or past it. -/
theorem content?_mergeFrom_unreached (restricts : fragment.Restricts owned f) {q : Path}
    (unreached : ∀ p value, Path.Covered owned p → fragment.content? p = some value →
      ¬ Path.Comparable p q) :
    content? (mergeFrom t f) q = t.content? q := by
  by_cases root : q = []
  · subst root
    simp
  · rw [content?_mergeFrom t restricts.sorted]
    split
    next shadows =>
      obtain ⟨p, value, covered, content, comparable⟩ := restricts.content_of_shadows root shadows
      exact absurd comparable (unreached p value covered content)
    next => rfl

/-- Merging a fragment that is cut down to some paths keeps what the tree shares with the fragment
elsewhere, since two leaves of the fragment cannot lie on one way. -/
theorem content?_mergeFrom_shared (restricts : fragment.Restricts owned f) {q : Path}
    (uncovered : ¬ Path.Covered owned q) (shared : t.content? q = fragment.content? q) :
    content? (mergeFrom t f) q = fragment.content? q := by
  by_cases root : q = []
  · subst root
    simp
  · rw [content?_mergeFrom t restricts.sorted, restricts.content, if_neg uncovered]
    split
    next shadows =>
      obtain ⟨p, value, covered, content, comparable⟩ := restricts.content_of_shadows root shadows
      refine (Option.eq_none_iff_forall_ne_some.mpr fun other there => uncovered ?_).symm
      exact content?_unique content there comparable ▸ covered
    next => exact shared

end Tree

namespace Slice

theorem sorted_clear {t : Tree} (sorted : Tree.Sorted t) (paths : List Path) :
    Tree.Sorted (clear t paths) := by
  induction paths generalizing t with
  | nil => exact sorted
  | cons path rest ih => exact ih (Tree.sorted_remove sorted path)

theorem content?_clear (t : Tree) (paths : List Path) (q : Path) :
    (clear t paths).content? q = if Path.Covered paths q then none else t.content? q := by
  induction paths generalizing t with
  | nil => simp [clear]
  | cons path rest ih =>
    have step : (clear t (path :: rest)).content? q =
        (clear (Tree.remove t path) rest).content? q := rfl
    rw [step, ih]
    by_cases later : Path.Covered rest q
    · simp [Path.covered_cons, later]
    · by_cases root : path = []
      · subst root
        simp [Path.covered_cons, later, Tree.remove, Tree.take?]
      · simp [Path.covered_cons, later, root, Tree.content?_remove t root]

/-- Some contribution owns a path or one on the way to it. -/
def Owned (contributions : Contributions) (q : Path) : Prop :=
  ∃ c ∈ contributions, Path.Covered c.1 q

instance (contributions : Contributions) (q : Path) : Decidable (Owned contributions q) :=
  inferInstanceAs (Decidable (∃ c ∈ contributions, Path.Covered c.1 q))

theorem owned_cons (c : List Path × Tree) (rest : Contributions) (q : Path) :
    Owned (c :: rest) q ↔ Path.Covered c.1 q ∨ Owned rest q := by
  simp [Owned]

/-- No owned path lies at a path, on the way to it or past it. -/
def Free (contributions : Contributions) (q : Path) : Prop :=
  ∀ c ∈ contributions, ∀ p ∈ c.1, ¬ Path.Comparable p q

/-- Paths of different contributions are apart. -/
def Disjoint (contributions : Contributions) : Prop :=
  contributions.Pairwise fun c d => ∀ p ∈ c.1, ∀ q ∈ d.1, ¬ Path.Comparable p q

/-- The committed configuration without what is owned. -/
def cleared (existing : Tree) (contributions : Contributions) : Tree :=
  contributions.foldl (fun t c => clear t c.1) existing

theorem sorted_cleared {t : Tree} (sorted : Tree.Sorted t) (contributions : Contributions) :
    Tree.Sorted (cleared t contributions) := by
  induction contributions generalizing t with
  | nil => exact sorted
  | cons c rest ih => exact ih (sorted_clear sorted c.1)

theorem content?_cleared (t : Tree) (contributions : Contributions) (q : Path) :
    (cleared t contributions).content? q =
      if Owned contributions q then none else t.content? q := by
  induction contributions generalizing t with
  | nil => simp [cleared, Owned]
  | cons c rest ih =>
    have step : (cleared t (c :: rest)).content? q = (cleared (clear t c.1) rest).content? q := rfl
    rw [step, ih, content?_clear]
    by_cases later : Owned rest q
    · simp [owned_cons, later]
    · by_cases here : Path.Covered c.1 q
      · simp [owned_cons, later, here]
      · simp [owned_cons, later, here]

/-- Below a path of one owner all others are out of reach. -/
theorem free_of_covered {owned : List Path} {others : Contributions}
    (apart : ∀ d ∈ others, ∀ p ∈ owned, ∀ q ∈ d.1, ¬ Path.Comparable p q) {q : Path}
    (covered : Path.Covered owned q) : Free others q := by
  obtain ⟨p, member, -, below⟩ := covered
  intro d memberD r memberR comparable
  exact apart d memberD p member r memberR (comparable.of_prefix below)

/-- A contribution brings content to a path that it owns. -/
def Brings (contributions : Contributions) (q : Path) (value : Node) : Prop :=
  ∃ c ∈ contributions, Path.Covered c.1 q ∧ c.2.content? q = some value

/-- No contribution brings content to a path, to one on the way to it or past it. -/
def Unreached (contributions : Contributions) (q : Path) : Prop :=
  ∀ p value, Brings contributions p value → ¬ Path.Comparable p q

theorem Unreached.tail {c : List Path × Tree} {rest : Contributions} {q : Path}
    (unreached : Unreached (c :: rest) q) : Unreached rest q := by
  rintro p value ⟨d, member, brings⟩
  exact unreached p value ⟨d, List.mem_cons_of_mem _ member, brings⟩

theorem Free.unreached {contributions : Contributions} {q : Path}
    (free : Free contributions q) : Unreached contributions q := by
  rintro p value ⟨c, member, ⟨owner, memberOwner, -, below⟩, -⟩ comparable
  exact free c member owner memberOwner (comparable.symm.of_prefix below)

/-- Merging all fragments brings each one's content back below its own paths, and changes nothing
at paths that no content is brought near. -/
theorem exists_mergeAll {t : Tree} (sorted : Tree.Sorted t) {contributions : Contributions}
    (sortedFragments : ∀ c ∈ contributions, Tree.Sorted c.2) (disjoint : Disjoint contributions) :
    ∃ m, mergeAll t contributions = .ok m ∧ Tree.Sorted m ∧
      (∀ q, Unreached contributions q → m.content? q = t.content? q) ∧
      (∀ c ∈ contributions, ∀ q, Path.Covered c.1 q → t.content? q = none →
        m.content? q = c.2.content? q) ∧
      ∀ q value, m.content? q = some value →
        t.content? q = some value ∨ Brings contributions q value := by
  -- Each step merges into what the steps before it left, so the tree is general.
  induction contributions generalizing t with
  | nil =>
    exact ⟨t, rfl, sorted, fun _ _ => rfl, fun c member => (by cases member), fun _ _ => .inl⟩
  | cons c rest ih =>
    obtain ⟨sortedHere, sortedLater⟩ := List.forall_mem_cons.mp sortedFragments
    obtain ⟨apart, disjointLater⟩ := List.pairwise_cons.mp disjoint
    obtain ⟨f, cut, restricts⟩ := Tree.exists_prunedTo sortedHere c.1
    obtain ⟨m, merged, sortedM, untouched, brought, origin⟩ :=
      ih (Tree.sorted_mergeFrom sorted restricts.sorted) sortedLater disjointLater
    refine ⟨m, by simp [mergeAll, cut, merged, bind, Except.bind], sortedM, ?_, ?_, ?_⟩
    · intro q unreached
      rw [untouched q unreached.tail, Tree.content?_mergeFrom_unreached restricts]
      intro p value covered content
      exact unreached p value ⟨c, List.mem_cons_self, covered, content⟩
    · intro d member q covered bare
      rcases List.mem_cons.mp member with rfl | later
      · rw [untouched q (free_of_covered apart covered).unreached,
          Tree.content?_mergeFrom_covered restricts covered (.inl bare)]
      · apply brought d later q covered
        rw [Tree.content?_mergeFrom_unreached restricts, bare]
        obtain ⟨r, memberR, -, below⟩ := covered
        rintro p value ⟨owner, memberOwner, -, belowOwner⟩ - comparable
        have meets : Path.Comparable owner q := comparable.symm.of_prefix belowOwner
        exact apart d later owner memberOwner r memberR (meets.of_prefix below).symm
    · intro q value content
      rcases origin q value content with former | ⟨d, later, covered, content⟩
      · rcases Tree.content?_mergeFrom_origin restricts former with former | ⟨covered, content⟩
        · exact .inl former
        · exact .inr ⟨c, List.mem_cons_self, covered, content⟩
      · exact .inr ⟨d, List.mem_cons_of_mem _ later, covered, content⟩

/-- The content of a merge, path by path. -/
structure Merges (existing : Tree) (contributions : Contributions) (m : Tree) : Prop where
  sorted : Tree.Sorted m
  pruned : Tree.Pruned m
  owned : ∀ c ∈ contributions, ∀ q, Path.Covered c.1 q → m.content? q = c.2.content? q
  /-- Also at a leaf on the way to owned paths, as long as nothing takes its place. -/
  unreached : ∀ q, ¬ Owned contributions q → Unreached contributions q →
    m.content? q = existing.content? q
  /-- Also where content at an owned path may take the place of a leaf on the way to it. -/
  origin : ∀ q value, m.content? q = some value →
    existing.content? q = some value ∨ Brings contributions q value

variable {existing m : Tree} {contributions : Contributions}

theorem Free.not_owned {q : Path} (free : Free contributions q) : ¬ Owned contributions q := by
  rintro ⟨c, member, p, memberP, -, below⟩
  exact free c member p memberP (.inl below)

theorem Merges.free (merges : Merges existing contributions m) {q : Path}
    (free : Free contributions q) : m.content? q = existing.content? q :=
  merges.unreached q free.not_owned free.unreached

/-- At and below an owned path there is what pruning leaves of the owner's fragment. -/
theorem Merges.get?_owned (merges : Merges existing contributions m)
    (sortedFragments : ∀ c ∈ contributions, Tree.Sorted c.2) {c : List Path × Tree}
    (member : c ∈ contributions) {q : Path} (covered : Path.Covered c.1 q) :
    m.get? q = (c.2.get? q).bind Node.kept :=
  Tree.get?_of_content merges.sorted merges.pruned (sortedFragments c member) covered.ne_nil
    fun rest => merges.owned c member _ (covered.append rest)

/-- Apart from all owned paths there is what pruning leaves of the committed configuration. -/
theorem Merges.get?_free (merges : Merges existing contributions m)
    (sorted : Tree.Sorted existing) {q : Path} (free : Free contributions q) :
    m.get? q = (existing.get? q).bind Node.kept := by
  by_cases root : q = []
  · subst root
    simp
  · apply Tree.get?_of_content merges.sorted merges.pruned sorted root
    intro rest
    apply merges.free
    intro c member p memberP comparable
    exact free c member p memberP comparable.of_append

/-- A leaf of the committed configuration gives way to content that is brought past it. -/
theorem Merges.content?_of_reached (merges : Merges existing contributions m) {p q : Path}
    {value : Node} (unowned : ¬ Owned contributions q) (brings : Brings contributions p value)
    (comparable : Path.Comparable p q) : m.content? q = none := by
  obtain ⟨c, member, covered, content⟩ := brings
  have brought : m.content? p = some value := (merges.owned c member p covered).trans content
  cases here : m.content? q with
  | none => rfl
  | some other =>
    obtain rfl := Tree.content?_unique brought here comparable
    exact absurd ⟨c, member, covered⟩ unowned

/-- Below the owned paths a merge has what is brought there, and nothing else. -/
theorem Merges.content?_of_owned (merges : Merges existing contributions m) {q : Path}
    (owned : Owned contributions q) (value : Node) :
    m.content? q = some value ↔ Brings contributions q value := by
  constructor
  · obtain ⟨c, member, covered⟩ := owned
    intro content
    exact ⟨c, member, covered, (merges.owned c member q covered).symm.trans content⟩
  · rintro ⟨c, member, covered, content⟩
    exact (merges.owned c member q covered).trans content

/-- The content at a path depends on what is committed there and on what is brought to the path, on
the way to it and past it. -/
theorem Merges.content?_congr {existing' n : Tree} {others : Contributions} {q : Path}
    (first : Merges existing contributions m) (second : Merges existing' others n)
    (owned : Owned contributions q ↔ Owned others q)
    (brings : ∀ p value, Path.Comparable p q →
      (Brings contributions p value ↔ Brings others p value))
    (committed : existing.content? q = existing'.content? q) : m.content? q = n.content? q := by
  by_cases mine : Owned contributions q
  · apply Option.ext
    intro value
    rw [first.content?_of_owned mine, second.content?_of_owned (owned.mp mine)]
    exact brings q value (.inl List.prefix_rfl)
  · have notTheirs : ¬ Owned others q := fun theirs => mine (owned.mpr theirs)
    by_cases reached : ∃ p value, Brings contributions p value ∧ Path.Comparable p q
    · obtain ⟨p, value, brought, comparable⟩ := reached
      rw [first.content?_of_reached mine brought comparable,
        second.content?_of_reached notTheirs ((brings p value comparable).mp brought) comparable]
    · have untouched : Unreached contributions q := fun p value brought comparable =>
        reached ⟨p, value, brought, comparable⟩
      rw [first.unreached q mine untouched, second.unreached q notTheirs fun p value brought
        comparable => untouched p value ((brings p value comparable).mpr brought) comparable,
        committed]

/-- A merge depends on which contributions there are, not on their order. -/
theorem Merges.unique {others : Contributions} {n : Tree}
    (same : ∀ c, c ∈ contributions ↔ c ∈ others) (first : Merges existing contributions m)
    (second : Merges existing others n) : m = n := by
  apply Tree.eq_of_content first.sorted second.sorted first.pruned second.pruned
  intro q
  apply first.content?_congr second _ _ rfl
  · simp [Owned, same]
  · simp [Brings, same]

theorem Disjoint.perm {others : Contributions} (disjoint : Disjoint contributions)
    (same : contributions.Perm others) : Disjoint others := by
  refine (same.pairwise_iff ?_).mp disjoint
  intro c d apart p memberP q memberQ comparable
  exact apart q memberQ p memberP comparable.symm

theorem exists_mergeOwned {existing : Tree} (sorted : Tree.Sorted existing)
    {contributions : Contributions} (sortedFragments : ∀ c ∈ contributions, Tree.Sorted c.2)
    (disjoint : Disjoint contributions) :
    ∃ m, mergeOwned existing contributions = .ok m ∧ Merges existing contributions m := by
  obtain ⟨m, merged, sortedM, untouched, brought, origin⟩ :=
    exists_mergeAll (sorted_cleared sorted contributions) sortedFragments disjoint
  refine ⟨Tree.pruned m, ?_, Tree.sorted_pruned sortedM, Tree.pruned_pruned m, ?_, ?_, ?_⟩
  · rw [cleared] at merged
    rw [mergeOwned, merged]
    rfl
  · intro c member q covered
    have owned : Owned contributions q := ⟨c, member, covered⟩
    rw [Tree.content?_pruned sortedM, brought c member q covered]
    simp [content?_cleared, owned]
  · intro q unowned unreached
    rw [Tree.content?_pruned sortedM, untouched q unreached, content?_cleared]
    simp [unowned]
  · intro q value content
    rw [Tree.content?_pruned sortedM] at content
    rcases origin q value content with former | brings
    · rw [content?_cleared] at former
      split at former
      next => cases former
      next => exact .inl former
    · exact .inr brings

/-- Owners that keep apart get what they contribute, down to what pruning leaves of it, and what is
apart from all of them carries through. -/
theorem mergeOwned_exact {existing : Tree} {contributions : Contributions}
    (sorted : Tree.Sorted existing) (sortedFragments : ∀ c ∈ contributions, Tree.Sorted c.2)
    (nonempty : ∀ c ∈ contributions, [] ∉ c.1) (disjoint : Disjoint contributions) :
    ∃ m, mergeOwned existing contributions = .ok m ∧
      (∀ c ∈ contributions, ∀ p ∈ c.1, ∀ q, p <+: q →
        m.get? q = (c.2.get? q).bind Node.kept) ∧
      (∀ q, (∀ c ∈ contributions, ∀ p ∈ c.1, ¬ (p <+: q ∨ q <+: p)) →
        m.get? q = (existing.get? q).bind Node.kept) ∧
      Tree.Pruned m := by
  obtain ⟨m, merged, merges⟩ := exists_mergeOwned sorted sortedFragments disjoint
  refine ⟨m, merged, ?_, ?_, merges.pruned⟩
  · intro c member p memberP q below
    have covered : Path.Covered c.1 q :=
      ⟨p, memberP, fun root => nonempty c member (root ▸ memberP), below⟩
    exact merges.get?_owned sortedFragments member covered
  · intro q free
    exact merges.get?_free sorted free

/-- An owned path may run through a leaf, and a fragment may hold what its owner does not own. -/
theorem mergeOwned_exact_through_leaf :
    ∃ m, mergeOwned
        [("a", .tree [("x", .list ["old"]), ("y", .list ["kept"])]), ("b", .scalar (.bool true))]
        [([["a", "x"], ["a", "x", "z"]],
            [("a", .tree [("x", .tree [("v", .list []), ("z", .list ["new"])])]),
              ("c", .list ["stray"])]),
          ([["b", "p"]], [("b", .tree [("p", .list ["q"])])])] = .ok m ∧
      m.get? ["a", "x"] = some (.tree [("z", .list ["new"])]) ∧
      m.get? ["b", "p"] = some (.list ["q"]) ∧
      m.get? ["a", "y"] = some (.list ["kept"]) ∧ m.get? ["c"] = none ∧ Tree.Pruned m := by
  obtain ⟨m, merged, owned, free, pruned⟩ := @mergeOwned_exact
    [("a", .tree [("x", .list ["old"]), ("y", .list ["kept"])]), ("b", .scalar (.bool true))]
    [([["a", "x"], ["a", "x", "z"]],
        [("a", .tree [("x", .tree [("v", .list []), ("z", .list ["new"])])]),
          ("c", .list ["stray"])]),
      ([["b", "p"]], [("b", .tree [("p", .list ["q"])])])]
    (by decide) (by decide) (by simp)
    (by simp [Disjoint, Path.Comparable])
  refine ⟨m, merged, ?_, ?_, ?_, ?_, pruned⟩
  · rw [owned _ List.mem_cons_self ["a", "x"] (by simp) _ List.prefix_rfl]
    rfl
  · rw [owned _ (List.mem_cons_of_mem _ List.mem_cons_self) ["b", "p"] (by simp) _ List.prefix_rfl]
    rfl
  · rw [free ["a", "y"] (by simp)]
    rfl
  · rw [free ["c"] (by simp)]
    rfl

/-- When every fragment agrees with a tree below its owned paths, merging them brings back what was
cleared and changes nothing else. -/
theorem exists_mergeAll_self {s t : Tree} (sorted : Tree.Sorted s)
    (sortedFragments : ∀ c ∈ contributions, Tree.Sorted c.2)
    (agree : ∀ c ∈ contributions, ∀ q, Path.Covered c.1 q → c.2.content? q = t.content? q)
    (missing : ∀ q, s.content? q = t.content? q ∨ (s.content? q = none ∧ Owned contributions q)) :
    ∃ m, mergeAll s contributions = .ok m ∧ Tree.Sorted m ∧
      ∀ q, m.content? q = t.content? q := by
  induction contributions generalizing s with
  | nil =>
    refine ⟨s, rfl, sorted, fun q => ?_⟩
    rcases missing q with same | ⟨-, owned⟩
    · exact same
    · simp [Owned] at owned
  | cons c rest ih =>
    obtain ⟨sortedHere, sortedLater⟩ := List.forall_mem_cons.mp sortedFragments
    obtain ⟨agreeHere, agreeLater⟩ := List.forall_mem_cons.mp agree
    obtain ⟨f, cut, ofFragment⟩ := Tree.exists_prunedTo sortedHere c.1
    have restricts : t.Restricts c.1 f :=
      ofFragment.of_content fun q covered => (agreeHere q covered).symm
    have step : ∀ q, Tree.content? (Tree.mergeFrom s f) q = t.content? q ∨
        (Tree.content? (Tree.mergeFrom s f) q = none ∧ Owned rest q) := by
      intro q
      by_cases covered : Path.Covered c.1 q
      · exact .inl (Tree.content?_mergeFrom_covered restricts covered
          ((missing q).symm.imp_left And.left))
      · rcases missing q with same | ⟨absent, owned⟩
        · exact .inl (Tree.content?_mergeFrom_shared restricts covered same)
        · refine .inr ⟨?_, ((owned_cons c rest q).mp owned).resolve_left covered⟩
          refine Option.eq_none_iff_forall_ne_some.mpr fun value content => ?_
          rcases Tree.content?_mergeFrom_origin restricts content with former | ⟨here, -⟩
          · rw [absent] at former
            cases former
          · exact covered here
    obtain ⟨m, merged, sortedM, same⟩ :=
      ih (Tree.sorted_mergeFrom sorted restricts.sorted) sortedLater agreeLater step
    exact ⟨m, by simp [mergeAll, cut, merged, bind, Except.bind], sortedM, same⟩

/-- When every owner contributes what is committed, the result is what is committed. -/
theorem mergeOwned_self {t : Tree} (sorted : Tree.Sorted t)
    (sortedFragments : ∀ c ∈ contributions, Tree.Sorted c.2)
    (agree : ∀ c ∈ contributions, ∀ q, Path.Covered c.1 q → c.2.content? q = t.content? q) :
    mergeOwned t contributions = .ok (Tree.pruned t) := by
  have missing : ∀ q, (cleared t contributions).content? q = t.content? q ∨
      ((cleared t contributions).content? q = none ∧ Owned contributions q) := by
    intro q
    rw [content?_cleared]
    split
    next owned => exact .inr ⟨rfl, owned⟩
    next => exact .inl rfl
  obtain ⟨m, merged, sortedM, same⟩ :=
    exists_mergeAll_self (sorted_cleared sorted contributions) sortedFragments agree missing
  rw [cleared] at merged
  rw [mergeOwned, merged]
  refine congrArg Except.ok (Tree.eq_of_content (Tree.sorted_pruned sortedM)
    (Tree.sorted_pruned sorted) (Tree.pruned_pruned m) (Tree.pruned_pruned t) fun q => ?_)
  rw [Tree.content?_pruned sortedM, Tree.content?_pruned sorted, same q]

end Slice

end ObservedConfig
