import ObservedConfig.Proofs.Slice.Difference

/-! The verdict of a comparison. Owned paths are compared in order, and the first one that does not
agree ends the comparison: with a fault where a sequence cannot be read, and with a change where two
sequences differ. What stands behind that path is never looked at, so a committed value of the wrong
shape may go unnoticed there. -/
namespace ObservedConfig

namespace Slice

/-- The comparison at one path: whether the two sides hold different sequences. -/
def verdict (existing fragment : Tree) (path : Path) : Except Tree.Fault Bool := do
  return present (← existing.getList path) != (← fragment.getList path)

theorem differs_of_verdict (existing fragment : Tree) (path : Path) (rest : List Path) :
    differs existing fragment (path :: rest) =
      match verdict existing fragment path with
      | .error fault => .error fault
      | .ok true => .ok true
      | .ok false => differs existing fragment rest := by
  unfold verdict
  cases read : existing.getList path with
  | error => simp only [differs, read]; rfl
  | ok current =>
    cases wanted : fragment.getList path with
    | error => simp only [differs, read, wanted]; rfl
    | ok desired =>
      rw [differs_cons read wanted]
      by_cases same : present current = desired
      · simp [same, bind, Except.bind, pure, Except.pure]
      · have changed : (present current != desired) = true := bne_iff_ne.mpr same
        simp [same, changed, bind, Except.bind, pure, Except.pure]

/-- Nothing differs when nothing differs at any path. -/
theorem differs_eq_false {existing fragment : Tree} {paths : List Path} :
    differs existing fragment paths = .ok false ↔
      ∀ path ∈ paths, verdict existing fragment path = .ok false := by
  induction paths with
  | nil => simp [differs]
  | cons path rest ih =>
    rw [differs_of_verdict, List.forall_mem_cons, ← ih]
    split
    next failed => simp [failed]
    next changed => simp [changed]
    next agreed => simp [agreed]

/-- Every other result is that of the first path with another verdict. -/
theorem differs_eq_first {existing fragment : Tree} {paths : List Path}
    {result : Except Tree.Fault Bool} (other : result ≠ .ok false) :
    differs existing fragment paths = result ↔
      ∃ before path after, paths = before ++ path :: after ∧
        (∀ q ∈ before, verdict existing fragment q = .ok false) ∧
        verdict existing fragment path = result := by
  induction paths with
  | nil => simp [differs, Ne.symm other]
  | cons first rest ih =>
    rw [differs_of_verdict]
    constructor
    · intro ended
      split at ended
      next failed => exact ⟨[], first, rest, rfl, by simp, failed.trans ended⟩
      next changed => exact ⟨[], first, rest, rfl, by simp, changed.trans ended⟩
      next agreed =>
        obtain ⟨before, path, after, rfl, earlier, here⟩ := ih.mp ended
        exact ⟨first :: before, path, after, rfl, List.forall_mem_cons.mpr ⟨agreed, earlier⟩, here⟩
    · rintro ⟨before, path, after, split, agreed, here⟩
      cases before with
      | nil =>
        obtain ⟨rfl, rfl⟩ := List.cons.inj split
        rw [here]
        rcases result with fault | (_ | _)
        · rfl
        · exact absurd rfl other
        · rfl
      | cons p before =>
        obtain ⟨rfl, rfl⟩ := List.cons.inj split
        obtain ⟨now, later⟩ := List.forall_mem_cons.mp agreed
        rw [now]
        exact ih.mpr ⟨before, path, after, rfl, later, here⟩

/-- Both sides can be read at a path and hold the same sequence, where an empty one counts as an
absent one. -/
structure Agrees (existing fragment : Tree) (path : Path) : Prop where
  readable : ∀ fault : Tree.Fault, ¬ fault.Obstructs existing path
  readableFragment : ∀ fault : Tree.Fault, ¬ fault.Obstructs fragment path
  same : (existing.get? path).bind Node.kept = fragment.get? path

section Verdict
variable {existing fragment : Tree} {path : Path}

theorem kept_of_read {t : Tree} {found : Option (List String)} (read : t.getList path = .ok found) :
    (t.get? path).bind Node.kept = (present found).map Node.list := by
  rw [Tree.get?_of_getList read]
  rcases found with _ | (_ | _) <;> rfl

/-- Nodes at a path that can be read are told apart by their sequences. -/
theorem kept_eq_of_lists (readable : ∀ fault : Tree.Fault, ¬ fault.Obstructs existing path)
    (readableFragment : ∀ fault : Tree.Fault, ¬ fault.Obstructs fragment path)
    (lists : ((existing.get? path).bind Node.kept).bind Node.list? =
      (fragment.get? path).bind Node.list?) :
    (existing.get? path).bind Node.kept = fragment.get? path := by
  obtain ⟨current, read⟩ := Tree.exists_getList.mpr readable
  obtain ⟨desired, wanted⟩ := Tree.exists_getList.mpr readableFragment
  have back (values : Option (List String)) :
      (values.map Node.list).bind Node.list? = values := by
    cases values <;> rfl
  rw [kept_of_read read, Tree.get?_of_getList wanted] at lists ⊢
  rw [back, back] at lists
  rw [lists]

theorem verdict_eq_ok {differ : Bool} : verdict existing fragment path = .ok differ ↔
    (∀ fault : Tree.Fault, ¬ fault.Obstructs existing path) ∧
      (∀ fault : Tree.Fault, ¬ fault.Obstructs fragment path) ∧
      (differ = true ↔ (existing.get? path).bind Node.kept ≠ fragment.get? path) := by
  have injective : Function.Injective Node.list := fun _ _ same => Node.list.inj same
  rw [← Tree.exists_getList, ← Tree.exists_getList, verdict]
  cases read : existing.getList path with
  | error => simp [bind, Except.bind]
  | ok current =>
    cases wanted : fragment.getList path with
    | error => simp [bind, Except.bind]
    | ok desired =>
      rw [kept_of_read read, Tree.get?_of_getList wanted, (Option.map_injective injective).ne_iff]
      by_cases same : present current = desired <;> cases differ <;>
        simp [same, bind, Except.bind, pure, Except.pure]

theorem verdict_eq_error {fault : Tree.Fault} :
    verdict existing fragment path = .error fault ↔ fault.Obstructs existing path ∨
      ((∀ other : Tree.Fault, ¬ other.Obstructs existing path) ∧
        fault.Obstructs fragment path) := by
  rw [← Tree.exists_getList, ← Tree.getList_eq_error, ← Tree.getList_eq_error, verdict]
  cases existing.getList path with
  | error => simp [bind, Except.bind]
  | ok current => cases fragment.getList path <;> simp [bind, Except.bind, pure, Except.pure]

theorem verdict_eq_false : verdict existing fragment path = .ok false ↔
    Agrees existing fragment path := by
  rw [verdict_eq_ok]
  simp only [Bool.false_eq_true, false_iff, ne_eq, Classical.not_not]
  exact ⟨fun ⟨readable, readableFragment, same⟩ => ⟨readable, readableFragment, same⟩,
    fun ⟨readable, readableFragment, same⟩ => ⟨readable, readableFragment, same⟩⟩

end Verdict

/-- A comparison fails at the first path that cannot be read, if all before it agree. -/
theorem differs_eq_error {existing fragment : Tree} {paths : List Path} {fault : Tree.Fault} :
    differs existing fragment paths = .error fault ↔
      ∃ before path after, paths = before ++ path :: after ∧
        (∀ q ∈ before, Agrees existing fragment q) ∧
        (fault.Obstructs existing path ∨
          (∀ other : Tree.Fault, ¬ other.Obstructs existing path) ∧
            fault.Obstructs fragment path) := by
  rw [differs_eq_first (by simp)]
  simp only [verdict_eq_false, verdict_eq_error]

/-- What a successful comparison says: no path departs exactly when all agree. -/
theorem unchanged_iff {existing candidate : Tree} {owned : List Path} {outcome : Outcome}
    (compared : diff existing candidate owned = .ok outcome) :
    outcome.changed = false ↔ ∀ path ∈ owned, Agrees existing outcome.fragment path := by
  have read := (diff_eq_ok.mp compared).2
  simp only [← verdict_eq_false, ← differs_eq_false, read, Except.ok.injEq]

/-- Comparisons over the same owned paths in another order come to the same outcome when both come
to one. -/
theorem outcome_unique {existing candidate : Tree} {owned others : List Path}
    {outcome outcome' : Outcome} (sorted : Tree.Sorted candidate) (same : owned.Perm others)
    (compared : diff existing candidate owned = .ok outcome)
    (compared' : diff existing candidate others = .ok outcome') : outcome = outcome' := by
  have fragments : outcome.fragment = outcome'.fragment := by
    refine Tree.Restricts.unique (fun q => ?_) (restricts_of_diff sorted compared)
      (restricts_of_diff sorted compared')
    simp only [Path.Covered, same.mem_iff]
  have flags : outcome.changed = false ↔ outcome'.changed = false := by
    rw [unchanged_iff compared, unchanged_iff compared', fragments]
    simp only [same.mem_iff]
  obtain ⟨fragment, changed⟩ := outcome
  obtain ⟨fragment', changed'⟩ := outcome'
  obtain rfl : fragment = fragment' := fragments
  cases changed <;> cases changed' <;> simp at flags ⊢

/-- A committed value of the wrong shape is reported when the comparison gets to it, that is, when
all owned paths before it agree. Behind a path that departs it goes unnoticed, and the slice counts
as changed. So the order of the owned paths decides whether a comparison fails, but never what one
that succeeds says. -/
theorem misshapen_reported_iff {existing candidate : Tree} {owned : List Path}
    (sorted : Tree.Sorted candidate) :
    ∃ f, candidate.prunedTo owned = .ok f ∧
      (∀ fault, diff existing candidate owned = .error fault ↔
        ∃ before path after, owned = before ++ path :: after ∧
          (∀ q ∈ before, Agrees existing f q) ∧
          (fault.Obstructs existing path ∨
            (∀ other : Tree.Fault, ¬ other.Obstructs existing path) ∧
              fault.Obstructs f path)) ∧
      (∀ outcome, diff existing candidate owned = .ok outcome →
        ∀ before path after, owned = before ++ path :: after →
          ∀ fault : Tree.Fault, fault.Obstructs existing path →
            outcome.changed = true ∧ ∃ q ∈ before, ¬ Agrees existing f q) ∧
      ∀ others, owned.Perm others → ∀ outcome outcome',
        diff existing candidate owned = .ok outcome →
          diff existing candidate others = .ok outcome' → outcome = outcome' := by
  obtain ⟨f, cut, -⟩ := Tree.exists_prunedTo sorted owned
  refine ⟨f, cut, fun fault => (diff_eq_error cut).trans differs_eq_error, ?_,
    fun _ same _ _ compared compared' => outcome_unique sorted same compared compared'⟩
  intro outcome compared before path after split fault obstructs
  obtain rfl : f = outcome.fragment := Except.ok.inj (cut.symm.trans (diff_eq_ok.mp compared).1)
  constructor
  · rw [← Bool.not_eq_false]
    intro unchanged
    have agrees := (unchanged_iff compared).mp unchanged path (by simp [split])
    exact agrees.readable fault obstructs
  · apply Classical.byContradiction
    intro none
    have agreed : ∀ q ∈ before, Agrees existing outcome.fragment q := fun q member =>
      Classical.byContradiction fun departs => none ⟨q, member, departs⟩
    have reported := (diff_eq_error cut).mpr
      (differs_eq_error.mpr ⟨before, path, after, split, agreed, .inl obstructs⟩)
    rw [compared] at reported
    cases reported

/-! A committed client whose argument is a text where a sequence belongs. -/

def clientPath : Path := [argumentsKey, "oidc-client-id"]

def issuerPath : Path := [argumentsKey, "oidc-issuer-url"]

def misshapenClient : Tree :=
  [(argumentsKey, .tree [("oidc-client-id", .scalar (.text "console")),
    ("oidc-issuer-url", .list ["https://old.example"])])]

def movedIssuer : Tree :=
  [(argumentsKey, .tree [("oidc-issuer-url", .list ["https://new.example"])])]

theorem misshapen_reported_iff_client_first :
    Tree.Sorted movedIssuer ∧
      diff misshapenClient movedIssuer [clientPath, issuerPath] = .error (.notList clientPath) := by
  obtain ⟨f, cut, failed, -, -⟩ := @misshapen_reported_iff misshapenClient movedIssuer
    [clientPath, issuerPath] (by decide)
  have obstructs : (Tree.Fault.notList clientPath).Obstructs misshapenClient clientPath :=
    ⟨rfl, _, rfl, rfl⟩
  exact ⟨by decide, (failed _).mpr ⟨[], _, _, rfl, by simp, .inl obstructs⟩⟩

/-- With the owned paths the other way round the same text goes unnoticed, and merging drops it. -/
theorem misshapen_client_unreported :
    (Tree.Fault.notList clientPath).Obstructs misshapenClient clientPath ∧
      diff misshapenClient movedIssuer [clientPath, issuerPath] = .error (.notList clientPath) ∧
      diff misshapenClient movedIssuer [issuerPath, clientPath] = .ok ⟨movedIssuer, true⟩ ∧
      mergeOwned misshapenClient [([issuerPath, clientPath], movedIssuer)] = .ok movedIssuer :=
  ⟨⟨rfl, _, rfl, rfl⟩, rfl, rfl, rfl⟩

end Slice

end ObservedConfig
