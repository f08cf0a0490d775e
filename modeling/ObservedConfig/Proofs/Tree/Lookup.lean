import ObservedConfig.Error
import ObservedConfig.Proofs.Tree.Assignment

/-! Two ways to look a path up. `get?` shows nothing wherever a path leads nowhere, and `getList`
tells a name that is missing from a leaf in the way and from another kind of node at the end. They
agree on every path, and the error names the place that `get?` sees it at. A search for a sequence
at one of several paths stops at the first path that decides. -/
namespace ObservedConfig

namespace Path

theorem display_cons (name : String) {rest : Path} (more : rest ≠ []) :
    display (name :: rest) = name ++ "." ++ display rest := by
  obtain ⟨next, tail, rfl⟩ := List.exists_cons_of_ne_nil more
  exact String.intercalate_cons_cons

theorem length_display_lt {p rest : Path} (inside : p ≠ []) (more : rest ≠ []) :
    p.display.length < (display (p ++ rest)).length := by
  induction p with
  | nil => exact absurd rfl inside
  | cons name tail ih =>
    rw [List.cons_append, display_cons name (List.append_ne_nil_of_right_ne_nil tail more)]
    by_cases last : tail = []
    · subst last
      simp only [display, String.intercalate_singleton, String.length_append]
      have dot : ".".length = 1 := rfl
      omega
    · have inner := ih last
      rw [display_cons name last]
      simp only [String.length_append]
      omega

/-- Of the places on one way, no two are shown alike. -/
theorem eq_of_display {p q whole : Path} (insideP : p ≠ []) (insideQ : q ≠ [])
    (onWayP : p <+: whole) (onWayQ : q <+: whole) (same : p.display = q.display) : p = q := by
  rcases List.prefix_or_prefix_of_prefix onWayP onWayQ with ⟨rest, rfl⟩ | ⟨rest, rfl⟩
  · by_cases more : rest = []
    · simp [more]
    · exact absurd (congrArg String.length same) (Nat.ne_of_lt (length_display_lt insideP more))
  · by_cases more : rest = []
    · simp [more]
    · exact absurd (congrArg String.length same.symm) (Nat.ne_of_lt (length_display_lt insideQ more))

end Path

theorem orError_eq_error {α : Type} {result : Except Tree.Fault α} {error : ObserveError} :
    orError result = .error error ↔ ∃ fault, result = .error fault ∧ .ofTree fault = error := by
  cases result <;> simp [orError]

namespace Tree

variable {t : Tree} {path place : Path}

theorem getList_eq_some {values : List String} :
    t.getList path = .ok (some values) ↔ t.get? path = some (.list values) := by
  constructor
  · exact get?_of_getList
  · intro found
    have root : path ≠ [] := by
      rintro rfl
      simp at found
    have free : t.Open path := open_iff.mpr fun place blocked => by
      rw [blocked.get?_eq_none] at found
      cases found
    exact (getList_eq_ok root).mpr ⟨free, .inr ⟨values, found, rfl⟩⟩

theorem getList_eq_none :
    t.getList path = .ok none ↔ t.get? path = none ∧ ∀ place, ¬ t.BlockedAt path place := by
  by_cases root : path = []
  · subst root
    simp [getList]
  · simp [getList_eq_ok root, open_iff, and_comm]

theorem getList_eq_notList :
    orError (t.getList path) = .error (.pathTypeMismatch path.display "list") ↔
      (∃ value, t.get? path = some (.scalar value)) ∨
        ∃ child, t.get? path = some (.tree child) := by
  have shape : (∃ node, t.get? path = some node ∧ node.list? = none) ↔
      (∃ value, t.get? path = some (.scalar value)) ∨
        ∃ child, t.get? path = some (.tree child) := by
    cases t.get? path with
    | none => simp
    | some node => cases node <;> simp [Node.list?]
  rw [← shape, orError_eq_error]
  simp only [getList_eq_error]
  constructor
  · rintro ⟨fault, obstructs, named⟩
    cases fault with
    | emptyPath => cases obstructs
    | notMap place => simp [ObserveError.ofTree] at named
    | notList place => exact obstructs.2
  · exact fun other => ⟨.notList path, ⟨rfl, other⟩, rfl⟩

theorem getList_eq_notMap (inside : place ≠ []) (onWay : place <+: path) :
    orError (t.getList path) = .error (.pathTypeMismatch place.display "map") ↔
      t.BlockedAt path place := by
  rw [orError_eq_error]
  simp only [getList_eq_error]
  constructor
  · rintro ⟨fault, obstructs, named⟩
    cases fault with
    | emptyPath => cases obstructs
    | notList => simp [ObserveError.ofTree] at named
    | notMap other =>
      have blocked := blockedAt_iff.mpr obstructs
      have shown : other.display = place.display := by simpa [ObserveError.ofTree] using named
      obtain rfl := Path.eq_of_display blocked.1 inside blocked.2.1 onWay shown
      exact blocked
  · exact fun blocked => ⟨.notMap place, blockedAt_iff.mp blocked, rfl⟩

/-- A member with one property behind members that all have another is the head of the list, or the
head has the other property and such a member comes behind it. -/
theorem exists_split_cons {α : Type} {p q : α → Prop} {head : α} {rest : List α} :
    (∃ before found after, head :: rest = before ++ found :: after ∧ p found ∧
        ∀ earlier ∈ before, q earlier) ↔
      p head ∨ q head ∧ ∃ before found after, rest = before ++ found :: after ∧ p found ∧
        ∀ earlier ∈ before, q earlier := by
  constructor
  · rintro ⟨before, found, after, split, here, earlier⟩
    cases before with
    | nil =>
      obtain ⟨rfl, -⟩ := List.cons.inj split
      exact .inl here
    | cons first before =>
      obtain ⟨rfl, rfl⟩ := List.cons.inj split
      obtain ⟨first, later⟩ := List.forall_mem_cons.mp earlier
      exact .inr ⟨first, before, found, after, rfl, here, later⟩
  · rintro (here | ⟨first, before, found, after, rfl, here, later⟩)
    · exact ⟨[], head, rest, rfl, here, by simp⟩
    · exact ⟨head :: before, found, after, rfl, here, List.forall_mem_cons.mpr ⟨first, later⟩⟩

/-- The search finds a sequence when it comes to one before any path that cannot be read. -/
theorem containsAnyList_eq_true {paths : List Path} :
    t.containsAnyList paths = .ok true ↔
      ∃ before path after, paths = before ++ path :: after ∧
        (∃ values, t.get? path = some (.list values)) ∧
        ∀ earlier ∈ before, ∀ fault, t.getList earlier ≠ .error fault := by
  induction paths with
  | nil => simp [containsAnyList]
  | cons path rest ih =>
    rw [exists_split_cons, ← ih]
    simp only [← getList_eq_some]
    cases read : t.getList path with
    | error fault => simp [containsAnyList, read, bind, Except.bind]
    | ok found =>
      rw [containsAnyList_cons read]
      cases found <;> simp

/-- Reading a sequence refines looking its path up. It gives the sequence that stands there, fails
at the whole path when another kind of node does, fails at the one place where a leaf is in the way,
and else finds nothing. So a search over several paths succeeds when one of them holds a sequence and
none before it fails. -/
theorem getList_refines (t : Tree) :
    (∀ path,
      (∀ values, t.getList path = .ok (some values) ↔ t.get? path = some (.list values)) ∧
      (orError (t.getList path) = .error (.pathTypeMismatch path.display "list") ↔
        (∃ value, t.get? path = some (.scalar value)) ∨
          ∃ child, t.get? path = some (.tree child)) ∧
      (∀ place : Path, place ≠ [] → place <+: path →
        (orError (t.getList path) = .error (.pathTypeMismatch place.display "map") ↔
          t.BlockedAt path place)) ∧
      (∀ place other, t.BlockedAt path place → t.BlockedAt path other → place = other) ∧
      (t.getList path = .ok none ↔
        t.get? path = none ∧ ∀ place, ¬ t.BlockedAt path place)) ∧
    ∀ paths, t.containsAnyList paths = .ok true ↔
      ∃ before path after, paths = before ++ path :: after ∧
        (∃ values, t.get? path = some (.list values)) ∧
        ∀ earlier ∈ before, ∀ fault, t.getList earlier ≠ .error fault :=
  ⟨fun _ => ⟨fun _ => getList_eq_some, getList_eq_notList,
    fun _ inside onWay => getList_eq_notMap inside onWay,
    fun _ _ first second => first.eq second, getList_eq_none⟩,
    fun _ => containsAnyList_eq_true⟩

/-! A path that goes on behind the one sequence of a tree, and a search that comes to the sequence
before a path it could not read. -/

theorem getList_refines_behind_client :
    clientOnly.BlockedAt ["apiServerArguments", "oidc-client-id", "x"]
        ["apiServerArguments", "oidc-client-id"] ∧
      orError (clientOnly.getList ["apiServerArguments", "oidc-client-id", "x"]) =
        .error (.pathTypeMismatch "apiServerArguments.oidc-client-id" "map") ∧
      clientOnly.containsAnyList [["audit"], ["apiServerArguments", "oidc-client-id"],
        ["apiServerArguments"]] = .ok true := by
  obtain ⟨each, search⟩ := getList_refines clientOnly
  obtain ⟨-, -, behind, -, -⟩ := each ["apiServerArguments", "oidc-client-id", "x"]
  have blocked : clientOnly.BlockedAt ["apiServerArguments", "oidc-client-id", "x"]
      ["apiServerArguments", "oidc-client-id"] :=
    ⟨by simp, by decide, by simp, _, rfl, rfl⟩
  refine ⟨blocked, (behind _ (by simp) (by decide)).mpr blocked, (search _).mpr ?_⟩
  exact ⟨[["audit"]], ["apiServerArguments", "oidc-client-id"], [["apiServerArguments"]], rfl,
    ⟨_, rfl⟩, by simp [getList, clientOnly, Entries.find?]⟩

end Tree

end ObservedConfig
