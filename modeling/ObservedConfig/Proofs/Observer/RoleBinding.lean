import ObservedConfig.Observer.RoleBinding
import ObservedConfig.Proofs.Observer
import ObservedConfig.Proofs.Slice.Difference

/-! How the observer of restrictions on role bindings decides. It derives one list from the list
that is committed, and deriving it from its own result changes nothing. -/
namespace ObservedConfig

section Distinct
variable (keys : List String)

theorem find?_ofList_units (key : String) :
    Entries.find? key (Entries.ofList (keys.map fun key => (key, ()))) =
      if key ∈ keys then some () else none := by
  suffices general : ∀ entries : List (String × Unit), Entries.find? key
      ((keys.map fun key => (key, ())).foldl
        (fun entries binding => Entries.insert binding.1 binding.2 entries) entries) =
      if key ∈ keys then some () else Entries.find? key entries by
    exact general []
  induction keys with
  | nil => simp
  | cons first rest ih =>
    intro entries
    rw [List.map_cons, List.foldl_cons, ih]
    by_cases later : key ∈ rest
    · simp [later]
    · by_cases same : key = first
      · subst same
        simp [later]
      · simp [later, same, Entries.find?_insert_other same]

theorem mem_distinct {key : String} : key ∈ Entries.distinct keys ↔ key ∈ keys := by
  have sees := find?_ofList_units keys key
  constructor
  · intro member
    by_cases listed : key ∈ keys
    · exact listed
    · obtain ⟨⟨name, ⟨⟩⟩, inside, rfl⟩ := List.mem_map.mp member
      have ordered := Entries.sorted_ofList_names (keys.map fun key => (key, ()))
      rw [if_neg listed, ordered.find?_of_mem Entries.lt_asymmetric inside] at sees
      cases sees
  · intro member
    rw [if_pos member] at sees
    exact List.mem_map_of_mem (Entries.mem_of_find? sees)

/-- Lists with the same members have the same distinct members. -/
theorem distinct_congr {keys others : List String} (same : ∀ key, key ∈ keys ↔ key ∈ others) :
    Entries.distinct keys = Entries.distinct others := by
  unfold Entries.distinct
  congr 1
  apply (Entries.sorted_ofList_names _).ext Entries.lt_asymmetric (Entries.sorted_ofList_names _)
  intro key
  simp only [find?_ofList_units, same key]

end Distinct

namespace RoleBinding

theorem desired_desired (disable : Bool) (current : List String) :
    desired disable (desired disable current) = desired disable current := by
  cases disable with
  | true =>
    simp only [desired, if_true, unionSorted]
    apply distinct_congr
    intro key
    simp only [List.mem_append, mem_distinct]
    constructor
    · rintro ((former | own) | own)
      · exact .inl former
      · exact .inr own
      · exact .inr own
    · exact .inl
  | false => simp [desired, retract]

def decision (disable : Bool) (current : List String) : Decision where
  plans := []
  messages :=
    if held current = held (desired disable current) then []
    else [if disable then disabledMessage else enabledMessage]
  fragment := Tree.pruned [(argumentsKey,
    .tree [("disable-admission-plugins", .list (desired disable current))])]

theorem setList_disabledPlugins (values : List String) : Tree.setList [] disabledPlugins values =
    .ok [(argumentsKey, .tree [("disable-admission-plugins", .list values)])] := rfl

theorem decide_eq_ok {ctx : Context} {existing : Tree} {d : Decision} :
    decide ctx existing = .ok d ↔ ∃ auth? current?,
      ctx.lookup.authentication Authentication.resourceName = .ok auth? ∧
      existing.getList disabledPlugins = .ok current? ∧
      d = decision (shouldDisable auth?) (current?.getD []) := by
  simp only [decide, bind_eq_ok, failing_eq_ok, orError_eq_ok, pure_eq_ok,
    setList_disabledPlugins, Except.ok.injEq]
  constructor
  · rintro ⟨auth?, found, current?, read, _, rfl, rfl⟩
    exact ⟨auth?, current?, found, read, rfl⟩
  · rintro ⟨auth?, current?, found, read, rfl⟩
    exact ⟨auth?, found, current?, read, _, rfl, rfl⟩

/-- This observer never asks for replicas. -/
theorem plans_of_decide {ctx : Context} {existing : Tree} {d : Decision}
    (decided : decide ctx existing = .ok d) : d.plans = [] := by
  obtain ⟨_, _, -, -, rfl⟩ := decide_eq_ok.mp decided
  rfl

/-- So it leaves the rules as they are. -/
theorem rules_of_carried {σ : Type} [Replica.Syncer σ] {ctx : Context} {existing : Tree}
    {session session' : Session σ} {observation : Observation}
    (carried : Carried name existing session (decide ctx existing) observation session') :
    session'.rules = session.rules := by
  generalize decided : decide ctx existing = result at carried
  cases carried with
  | failed => rfl
  | rejected rejection =>
    rw [plans_of_decide decided] at rejection
    cases rejection
  | accepted issued =>
    rw [plans_of_decide decided] at issued
    cases issued
    rfl

/-- A decision depends on the authentication resource and the committed list alone. -/
theorem decide_congr {ctx ctx' : Context} {existing existing' : Tree}
    (authentication : ctx'.lookup.authentication Authentication.resourceName =
      ctx.lookup.authentication Authentication.resourceName)
    (read : existing'.getList disabledPlugins = existing.getList disabledPlugins) :
    decide ctx' existing' = decide ctx existing := by
  simp only [decide, authentication, read]

theorem causing_decide (ctx : Context) (existing : Tree) : Causing (decide ctx existing) :=
  (causing_failing _).bind fun _ => (causing_failing _).bind fun _ => (causing_failing _).bind
    fun _ => causing_ok _

theorem decide_ne_crash (ctx : Context) (existing : Tree) (cause : Crash) :
    decide ctx existing ≠ .error (.crash cause) := by
  cases found : ctx.lookup.authentication Authentication.resourceName with
  | error => simp [decide, found, failing, bind, Except.bind]
  | ok =>
    cases read : existing.getList disabledPlugins <;>
      simp [decide, found, read, setList_disabledPlugins, failing, orError, bind, Except.bind,
        pure, Except.pure]

theorem sorted_fragment (disable : Bool) (current : List String) :
    Tree.Sorted (decision disable current).fragment := by
  apply Tree.sorted_pruned
  simp [Tree.Sorted, Node.Sorted]

theorem get?_fragment (disable : Bool) (current : List String) :
    (decision disable current).fragment.get? disabledPlugins =
      (Node.list (desired disable current)).kept := by
  rw [decision, Tree.get?_pruned (by simp [Tree.Sorted, Node.Sorted])]
  rfl

theorem kept_fragment (disable : Bool) (current : List String) :
    ((decision disable current).fragment.get? disabledPlugins).bind Node.kept =
      (Node.list (desired disable current)).kept := by
  rw [get?_fragment]
  cases desired disable current <;> rfl

/-- The list of disabled plugins can be read and has these entries. No list counts as an empty
one. -/
def Lists (t : Tree) (entries : List String) : Prop :=
  ∃ found, t.getList disabledPlugins = .ok found ∧ found.getD [] = entries

variable {t : Tree} {entries : List String}

theorem Lists.kept (lists : Lists t entries) :
    (t.get? disabledPlugins).bind Node.kept = (Node.list entries).kept := by
  obtain ⟨found, read, rfl⟩ := lists
  obtain ⟨-, ⟨absent, rfl⟩ | ⟨values, present, rfl⟩⟩ :=
    (Tree.getList_eq_ok (by decide)).mp read
  · rw [absent]
    rfl
  · rw [present]
    rfl

theorem lists_of_kept (sorted : Tree.Sorted t) (pruned : Tree.Pruned t)
    (bare : t.content? [argumentsKey] = none)
    (here : t.get? disabledPlugins = (Node.list entries).kept) : Lists t entries := by
  have read := Tree.getList_of_bare sorted pruned bare fun node found =>
    ⟨entries, (Node.kept_eq_some (here ▸ found)).1⟩
  refine ⟨_, read, ?_⟩
  rw [← disabledPlugins, here]
  cases entries <;> rfl

end RoleBinding

end ObservedConfig
