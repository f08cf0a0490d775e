import ObservedConfig.Proofs.Observer.RoleBinding
import ObservedConfig.Proofs.Text.Bytes

/-! The list of disabled plugins is shared with other sources. It goes back and forth between a
union that sorts it and a filter that keeps its order, and neither touches an entry of another
source, but the first union puts the list in order for good. -/
namespace ObservedConfig.RoleBinding

/-- What looking up the authentication resource comes to. -/
abbrev Answer := Except ObserveError (Option Authentication)

/-- The type of authentication is one under which the plugins are disabled. -/
def Disables (answer : Answer) : Prop :=
  ∃ auth, answer = .ok (some auth) ∧ (auth.spec.kind = .oidc ∨ auth.spec.kind = .none)

theorem disables_ok {auth? : Option Authentication} :
    Disables (.ok auth?) ↔ shouldDisable auth? = true := by
  cases auth? with
  | none => simp [Disables, shouldDisable]
  | some auth =>
    cases kind : auth.spec.kind <;>
      simp [Disables, shouldDisable, kind, Authentication.Kind.isIntegrated]

/-- The list after a pass. A look-up that fails leaves it alone. -/
def revised (answer : Answer) (current : List String) : List String :=
  match answer with
  | .ok auth? => desired (shouldDisable auth?) current
  | .error _ => current

theorem revised_ok (auth? : Option Authentication) (current : List String) :
    revised (.ok auth?) current = desired (shouldDisable auth?) current := rfl

def foreign (entries : List String) : List String := entries.filter (· ∉ plugins)

def Increasing (entries : List String) : Prop :=
  entries.Pairwise fun a b => Text.bytes a < Text.bytes b

variable {current entries initial : List String} {answer : Answer} {answers : List Answer}
  {plugin : String}

theorem mem_desired_disabled :
    plugin ∈ desired true current ↔ plugin ∈ current ∨ plugin ∈ plugins := by
  simp [desired, unionSorted, mem_distinct]

theorem desired_enabled (current : List String) : desired false current = foreign current := by
  simp [desired, retract, foreign]

theorem mem_foreign : plugin ∈ foreign entries ↔ plugin ∈ entries ∧ plugin ∉ plugins := by
  simp [foreign]

theorem increasing_distinct (keys : List String) : Increasing (Entries.distinct keys) := by
  refine List.pairwise_map.mpr ((Entries.sorted_ofList_names _).imp ?_)
  exact fun less => Text.bytes_lt less

/-- The entries of other sources are the same in every revision. -/
theorem mem_revised (unowned : plugin ∉ plugins) :
    plugin ∈ revised answer current ↔ plugin ∈ current := by
  cases answer with
  | error => rfl
  | ok auth? =>
    rw [revised_ok]
    cases shouldDisable auth? with
    | true => simp [mem_desired_disabled, unowned]
    | false => simp [desired_enabled, mem_foreign, unowned]

/-- A look-up that succeeds decides about both plugins. -/
theorem mem_revised_ok {auth? : Option Authentication} (own : plugin ∈ plugins) :
    plugin ∈ revised (.ok auth?) current ↔ Disables (.ok auth?) := by
  rw [disables_ok, revised_ok]
  cases shouldDisable auth? with
  | true => simp [mem_desired_disabled, own]
  | false => simp [desired_enabled, mem_foreign, own]

/-- The two lists hold the same plugins of this observer. -/
theorem held_eq_iff : held current = held entries ↔
    ∀ plugin ∈ plugins, (plugin ∈ current ↔ plugin ∈ entries) := by
  refine List.map_inj_left.trans (forall₂_congr fun plugin _ => ?_)
  rw [Bool.eq_iff_iff, List.contains_iff_mem, List.contains_iff_mem]

/-- What holds of the list after passes with these answers, of which the latest comes first. -/
structure Kept (initial : List String) (answers : List Answer) (entries : List String) : Prop where
  members : ∀ plugin, plugin ∉ plugins → (plugin ∈ entries ↔ plugin ∈ initial)
  /-- Order and number of entries only change when the plugins are disabled. -/
  order : (∀ answer ∈ answers, ¬ Disables answer) → foreign entries = foreign initial
  increasing : (∃ answer ∈ answers, Disables answer) → Increasing entries

theorem Kept.start (initial : List String) : Kept initial [] initial where
  members _ _ := .rfl
  order _ := rfl
  increasing disabled := by simp at disabled

theorem Kept.pass (kept : Kept initial answers entries) (answer : Answer) :
    Kept initial (answer :: answers) (revised answer entries) where
  members plugin unowned := (mem_revised unowned).trans (kept.members plugin unowned)
  order enabled := by
    obtain ⟨here, before⟩ := List.forall_mem_cons.mp enabled
    cases answer with
    | error => exact kept.order before
    | ok auth? =>
      rw [disables_ok, Bool.not_eq_true] at here
      rw [revised_ok, here, desired_enabled, ← kept.order before]
      simp [foreign]
  increasing disabled := by
    cases answer with
    | error e =>
      refine kept.increasing ?_
      simpa [Disables] using disabled
    | ok auth? =>
      rw [revised_ok]
      cases disable : shouldDisable auth? with
      | true => exact increasing_distinct _
      | false =>
        have before : ∃ answer ∈ answers, Disables answer := by
          simpa [disables_ok, disable] using disabled
        rw [desired_enabled]
        exact (kept.increasing before).filter _

end ObservedConfig.RoleBinding
