import ObservedConfig.Proofs.Registry.Idempotence

/-! What a pass says when it is repeated. A second pass on the result of one without errors finds in
the configuration all that it would contribute, even if replicas have come or gone in the meantime.
So it has nothing to speak of but replicas, and what it says of them depends on the plans that it
makes and not on the rules that are in force. -/
namespace ObservedConfig

namespace Registry

open Replica (Rules)

variable {ctx ctx' : Context} {existing c : Tree} {session session' : Session}
  {d e : Decision} {i i' : ExternalOidc.Intent} {pass : Pass}

/-- The events of a pass without errors are those of its decisions. -/
theorem Settled.events (settled : Settled ctx existing session session' c d e)
    (completed : builtin.observe ctx existing session = .ok (pass, session')) :
    session'.events = session.events ++
      ((d.messages.map fun message => ⟨ExternalOidc.name, message⟩) ++
        e.messages.map fun message => ⟨RoleBinding.name, message⟩) := by
  obtain ⟨oidc, middle, role, first, second, -⟩ := observe_builtin.mp completed
  rw [settled.oidcDecided] at first
  rw [settled.roleDecided] at second
  cases first with
  | rejected rejection =>
    rw [settled.issued] at rejection
    cases rejection
  | accepted =>
    cases second with
    | rejected rejection =>
      rw [RoleBinding.plans_of_decide settled.roleDecided] at rejection
      cases rejection
    | accepted => exact List.append_assoc _ _ _

/-- A pass on what a pass without errors has left, with an intention that is the same up to its
plans, keeps the configuration. It asks for what the plans say and announces it. -/
theorem Settled.observe_again (settled : Settled ctx existing session session' c d e)
    (intended : ExternalOidc.intent ctx = .ok i) (came : i.settle existing = .ok d)
    (intended' : ExternalOidc.intent ctx' = .ok i') (alike : ExternalOidc.Alike i i')
    (authentication : ctx'.lookup.authentication = ctx.lookup.authentication)
    {rules rules' : Rules} (issued : Decision.issueAll i'.plans rules = (.ok (), rules'))
    (log : EventLog) : builtin.observe ctx' c ⟨rules, log⟩ = .ok (⟨c, !Tree.same c c, []⟩,
      ⟨rules', log ++ i'.announcements.map fun message => ⟨ExternalOidc.name, message⟩⟩) := by
  have merges := settled.merges
  obtain ⟨f, again, sortedF, agreeF⟩ :=
    ExternalOidc.settle_alike (ExternalOidc.intends intended) alike came merges.sorted
      merges.pruned settled.bare fun q covered => merges.owned _ List.mem_cons_self q covered
  obtain ⟨e', decidedE, -, noMessages, sortedE, agreeE⟩ :=
    RoleBinding.decide_again settled.roleDecided merges.sorted merges.pruned settled.bare
      fun q covered => merges.owned _ (List.mem_cons_of_mem _ List.mem_cons_self) q covered
  have oidcDecided : ExternalOidc.decide ctx' c = .ok ⟨i'.plans, i'.announcements, f⟩ := by
    rw [ExternalOidc.decide_eq, intended']
    exact again
  have roleDecided : RoleBinding.decide ctx' c = .ok e' :=
    (RoleBinding.decide_congr (congrFun authentication _) rfl).trans decidedE
  have merged : Slice.mergeOwned c
      [(ExternalOidc.owned, f), ([RoleBinding.disabledPlugins], e'.fragment)] = .ok c := by
    rw [Slice.mergeOwned_self merges.sorted, Tree.pruned_eq_self merges.pruned]
    · simp [sortedF, sortedE]
    · intro contribution member
      simp only [List.mem_cons, List.not_mem_nil, or_false] at member
      rcases member with rfl | rfl
      · exact agreeF
      · exact agreeE
  have repeated : builtin.observe ctx' c ⟨rules, log⟩ = _ :=
    observe_of_decided oidcDecided roleDecided issued merged
  rw [Tree.pruned_eq_self merges.pruned, noMessages] at repeated
  simpa using repeated

end Registry

end ObservedConfig
