import ObservedConfig.Proofs.Observer.Mode
import ObservedConfig.Proofs.Registry.Pass
import ObservedConfig.Proofs.Replica.Rules
import ObservedConfig.Proofs.Tree.Equality

/-! Passes repeat themselves. After a pass without errors, a second one on the same cluster finds in
the new configuration just what it would contribute and in the rules all that it would ask for. -/
namespace ObservedConfig

namespace ExternalOidc

theorem not_covered_argumentsKey : ¬ Path.Covered owned [argumentsKey] := by decide

variable {ctx : Context} {existing c f : Tree}

/-- A configuration that holds a contribution shows what pruning leaves of its arguments. -/
theorem get?_of_agree (sorted : Tree.Sorted c) (pruned : Tree.Pruned c)
    (sortedF : Tree.Sorted f)
    (agree : ∀ q, Path.Covered owned q → c.content? q = f.content? q) {argument : String}
    (member : argument ∈ argumentNames) : c.get? [argumentsKey, argument] =
      (f.get? [argumentsKey, argument]).bind Node.kept :=
  Tree.get?_of_content sorted pruned sortedF (by simp) fun rest =>
    agree _ ((covered_owned member).append rest)

/-- Where nothing is contributed there are no arguments to be found. -/
theorem containsAnyList_of_agree (sorted : Tree.Sorted c) (pruned : Tree.Pruned c)
    (bare : c.content? [argumentsKey] = none)
    (agree : ∀ q, Path.Covered owned q → c.content? q = Tree.content? [] q) :
    c.containsAnyList owned = .ok false := by
  apply Tree.containsAnyList_of_absent
  intro path member
  obtain ⟨argument, listed, rfl⟩ := List.mem_map.mp member
  have gone : c.get? [argumentsKey, argument] = none := by
    rw [get?_of_agree sorted pruned Tree.sorted_nil agree listed]
    simp [Tree.get?_cons]
  rw [Tree.getList_of_bare sorted pruned bare (by simp [gone]), gone]
  rfl

/-- A fragment does not differ from a configuration that holds it. -/
theorem differs_of_agree (sorted : Tree.Sorted c) (pruned : Tree.Pruned c)
    (bare : c.content? [argumentsKey] = none) (sortedF : Tree.Sorted f) (prunedF : Tree.Pruned f)
    (bareF : f.content? [argumentsKey] = none) (wellFormed : WellFormed f)
    (agree : ∀ q, Path.Covered owned q → c.content? q = f.content? q) :
    Slice.differs c f owned = .ok false := by
  apply Slice.differs_of_same
  intro path member
  obtain ⟨argument, listed, rfl⟩ := List.mem_map.mp member
  have keptF : (f.get? [argumentsKey, argument]).bind Node.kept =
      f.get? [argumentsKey, argument] := by
    rw [← Tree.get?_pruned sortedF, Tree.pruned_eq_self prunedF]
  have same : c.get? [argumentsKey, argument] = f.get? [argumentsKey, argument] :=
    (get?_of_agree sorted pruned sortedF agree listed).trans keptF
  have lists := wellFormed.lists argument listed
  refine ⟨_, _, Tree.getList_of_bare sorted pruned bare (same ▸ lists),
    Tree.getList_of_bare sortedF prunedF bareF lists, ?_⟩
  rw [same]
  cases here : f.get? [argumentsKey, argument] with
  | none => rfl
  | some node =>
    obtain ⟨values, rfl⟩ := lists node here
    rw [here, Option.bind_some, kept_eq_list] at keptF
    simp [Node.list?, Slice.present, keptF.2]

theorem silent_derivedMessages (ca file : Replica.Plan) :
    ∀ message ∈ derivedMessages ca file false,
      message ≠ changedMessage ∧ message ≠ removedMessage := by
  have announced : ∀ {message synced removed : String} {o : Replica.Outcome},
      message ∈ announcement synced removed o → message = synced ∨ message = removed := by
    intro message synced removed o member
    cases o with
    | synced => exact .inl (by simpa [announcement] using member)
    | removed => exact .inr (by simpa [announcement] using member)
    | unchanged => simp [announcement] at member
  intro message member
  simp only [derivedMessages, Bool.false_eq_true, if_false, List.append_nil,
    List.mem_append] at member
  rcases member with ca | file
  · rcases announced ca with rfl | rfl <;> decide
  · rcases announced file with rfl | rfl <;> decide

theorem silent_announcements (i : Intent) :
    ∀ message ∈ i.announcements, message ≠ changedMessage ∧ message ≠ removedMessage := by
  cases i with
  | keep | reset => simp [Intent.announcements]
  | derive ca file candidate => exact silent_derivedMessages ca file

/-- On a configuration that holds what was contributed to it, an intention that is the same up to
its plans contributes what is there and has nothing but replicas to speak of. -/
theorem settle_alike {i i' : Intent} (intends : Intends ctx i) (alike : Alike i i') {d : Decision}
    (settled : i.settle existing = .ok d) (sorted : Tree.Sorted c) (pruned : Tree.Pruned c)
    (bare : c.content? [argumentsKey] = none)
    (agree : ∀ q, Path.Covered owned q → c.content? q = d.fragment.content? q) :
    ∃ f, i'.settle c = .ok ⟨i'.plans, i'.announcements, f⟩ ∧ Tree.Sorted f ∧
      ∀ q, Path.Covered owned q → f.content? q = c.content? q := by
  cases alike with
  | keep =>
    cases settled
    exact ⟨c, rfl, sorted, fun _ _ => rfl⟩
  | reset =>
    simp only [Intent.settle, bind_eq_ok, pure_eq_ok] at settled
    obtain ⟨configured, -, rfl⟩ := settled
    have absent := containsAnyList_of_agree sorted pruned bare agree
    refine ⟨[], ?_, Tree.sorted_nil, fun q covered => (agree q covered).symm⟩
    simp [Intent.settle, Intent.plans, Intent.announcements, absent, failing, orError, bind,
      Except.bind, pure, Except.pure]
  | derive =>
    cases intends with
    | @derive auth p client structured _ _ _ gated found kind sole derives =>
      simp only [Intent.settle, bind_eq_ok, pure_eq_ok, failing_eq_ok, orError_eq_ok] at settled
      obtain ⟨outcome, compared, rfl⟩ := settled
      rw [derives.candidate_eq] at compared ⊢
      have restricts := Slice.restricts_of_diff (sorted_candidate _ _ _ _) compared
      have bareF : outcome.fragment.content? [argumentsKey] = none := by
        rw [restricts.content, if_neg not_covered_argumentsKey]
      have unchanged := differs_of_agree sorted pruned bare restricts.sorted restricts.pruned bareF
        (wellFormed_of_restricts derives.checked restricts) agree
      have again : Slice.diff c (candidate ctx.settings p client structured) owned =
          .ok ⟨outcome.fragment, false⟩ :=
        Slice.diff_eq_ok.mpr ⟨(Slice.diff_eq_ok.mp compared).1, unchanged⟩
      refine ⟨outcome.fragment, ?_, restricts.sorted, fun q covered => (agree q covered).symm⟩
      simp [Intent.settle, Intent.plans, Intent.announcements, again, failing, orError, bind,
        Except.bind, pure, Except.pure]

/-- On a configuration that holds what was contributed to it, the same intention comes to the same
plans, contributes what is there and has nothing to announce about it. -/
theorem settle_again {i : Intent} (intends : Intends ctx i) {d : Decision}
    (settled : i.settle existing = .ok d) (sorted : Tree.Sorted c) (pruned : Tree.Pruned c)
    (bare : c.content? [argumentsKey] = none)
    (agree : ∀ q, Path.Covered owned q → c.content? q = d.fragment.content? q) :
    ∃ d', i.settle c = .ok d' ∧ d'.plans = d.plans ∧
      (∀ message ∈ d'.messages, message ≠ changedMessage ∧ message ≠ removedMessage) ∧
      Tree.Sorted d'.fragment ∧
      ∀ q, Path.Covered owned q → d'.fragment.content? q = c.content? q := by
  obtain ⟨f, again, sortedF, agreeF⟩ :=
    settle_alike intends (.refl i) settled sorted pruned bare agree
  exact ⟨_, again, (settle_eq_ok settled).1.symm, silent_announcements i, sortedF, agreeF⟩

theorem plans_apart {i : Intent} (intends : Intends ctx i) {d : Decision}
    (settled : i.settle existing = .ok d)
    (different : caTarget ctx.settings ≠ structuredTarget ctx.settings) :
    d.plans.Pairwise fun a b => a.target ≠ b.target := by
  rcases plans_of_settle intends settled with none | ⟨ca, file, both, caTarget, fileTarget⟩
  · simp [none]
  · simp [both, caTarget, fileTarget, different]

end ExternalOidc

namespace RoleBinding

variable {ctx : Context} {existing c : Tree}

/-- On a configuration that holds the list that was contributed to it, the list is the same again
and nothing is announced. -/
theorem decide_again {d : Decision} (decided : decide ctx existing = .ok d)
    (sorted : Tree.Sorted c) (pruned : Tree.Pruned c) (bare : c.content? [argumentsKey] = none)
    (agree : ∀ q, Path.Covered [disabledPlugins] q → c.content? q = d.fragment.content? q) :
    ∃ d', decide ctx c = .ok d' ∧ d'.plans = [] ∧ d'.messages = [] ∧
      Tree.Sorted d'.fragment ∧
      ∀ q, Path.Covered [disabledPlugins] q → d'.fragment.content? q = c.content? q := by
  obtain ⟨auth?, current?, found, read, rfl⟩ := decide_eq_ok.mp decided
  generalize observed_eq : desired (shouldDisable auth?) (current?.getD []) = observed
  have fixed : desired (shouldDisable auth?) observed = observed := by
    rw [← observed_eq, desired_desired]
  have here : c.get? disabledPlugins = (Node.list observed).kept := by
    have covered : Path.Covered [disabledPlugins] disabledPlugins :=
      ⟨_, List.mem_cons_self, by decide, List.prefix_rfl⟩
    rw [Tree.get?_of_content sorted pruned (sorted_fragment _ _) covered.ne_nil
      fun rest => agree _ (covered.append rest), kept_fragment, observed_eq]
  obtain ⟨again?, readAgain, same⟩ := lists_of_kept sorted pruned bare here
  have fragments : (decision (shouldDisable auth?) observed).fragment =
      (decision (shouldDisable auth?) (current?.getD [])).fragment := by
    simp only [decision, fixed, observed_eq]
  refine ⟨decision (shouldDisable auth?) observed,
    decide_eq_ok.mpr ⟨auth?, _, found, readAgain, congrArg _ same.symm⟩, rfl, ?_,
    sorted_fragment _ _, ?_⟩
  · simp [decision, fixed]
  · intro q covered
    rw [fragments, agree q covered]

end RoleBinding

namespace Registry

open Replica (Rules)

variable {ctx : Context} {existing : Tree} {session session' middle : Session}
  {oidc role : Observation} {pass : Pass}

theorem Passed.clean (passed : Passed ctx existing session oidc middle role session' pass)
    (clean : pass.errors = []) : oidc.errors = [] ∧ role.errors = [] := by
  have errors := passed.errors
  rw [clean] at errors
  simpa [tagged] using errors.symm

/-- A pass without errors comes from two decisions whose plans were all accepted. -/
structure Settled (ctx : Context) (existing : Tree) (session session' : Session) (c : Tree)
    (oidc role : Decision) : Prop where
  oidcDecided : ExternalOidc.decide ctx existing = .ok oidc
  roleDecided : RoleBinding.decide ctx existing = .ok role
  issued : Decision.issueAll oidc.plans session.rules = (.ok (), session'.rules)
  merges : Slice.Merges existing
    [(ExternalOidc.owned, oidc.fragment), ([RoleBinding.disabledPlugins], role.fragment)] c

theorem settled_of_clean (sorted : Tree.Sorted existing)
    (completed : builtin.observe ctx existing session = .ok (pass, session'))
    (clean : pass.errors = []) :
    ∃ oidc role, Settled ctx existing session session' pass.config oidc role := by
  obtain ⟨oidc, middle, role, passed⟩ := passed sorted completed
  obtain ⟨oidcClean, roleClean⟩ := passed.clean clean
  obtain ⟨d, rules, decided, rfl, issued, rfl⟩ :=
    passed.oidcCarried.fragment (ExternalOidc.causing_decide _ _) oidcClean
  obtain ⟨e, rules', decided', rfl, issued', rfl⟩ :=
    passed.roleCarried.fragment (RoleBinding.causing_decide _ _) roleClean
  rw [RoleBinding.plans_of_decide decided'] at issued'
  cases issued'
  exact ⟨d, e, decided, decided', issued, passed.merges⟩

variable {c : Tree} {d e : Decision}

/-- Nothing stands in the way of the arguments after a pass without errors. -/
theorem Settled.bare (settled : Settled ctx existing session session' c d e) :
    c.content? [argumentsKey] = none := by
  obtain ⟨_, _, -, read, -⟩ := RoleBinding.decide_eq_ok.mp settled.roleDecided
  exact bare_of_merges (Tree.bare_of_getList read) settled.merges

/-- A pass brings no NaN into the configuration. -/
theorem Settled.naNFree (settled : Settled ctx existing session session' c d e)
    (numeric : existing.NaNFree) : c.NaNFree := by
  rw [Tree.naNFree_iff] at numeric ⊢
  intro q x content
  rcases settled.merges.origin q _ content with former | ⟨contribution, member, covered, content⟩
  · exact numeric q x former
  · obtain ⟨p, owned, nonempty, below⟩ := covered
    simp only [List.mem_cons, List.not_mem_nil, or_false] at member
    rcases member with rfl | rfl
    · rcases ExternalOidc.fragment_cases settled.oidcDecided with same | ⟨-, wellFormed⟩
      · rw [same] at content
        exact numeric q x content
      · obtain ⟨argument, listed, rfl⟩ := List.mem_map.mp owned
        exact absurd content
          (Tree.not_float_of_list nonempty below (wellFormed.lists argument listed) x)
    · obtain rfl := List.mem_singleton.mp owned
      obtain ⟨_, _, -, -, rfl⟩ := RoleBinding.decide_eq_ok.mp settled.roleDecided
      refine absurd content (Tree.not_float_of_list nonempty below (fun node found => ?_) x)
      rw [RoleBinding.get?_fragment] at found
      exact ⟨_, (Node.kept_eq_some found).1⟩

/-- A pass without errors can be repeated on its own result: it finds nothing to change and nothing
to ask for. -/
theorem observe_idempotent (sorted : Tree.Sorted existing) (numeric : existing.NaNFree)
    (different : ctx.settings.caBundle.configMap ≠ ctx.settings.authConfig.configMap)
    (completed : builtin.observe ctx existing session = .ok (pass, session'))
    (clean : pass.errors = []) (log : EventLog) :
    ∃ new : EventLog, builtin.observe ctx pass.config ⟨session'.rules, log⟩ =
        .ok (⟨pass.config, false, []⟩, ⟨session'.rules, log ++ new⟩) ∧
      ∀ event ∈ new, event.message ≠ ExternalOidc.changedMessage ∧
        event.message ≠ ExternalOidc.removedMessage ∧ event.reason ≠ RoleBinding.name := by
  obtain ⟨d, e, settled⟩ := settled_of_clean sorted completed clean
  have merges := settled.merges
  obtain ⟨i, intended, settledIntent⟩ := ExternalOidc.decide_eq_ok settled.oidcDecided
  have intends := ExternalOidc.intends intended
  obtain ⟨d', again, plans, silent, sortedD, agreeD⟩ :=
    ExternalOidc.settle_again intends settledIntent merges.sorted merges.pruned settled.bare
      fun q covered => merges.owned _ List.mem_cons_self q covered
  obtain ⟨e', decidedE, noPlans, noMessages, sortedE, agreeE⟩ :=
    RoleBinding.decide_again settled.roleDecided merges.sorted merges.pruned settled.bare
      fun q covered => merges.owned _ (List.mem_cons_of_mem _ List.mem_cons_self) q covered
  have decidedD : ExternalOidc.decide ctx pass.config = .ok d' := by
    rw [ExternalOidc.decide_eq, intended]
    exact again
  have targets : ExternalOidc.caTarget ctx.settings ≠ ExternalOidc.structuredTarget ctx.settings :=
    fun same => different (congrArg Location.name same)
  have inForce := Replica.inForce_of_issueAll
    (ExternalOidc.plans_apart intends settledIntent targets) settled.issued
  have issuedD : Decision.issueAll d'.plans session'.rules = (.ok (), session'.rules) := by
    rw [plans]
    exact Replica.issueAll_of_inForce inForce
  have merged : Slice.mergeOwned pass.config
      [(ExternalOidc.owned, d'.fragment), ([RoleBinding.disabledPlugins], e'.fragment)] =
        .ok pass.config := by
    rw [Slice.mergeOwned_self merges.sorted, Tree.pruned_eq_self merges.pruned]
    · simp [sortedD, sortedE]
    · intro contribution member
      simp only [List.mem_cons, List.not_mem_nil, or_false] at member
      rcases member with rfl | rfl
      · exact agreeD
      · exact agreeE
  have repeated : builtin.observe ctx pass.config ⟨session'.rules, log⟩ = _ :=
    observe_of_decided decidedD decidedE issuedD merged
  rw [Tree.pruned_eq_self merges.pruned,
    Tree.same_self merges.sorted (settled.naNFree numeric), noMessages] at repeated
  refine ⟨d'.messages.map fun message => ⟨ExternalOidc.name, message⟩, ?_, ?_⟩
  · simpa using repeated
  · intro event member
    obtain ⟨message, sent, rfl⟩ := List.mem_map.mp member
    obtain ⟨notChanged, notRemoved⟩ := silent message sent
    have names : ExternalOidc.name ≠ RoleBinding.name := by decide
    exact ⟨notChanged, notRemoved, names⟩

/-- The first pass takes a login over and clears an empty tree away; the second one is quiet. -/
theorem observe_idempotent_after_login :
    ∃ (pass : Pass) (session : Session) (new : EventLog),
      builtin.observe (sampleContext (sampleCluster "corp-ca"))
          [(argumentsKey, .tree [("oidc-ca-file", .list []), ("void", .tree [])])]
          ⟨.empty "openshift-kube-apiserver", []⟩ = .ok (pass, session) ∧
        builtin.observe (sampleContext (sampleCluster "corp-ca")) pass.config
          ⟨session.rules, []⟩ = .ok (⟨pass.config, false, []⟩, ⟨session.rules, new⟩) ∧
        (⟨ExternalOidc.name, ExternalOidc.changedMessage⟩ : Event) ∉ new := by
  have clean : ((builtin.observe (sampleContext (sampleCluster "corp-ca"))
      [(argumentsKey, .tree [("oidc-ca-file", .list []), ("void", .tree [])])]
      (⟨.empty "openshift-kube-apiserver", []⟩ : Session)).toOption.map fun result =>
        result.1.errors.isEmpty) = some true := by
    decide +kernel
  obtain ⟨⟨pass, session⟩, completed, noErrors⟩ := Option.map_eq_some_iff.mp clean
  rw [toOption_eq_some] at completed
  have errors : pass.errors = [] := by simpa using noErrors
  have sorted : Tree.Sorted
      [(argumentsKey, .tree [("oidc-ca-file", .list []), ("void", .tree [])])] := by
    decide
  have numeric : Tree.NaNFree
      [(argumentsKey, .tree [("oidc-ca-file", .list []), ("void", .tree [])])] := by
    refine (Tree.naNFree_iff_node _).mpr (Node.naNFree_tree fun entry member => ?_)
    obtain rfl := List.mem_singleton.mp member
    refine Node.naNFree_tree fun entry member => ?_
    simp only [List.mem_cons, List.not_mem_nil, or_false] at member
    rcases member with rfl | rfl
    · exact Node.naNFree_list _
    · exact Node.naNFree_tree (by simp)
  obtain ⟨new, again, silent⟩ :=
    observe_idempotent sorted numeric (by decide) completed errors []
  refine ⟨pass, session, new, completed, by simpa using again, fun member => ?_⟩
  exact (silent _ member).1 rfl

end Registry

end ObservedConfig
