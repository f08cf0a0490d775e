import ObservedConfig.Proofs.Observer.Inputs
import ObservedConfig.Proofs.Registry.Comparison

/-! What a pass depends on. Both observers read the arguments of the committed configuration, and of
the cluster only what `SameAnswers` lists. Everything else can change without a trace in the errors,
events, rules and arguments of a pass. -/
namespace ObservedConfig.Registry

open ExternalOidc (SameAnswers)

variable {existing existing' : Tree}

/-- An intention is settled in the same way where the same arguments are committed. -/
theorem matched_of_arguments (i : ExternalOidc.Intent)
    (arguments : existing'.get? [argumentsKey] = existing.get? [argumentsKey]) :
    Matched existing existing' (i.settle existing) (i.settle existing') := by
  have read : ∀ path ∈ ExternalOidc.owned, existing'.getList path = existing.getList path := by
    intro path member
    obtain ⟨argument, -, rfl⟩ := List.mem_map.mp member
    exact Tree.getList_of_name arguments [argument]
  cases i with
  | keep => exact .keep
  | reset ca file => exact .reset ca file (Tree.containsAnyList_congr read)
  | derive ca file candidate => exact .derive ca file (Slice.diff_congr read)

/-- Everything that an observer owns is an argument. -/
theorem argument_of_covered {q : Path} (covered : Path.Covered ExternalOidc.owned q ∨
    Path.Covered [RoleBinding.disabledPlugins] q) : ∃ rest, q = [argumentsKey] ++ rest := by
  have below : ∀ {argument : String}, [argumentsKey, argument] <+: q →
      ∃ rest, q = [argumentsKey] ++ rest := by
    rintro argument ⟨rest, rfl⟩
    exact ⟨argument :: rest, rfl⟩
  rcases covered with ⟨p, member, -, before⟩ | ⟨p, member, -, before⟩
  · obtain ⟨argument, -, rfl⟩ := List.mem_map.mp member
    exact below before
  · obtain rfl := List.mem_singleton.mp member
    exact below before

variable {σ : Type} [Replica.Syncer σ]

/-- Other top-level names are apart from all owned paths. -/
theorem free_of_name (existing : Tree) (oidc role : Observation) {name : String}
    (other : name ≠ argumentsKey) : Slice.Free (contributions existing oidc role) [name] := by
  have apart : ∀ rest, ¬ Path.Comparable (argumentsKey :: rest) [name] := by
    rintro rest (below | above)
    · exact other (List.cons_prefix_cons.mp below).1.symm
    · exact other (List.cons_prefix_cons.mp above).1
  intro c member p owned comparable
  simp only [contributions, List.mem_cons, List.not_mem_nil, or_false] at member
  rcases member with rfl | rfl
  · obtain ⟨argument, -, rfl⟩ := List.mem_map.mp owned
    exact apart _ comparable
  · obtain rfl := List.mem_singleton.mp owned
    exact apart _ comparable

variable {lookup lookup' : Lookup} {gates : GateAccess} {s : Settings}

/-- The observer of external providers comes to the same on the same inputs. -/
theorem matched_of_inputs (answers : SameAnswers s lookup lookup')
    (arguments : existing'.get? [argumentsKey] = existing.get? [argumentsKey]) :
    Matched existing existing' (ExternalOidc.decide ⟨lookup, gates, s⟩ existing)
      (ExternalOidc.decide ⟨lookup', gates, s⟩ existing') := by
  rw [ExternalOidc.decide_eq, ExternalOidc.decide_eq, answers.intent]
  cases ExternalOidc.intent ⟨lookup, gates, s⟩ with
  | error => exact .same _
  | ok i => exact matched_of_arguments i arguments

/-- Two passes on clusters with the same answers and on configurations with the same arguments, by
syncers in the same state, crash alike or end with the same errors, new events, rules and arguments.
Every other top-level name shows what was committed there, pruned. -/
theorem observe_depends_on_inputs (sorted : Tree.Sorted existing) (sorted' : Tree.Sorted existing')
    (answers : SameAnswers s lookup lookup')
    (arguments : existing'.get? [argumentsKey] = existing.get? [argumentsKey])
    (rules : σ) (log log' : EventLog) :
    (∃ cause, builtin.observe ⟨lookup, gates, s⟩ existing ⟨rules, log⟩ = .error cause ∧
      builtin.observe ⟨lookup', gates, s⟩ existing' ⟨rules, log'⟩ = .error cause) ∨
    ∃ (pass pass' : Pass) (rules' : σ) (new : EventLog),
      builtin.observe ⟨lookup, gates, s⟩ existing ⟨rules, log⟩ =
        .ok (pass, ⟨rules', log ++ new⟩) ∧
      builtin.observe ⟨lookup', gates, s⟩ existing' ⟨rules, log'⟩ =
        .ok (pass', ⟨rules', log' ++ new⟩) ∧
      pass'.errors = pass.errors ∧
      pass'.config.get? [argumentsKey] = pass.config.get? [argumentsKey] ∧
      ∀ name, name ≠ argumentsKey →
        pass.config.get? [name] = Tree.get? (Tree.pruned existing) [name] ∧
        pass'.config.get? [name] = Tree.get? (Tree.pruned existing') [name] := by
  rcases exists_passed_pair sorted sorted' answers.intent (⟨rules, log⟩ : Session σ) ⟨rules, log'⟩
    with crashes | ⟨pass, last, oidc, middle, role, pass', last', oidc', middle', role', completed,
      first, completed', second⟩
  · exact .inl crashes
  right
  have oidcSame := first.oidcCorresponds second rfl (matched_of_inputs answers arguments)
  have roleSame := first.roleCorresponds second
    (RoleBinding.decide_congr answers.authentication (Tree.getList_of_name arguments _))
  obtain ⟨errors, sameRules, new, events, events'⟩ :=
    first.effects_congr second oidcSame roleSame
  have committed : ∀ rest, existing'.content? ([argumentsKey] ++ rest) =
      existing.content? ([argumentsKey] ++ rest) := by
    intro rest
    rw [Tree.content?_append _ (by simp), Tree.content?_append _ (by simp), arguments]
  have contents : ∀ rest, pass'.config.content? ([argumentsKey] ++ rest) =
      pass.config.content? ([argumentsKey] ++ rest) := by
    intro rest
    apply first.content?_congr second _ _ (committed rest)
    · rintro p covered -
      obtain ⟨below, rfl⟩ := argument_of_covered (.inl covered)
      exact oidcSame.content? (committed below)
    · rintro p covered -
      obtain ⟨below, rfl⟩ := argument_of_covered (.inr covered)
      exact roleSame.content? (committed below)
  have whole : last = ⟨last.rules, log ++ new⟩ := by rw [← events]
  have whole' : last' = ⟨last.rules, log' ++ new⟩ := by rw [← events', ← sameRules rfl]
  refine ⟨pass, pass', last.rules, new, whole ▸ completed, whole' ▸ completed', errors, ?_, ?_⟩
  · exact Tree.get?_congr second.merges.sorted second.merges.pruned first.merges.sorted
      first.merges.pruned contents
  · intro name other
    rw [first.merges.get?_free sorted (free_of_name _ _ _ other), Tree.get?_pruned sorted,
      second.merges.get?_free sorted' (free_of_name _ _ _ other), Tree.get?_pruned sorted']
    exact ⟨rfl, rfl⟩

/-- The cluster of a login in which no other namespace can be looked up. -/
def partialLookup : Lookup where
  authentication := (sampleCluster "corp-ca").lookup.authentication
  configMap place :=
    if place.namespaceName = "elsewhere" then .error (.lookup "timeout")
    else (sampleCluster "corp-ca").lookup.configMap place

def argumentBeside (name : String) (node : Node) : Tree :=
  [(argumentsKey, .tree [("audit-policy-file", .list ["kept"])]), (name, node)]

/-- Two passes take a login over. Their clusters differ in a namespace that no observer asks for, and
what is committed differs apart from the arguments. -/
theorem observe_depends_on_inputs_of_login :
    ∃ (pass pass' : Pass) (rules : Replica.Rules) (new : EventLog),
      builtin.observe (sampleContext (sampleCluster "corp-ca"))
          (argumentBeside "storage" (.list ["etcd"])) ⟨.empty "openshift-kube-apiserver", []⟩ =
        .ok (pass, ⟨rules, new⟩) ∧
      builtin.observe ⟨partialLookup, .fixed ⟨["ExternalOIDC"], []⟩, .standard⟩
          (argumentBeside "void" (.tree [])) ⟨.empty "openshift-kube-apiserver", []⟩ =
        .ok (pass', ⟨rules, new⟩) ∧
      new ≠ [] ∧ pass'.errors = pass.errors ∧
      pass'.config.get? [argumentsKey] = pass.config.get? [argumentsKey] ∧
      pass.config.get? ["storage"] = some (.list ["etcd"]) ∧
      pass'.config.get? ["void"] = none := by
  have answers : SameAnswers .standard (sampleCluster "corp-ca").lookup partialLookup := by
    refine ⟨rfl, rfl, rfl, rfl, ?_⟩
    intro auth found p member
    rfl
  have said : ((builtin.observe (sampleContext (sampleCluster "corp-ca"))
      (argumentBeside "storage" (.list ["etcd"]))
      (⟨.empty "openshift-kube-apiserver", []⟩ : Session)).toOption.map fun result =>
        result.2.events.isEmpty) = some false := by
    decide +kernel
  obtain ⟨⟨pass, session⟩, completed, said⟩ := Option.map_eq_some_iff.mp said
  rw [toOption_eq_some] at completed
  have compared := @observe_depends_on_inputs (argumentBeside "storage" (.list ["etcd"]))
    (argumentBeside "void" (.tree [])) _ _ _ _ (.fixed ⟨["ExternalOIDC"], []⟩) _ (by decide)
    (by decide) answers rfl (Replica.Rules.empty "openshift-kube-apiserver") [] []
  rcases compared with
    ⟨cause, crashed, -⟩ | ⟨first, pass', rules, new, observed, observed', errors, same, others⟩
  · cases completed.symm.trans crashed
  · cases completed.symm.trans observed
    obtain ⟨storage, -⟩ := others "storage" (by decide)
    obtain ⟨-, void⟩ := others "void" (by decide)
    exact ⟨pass, pass', rules, new, observed, observed', by simpa using said, errors, same, storage,
      void⟩

end ObservedConfig.Registry
