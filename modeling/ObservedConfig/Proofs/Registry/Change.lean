import ObservedConfig.Proofs.Registry.Pass
import ObservedConfig.Proofs.Slice.Agreement

/-! Announcing a change. The observer of external providers says that the configuration has changed
on the word of a comparison, before anything is merged. A pass then commits another slice of its
paths exactly when it has said so. Only a reset has words of its own. -/
namespace ObservedConfig

section Observer
variable {σ : Type} [Replica.Syncer σ] {ctx : Context} {existing : Tree}
  {session session' : Session σ} {oidc : Observation}

theorem ExternalOidc.changedMessage_mem_iff (ca file : Replica.Plan) (changed : Bool) :
    changedMessage ∈ derivedMessages ca file changed ↔ changed = true := by
  unfold derivedMessages
  cases ca.outcome <;> cases file.outcome <;> cases changed <;> decide

/-- Unless it resets, the observer announces a change just when it contributes another slice than
the committed one. -/
theorem ExternalOidc.announced_of_carried (sorted : Tree.Sorted existing)
    (stays : ∀ ca file, intent ctx ≠ .ok (.reset ca file))
    (carried : Carried name existing session (decide ctx existing) oidc session') :
    ∃ messages : List String,
      session'.events = session.events ++ messages.map (fun message => ⟨name, message⟩) ∧
      (changedMessage ∈ messages ↔ ∃ q, Path.Covered owned q ∧
        ((Registry.contributed existing oidc).get? q).bind Node.kept ≠
          Tree.get? (Tree.pruned existing) q) := by
  -- Whoever fails or keeps what is committed says nothing.
  have silent (causes : List ObserveError) : ¬ ∃ q, Path.Covered owned q ∧
      ((Registry.contributed existing ⟨existing, causes⟩).get? q).bind Node.kept ≠
        Tree.get? (Tree.pruned existing) q := by
    rintro ⟨q, -, differ⟩
    have kept : Registry.contributed existing ⟨existing, causes⟩ = existing := ite_self existing
    rw [kept, Tree.get?_pruned sorted] at differ
    exact differ rfl
  generalize made : decide ctx existing = result at carried
  cases carried with
  | failed => exact ⟨[], by simp, iff_of_false List.not_mem_nil (silent _)⟩
  | rejected => exact ⟨[], by simp, iff_of_false List.not_mem_nil (silent _)⟩
  | accepted =>
    refine ⟨_, rfl, ?_⟩
    obtain ⟨i, intended, settled⟩ := decide_eq_ok made
    cases intends intended with
    | keep =>
      cases settled
      exact iff_of_false List.not_mem_nil (silent [])
    | reset => exact absurd intended (stays _ _)
    | derive gated found kind sole derives =>
      simp only [Intent.settle, bind_eq_ok, pure_eq_ok, failing_eq_ok, orError_eq_ok] at settled
      obtain ⟨outcome, compared, rfl⟩ := settled
      rw [derives.candidate_eq] at compared
      have restricts := Slice.restricts_of_diff (sorted_candidate _ _ _ _) compared
      have whole (q : Path) :
          (outcome.fragment.get? q).bind Node.kept = outcome.fragment.get? q := by
        rw [← Tree.get?_pruned restricts.sorted, Tree.pruned_eq_self restricts.pruned]
      have part : Registry.contributed existing ⟨outcome.fragment, []⟩ = outcome.fragment := rfl
      rw [changedMessage_mem_iff, Slice.changed_iff_slice_differs sorted (by decide) compared]
      simp only [part, whole]

end Observer

namespace Registry

variable {σ : Type} [Replica.Syncer σ] {existing : Tree}

/-- A pass whose first observer does not reset commits another slice of its paths exactly when it
records that the configuration has changed. -/
theorem announced_of_pass (sorted : Tree.Sorted existing) {ctx : Context}
    {session session' : Session σ} {pass : Pass}
    (completed : builtin.observe ctx existing session = .ok (pass, session'))
    (stays : ∀ ca file, ExternalOidc.intent ctx ≠ .ok (.reset ca file)) :
    ∃ new : EventLog, session'.events = session.events ++ new ∧
      (⟨ExternalOidc.name, ExternalOidc.changedMessage⟩ ∈ new ↔
        ∃ q, Path.Covered ExternalOidc.owned q ∧
          pass.config.get? q ≠ Tree.get? (Tree.pruned existing) q) := by
  obtain ⟨oidc, middle, role, passed⟩ := passed sorted completed
  obtain ⟨messages, events, announced⟩ :=
    ExternalOidc.announced_of_carried sorted stays passed.oidcCarried
  obtain ⟨others, eventsOthers, foreignName⟩ := passed.roleCarried.recorded
  have different : ExternalOidc.name ≠ RoleBinding.name := by decide
  have committed {q : Path} (covered : Path.Covered ExternalOidc.owned q) :
      pass.config.get? q = ((contributed existing oidc).get? q).bind Node.kept :=
    passed.merges.get?_owned
      (sorted_contributions sorted passed.oidcCarried passed.roleCarried)
      List.mem_cons_self covered
  refine ⟨messages.map (fun message => ⟨ExternalOidc.name, message⟩) ++ others, ?_, ?_⟩
  · rw [eventsOthers, events, List.append_assoc]
  · have own : (⟨ExternalOidc.name, ExternalOidc.changedMessage⟩ : Event) ∉ others :=
      fun member => different (foreignName _ member)
    rw [List.mem_append, or_iff_left own]
    calc (⟨ExternalOidc.name, ExternalOidc.changedMessage⟩ : Event) ∈
          messages.map (fun message => ⟨ExternalOidc.name, message⟩)
        ↔ ExternalOidc.changedMessage ∈ messages := by simp
      _ ↔ _ := announced
      _ ↔ _ := by
        refine exists_congr fun q => and_congr_right fun covered => ?_
        rw [committed covered]

/-- Comparing agrees with merging. Over any owned paths the flag of a comparison says whether the
merge of its fragment changes the tree, and in a pass the change that is announced is the change of
the slice that is committed. -/
theorem changed_iff_merge_differs (sorted : Tree.Sorted existing) :
    (∀ candidate owned outcome, Tree.Sorted candidate → [] ∉ owned →
      Slice.diff existing candidate owned = .ok outcome →
        Slice.Reflects existing candidate owned outcome) ∧
      ∀ (ctx : Context) (session session' : Session σ) (pass : Pass),
        builtin.observe ctx existing session = .ok (pass, session') →
          (∀ ca file, ExternalOidc.intent ctx ≠ .ok (.reset ca file)) →
            ∃ new : EventLog, session'.events = session.events ++ new ∧
              (⟨ExternalOidc.name, ExternalOidc.changedMessage⟩ ∈ new ↔
                ∃ q, Path.Covered ExternalOidc.owned q ∧
                  pass.config.get? q ≠ Tree.get? (Tree.pruned existing) q) :=
  ⟨fun _ _ _ sortedCandidate nonempty compared =>
      Slice.reflects_of_diff sorted sortedCandidate nonempty compared,
    fun _ _ _ _ completed stays => announced_of_pass sorted completed stays⟩

def formerLogin : Tree :=
  [(argumentsKey, .tree [("oidc-issuer-url", .list ["https://old.example"])]),
    ("servingInfo", .tree [])]

def issuerPaths : List Path :=
  [[argumentsKey, "oidc-issuer-url"], [argumentsKey, "oidc-issuer-url", "host"]]

def nextIssuer : Tree :=
  [(argumentsKey, .tree [("oidc-issuer-url", .list ["https://login.example"]),
    ("stray", .list ["x"])])]

/-- An owned path below another one is not looked at once a change is found, and a login at another
issuer is announced. -/
theorem changed_iff_merge_differs_of_login :
    (∃ outcome m, Slice.diff formerLogin nextIssuer issuerPaths = .ok outcome ∧
      Slice.mergeOwned formerLogin [(issuerPaths, outcome.fragment)] = .ok m ∧
      outcome.changed = true ∧ m ≠ Tree.pruned formerLogin ∧
      Tree.same m (Tree.pruned formerLogin) = false) ∧
    ∃ (pass : Pass) (session : Session), builtin.observe (sampleContext (sampleCluster ""))
        formerLogin ⟨.empty "openshift-kube-apiserver", []⟩ = .ok (pass, session) ∧
      ⟨ExternalOidc.name, ExternalOidc.changedMessage⟩ ∈ session.events ∧
      ∃ q, Path.Covered ExternalOidc.owned q ∧
        pass.config.get? q ≠ Tree.get? (Tree.pruned formerLogin) q := by
  have seen : ((builtin.observe (sampleContext (sampleCluster "")) formerLogin
      (⟨.empty "openshift-kube-apiserver", []⟩ : Session)).toOption.map fun result =>
        decide (⟨ExternalOidc.name, ExternalOidc.changedMessage⟩ ∈ result.2.events)) =
          some true := by
    decide +kernel
  obtain ⟨⟨pass, session⟩, completed, seen⟩ := Option.map_eq_some_iff.mp seen
  rw [toOption_eq_some] at completed
  have said : ⟨ExternalOidc.name, ExternalOidc.changedMessage⟩ ∈ session.events := by
    simpa using seen
  have derives : (match ExternalOidc.intent (sampleContext (sampleCluster "")) with
      | .ok (.reset _ _) => true
      | _ => false) = false := by
    decide +kernel
  obtain ⟨compared, passes⟩ := @changed_iff_merge_differs Replica.Rules _ formerLogin (by decide)
  constructor
  · obtain ⟨⟨m, merged, differs, same⟩, -, -⟩ := compared nextIssuer issuerPaths
      ⟨[(argumentsKey, .tree [("oidc-issuer-url", .list ["https://login.example"])])], true⟩
      (by decide) (by decide) rfl
    refine ⟨_, m, rfl, merged, rfl, differs.mp rfl, ?_⟩
    rw [← Bool.not_eq_true]
    exact fun equal => Bool.noConfusion (same.mp equal).1
  · obtain ⟨new, events, announced⟩ := passes _ _ _ pass completed fun ca file reset => by
      rw [reset] at derives
      cases derives
    obtain rfl : session.events = new := by simpa using events
    exact ⟨pass, session, completed, said, announced.mp said⟩

end Registry

end ObservedConfig
