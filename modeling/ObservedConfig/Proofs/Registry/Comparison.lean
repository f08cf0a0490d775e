import ObservedConfig.Proofs.Registry.Pass

/-! Two passes side by side. An observer may come to the same on two committed configurations even
though it contributes what is committed to each of them. Where both observers do so, two passes
differ in nothing but what is committed apart from the owned paths. -/
namespace ObservedConfig.Registry

variable {σ : Type} [Replica.Syncer σ]

theorem observe_of_crash {ctx : Context} {cause : Crash}
    (crashes : ExternalOidc.intent ctx = .error (.crash cause)) (existing : Tree)
    (session : Session σ) : builtin.observe ctx existing session = .error cause := by
  have decided := (@ExternalOidc.decide_eq_crash ctx existing cause).mpr crashes
  simp [observe, builtin, runAll, ExternalOidc.observer, Observer.deciding, decided, bind,
    Except.bind]

/-- A pass completes unless the observer of external providers crashes. -/
theorem exists_passed {ctx : Context} {existing : Tree} (sorted : Tree.Sorted existing)
    (stays : ∀ cause, ExternalOidc.intent ctx ≠ .error (.crash cause)) (session : Session σ) :
    ∃ pass last oidc middle role, builtin.observe ctx existing session = .ok (pass, last) ∧
      Passed ctx existing session oidc middle role last pass := by
  obtain ⟨oidc, middle, first⟩ := exists_carried ExternalOidc.name existing session
    fun cause => (not_congr ExternalOidc.decide_eq_crash).mpr (stays cause)
  obtain ⟨role, last, second⟩ := exists_carried RoleBinding.name existing middle
    (RoleBinding.decide_ne_crash ctx existing)
  have completed := observe_builtin.mpr ⟨oidc, middle, role, first, second, rfl⟩
  obtain ⟨oidc, middle, role, passed⟩ := passed sorted completed
  exact ⟨_, last, oidc, middle, role, completed, passed⟩

/-- Two passes with the same intention crash alike or both complete. -/
theorem exists_passed_pair {ctx ctx' : Context} {existing existing' : Tree}
    (sorted : Tree.Sorted existing) (sorted' : Tree.Sorted existing')
    (same : ExternalOidc.intent ctx' = ExternalOidc.intent ctx) (session session' : Session σ) :
    (∃ cause, builtin.observe ctx existing session = .error cause ∧
      builtin.observe ctx' existing' session' = .error cause) ∨
    ∃ pass last oidc middle role pass' last' oidc' middle' role',
      builtin.observe ctx existing session = .ok (pass, last) ∧
      Passed ctx existing session oidc middle role last pass ∧
      builtin.observe ctx' existing' session' = .ok (pass', last') ∧
      Passed ctx' existing' session' oidc' middle' role' last' pass' := by
  by_cases crashes : ∃ cause, ExternalOidc.intent ctx = .error (.crash cause)
  · obtain ⟨cause, crashes⟩ := crashes
    exact .inl ⟨cause, observe_of_crash crashes _ _, observe_of_crash (same.trans crashes) _ _⟩
  · have stays := not_exists.mp crashes
    obtain ⟨pass, last, oidc, middle, role, completed, first⟩ := exists_passed sorted stays session
    obtain ⟨pass', last', oidc', middle', role', completed', second⟩ :=
      exists_passed sorted' (fun cause => same ▸ stays cause) session'
    exact .inr ⟨pass, last, oidc, middle, role, pass', last', oidc', middle', role', completed,
      first, completed', second⟩

/-- Results on two committed configurations that come to the same. -/
inductive Matched (existing existing' : Tree) :
    Except Failure Decision → Except Failure Decision → Prop where
  /-- Each keeps what is committed. -/
  | keep : Matched existing existing' (.ok (.keep existing)) (.ok (.keep existing'))
  | same (result : Except Failure Decision) : Matched existing existing' result result

theorem Matched.reset {existing existing' : Tree} (ca file : Replica.Plan)
    (same : existing'.containsAnyList ExternalOidc.owned =
      existing.containsAnyList ExternalOidc.owned) :
    Matched existing existing' ((ExternalOidc.Intent.reset ca file).settle existing)
      ((ExternalOidc.Intent.reset ca file).settle existing') := by
  simp only [ExternalOidc.Intent.settle, same]
  exact .same _

theorem Matched.derive {existing existing' candidate : Tree} (ca file : Replica.Plan)
    (same : Slice.diff existing' candidate ExternalOidc.owned =
      Slice.diff existing candidate ExternalOidc.owned) :
    Matched existing existing' ((ExternalOidc.Intent.derive ca file candidate).settle existing)
      ((ExternalOidc.Intent.derive ca file candidate).settle existing') := by
  simp only [ExternalOidc.Intent.settle, same]
  exact .same _

/-- Runs on two committed configurations that come to the same. -/
structure Corresponds (existing existing' : Tree) (session last session' last' : Session σ)
    (o o' : Observation) : Prop where
  errors : o'.errors = o.errors
  recorded : ∃ new : EventLog,
    last.events = session.events ++ new ∧ last'.events = session'.events ++ new
  rules : session'.rules = session.rules → last'.rules = last.rules
  part : contributed existing' o' = contributed existing o ∨
    (contributed existing o = existing ∧ contributed existing' o' = existing')

section Runs
variable {name : String} {existing existing' : Tree} {session last session' last' : Session σ}
  {result result' : Except Failure Decision} {o o' : Observation}

theorem contributed_committed (existing : Tree) (causes : List ObserveError) :
    contributed existing ⟨existing, causes⟩ = existing := by
  simp [contributed]

/-- Matching results lead to runs that come to the same, if requests are answered alike. -/
theorem Matched.corresponds (matched : Matched existing existing' result result')
    (answers : ∀ decision, result = .ok decision →
      (Decision.issueAll decision.plans session'.rules).1 =
        (Decision.issueAll decision.plans session.rules).1)
    (first : Carried name existing session result o last)
    (second : Carried name existing' session' result' o' last') :
    Corresponds existing existing' session last session' last' o o' := by
  have kept : ∀ causes, contributed existing ⟨existing, causes⟩ = existing ∧
      contributed existing' ⟨existing', causes⟩ = existing' := fun causes =>
    ⟨contributed_committed existing causes, contributed_committed existing' causes⟩
  cases matched with
  | keep =>
    cases first with
    | rejected rejection => cases rejection
    | accepted issued =>
      cases second with
      | rejected rejection => cases rejection
      | accepted issued' =>
        cases issued
        cases issued'
        exact ⟨rfl, ⟨_, rfl, rfl⟩, id, .inr (kept [])⟩
  | same =>
    cases first with
    | failed =>
      cases second
      exact ⟨rfl, ⟨[], by simp, by simp⟩, id, .inr (kept _)⟩
    | rejected rejection =>
      have answer := answers _ rfl
      cases second with
      | accepted issued =>
        rw [rejection, issued] at answer
        cases answer
      | rejected rejection' =>
        rw [rejection, rejection'] at answer
        cases answer
        refine ⟨rfl, ⟨[], by simp, by simp⟩, fun same => ?_, .inr (kept _)⟩
        rw [same, rejection] at rejection'
        exact (congrArg Prod.snd rejection').symm
    | accepted issued =>
      have answer := answers _ rfl
      cases second with
      | rejected rejection =>
        rw [rejection, issued] at answer
        cases answer
      | accepted issued' =>
        refine ⟨rfl, ⟨_, rfl, rfl⟩, fun same => ?_, .inl rfl⟩
        rw [same, issued] at issued'
        exact (congrArg Prod.snd issued').symm

omit [Replica.Syncer σ] in
/-- Runs that come to the same contribute the same wherever the same is committed. -/
theorem Corresponds.content?
    (corresponds : Corresponds existing existing' session last session' last' o o') {q : Path}
    (committed : existing'.content? q = existing.content? q) :
    (contributed existing' o').content? q = (contributed existing o).content? q := by
  rcases corresponds.part with same | ⟨kept, kept'⟩
  · rw [same]
  · rw [kept, kept', committed]

end Runs

section Passes
variable {ctx ctx' : Context} {existing existing' : Tree}
  {session middle last session' middle' last' : Session σ} {oidc role oidc' role' : Observation}
  {pass pass' : Pass}
  (first : Passed ctx existing session oidc middle role last pass)
  (second : Passed ctx' existing' session' oidc' middle' role' last' pass')

include first second

theorem Passed.oidcCorresponds (rules : session'.rules = session.rules)
    (matched : Matched existing existing' (ExternalOidc.decide ctx existing)
      (ExternalOidc.decide ctx' existing')) :
    Corresponds existing existing' session middle session' middle' oidc oidc' :=
  matched.corresponds (fun decision _ => by rw [rules]) first.oidcCarried second.oidcCarried

theorem Passed.roleCorresponds
    (same : RoleBinding.decide ctx' existing' = RoleBinding.decide ctx existing) :
    Corresponds existing existing' middle last middle' last' role role' := by
  have carried := second.roleCarried
  rw [same] at carried
  refine (Matched.same _).corresponds (fun decision decided => ?_) first.roleCarried carried
  rw [RoleBinding.plans_of_decide decided]
  rfl

/-- Where both observers come to the same, two passes have the same errors and record the same events,
and equal rules stay equal. -/
theorem Passed.effects_congr
    (oidcSame : Corresponds existing existing' session middle session' middle' oidc oidc')
    (roleSame : Corresponds existing existing' middle last middle' last' role role') :
    pass'.errors = pass.errors ∧ (session'.rules = session.rules → last'.rules = last.rules) ∧
      ∃ new : EventLog, last.events = session.events ++ new ∧
        last'.events = session'.events ++ new := by
  obtain ⟨own, ownEvents, ownEvents'⟩ := oidcSame.recorded
  obtain ⟨more, moreEvents, moreEvents'⟩ := roleSame.recorded
  refine ⟨?_, fun rules => roleSame.rules (oidcSame.rules rules), own ++ more, ?_, ?_⟩
  · rw [first.errors, second.errors, tagged, tagged, oidcSame.errors, roleSame.errors]
  · rw [moreEvents, ownEvents, List.append_assoc]
  · rw [moreEvents', ownEvents', List.append_assoc]

/-- Two passes have the same content at a path if both observers contribute the same to it, on the
way to it and past it, and the same is committed there. -/
theorem Passed.content?_congr {q : Path}
    (oidcPart : ∀ p, Path.Covered ExternalOidc.owned p → Path.Comparable p q →
      (contributed existing' oidc').content? p = (contributed existing oidc).content? p)
    (rolePart : ∀ p, Path.Covered [RoleBinding.disabledPlugins] p → Path.Comparable p q →
      (contributed existing' role').content? p = (contributed existing role).content? p)
    (committed : existing'.content? q = existing.content? q) :
    pass'.config.content? q = pass.config.content? q := by
  apply second.merges.content?_congr first.merges _ _ committed
  · simp [Slice.Owned, contributions]
  · intro p value comparable
    simp only [Slice.Brings, contributions, List.mem_cons, List.not_mem_nil, or_false,
      exists_eq_or_imp, exists_eq_left]
    refine or_congr (and_congr_right fun covered => ?_) (and_congr_right fun covered => ?_)
    · rw [oidcPart p covered comparable]
    · rw [rolePart p covered comparable]

end Passes

end ObservedConfig.Registry
