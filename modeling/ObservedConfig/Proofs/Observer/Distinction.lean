import ObservedConfig.Proofs.Observer.Translation

/-! Which settings of a provider its arguments tell apart. Every argument can be read back: absent
arguments stand for empty fields, and a required claim ends at the first equals sign since admission
allows none within it. Only the prefix of user names shares a value among its settings, the one that
switches prefixes off. -/
namespace ObservedConfig

namespace Authentication.RequiredClaim

/-- The claim that an argument stands for, which ends at the first equals sign. -/
def ofArgument (argument : String) : RequiredClaim :=
  let claim := argument.toList.takeWhile (· ≠ '=')
  ⟨String.ofList claim, String.ofList (argument.toList.drop (claim.length + 1))⟩

theorem ofArgument_argument {c : RequiredClaim} (admitted : claimProblem? c.claim = none) :
    ofArgument c.argument = c := by
  have noneWithin : ∀ char ∈ c.claim.toList, decide (char ≠ '=') = true :=
    fun char member => decide_eq_true (claimProblem?_eq_none.mp admitted char member).1
  have chars : c.argument.toList = c.claim.toList ++ '=' :: c.value.toList := by
    simp [argument]
  have claim : c.argument.toList.takeWhile (· ≠ '=') = c.claim.toList := by
    rw [chars, List.takeWhile_append_of_pos noneWithin]
    simp
  have value : c.argument.toList.drop (c.claim.toList.length + 1) = c.value.toList := by
    rw [chars]
    simp
  simp only [ofArgument, claim, value, String.ofList_toList]

example : ofArgument "env=a=b" = ⟨"env", "a=b"⟩ := by decide +kernel

/-- Admitted claims are what their arguments say. -/
theorem eq_of_arguments {claims others : List RequiredClaim}
    (admitted : ∀ c ∈ claims, claimProblem? c.claim = none)
    (othersAdmitted : ∀ c ∈ others, claimProblem? c.claim = none)
    (same : claims.map argument = others.map argument) : claims = others := by
  have readBack : ∀ {claims : List RequiredClaim}, (∀ c ∈ claims, claimProblem? c.claim = none) →
      (claims.map argument).map ofArgument = claims := by
    intro claims admitted
    rw [List.map_map]
    exact (List.map_congr_left fun c member => ofArgument_argument (admitted c member)).trans
      (List.map_id claims)
  rw [← readBack admitted, same, readBack othersAdmitted]

end Authentication.RequiredClaim

namespace ExternalOidc

open Authentication (Provider Client RequiredClaim Spec UsernameMapping)

/-- A tree holds arguments in one way only. -/
theorem Holds.unique {t : Tree} {stated other : String → Option (List String)}
    (first : Holds t stated) (second : Holds t other) : stated = other := by
  funext argument
  have same := (first.values argument).symm.trans (second.values argument)
  exact (Option.map_inj_right fun _ _ => Node.list.inj).mp same

theorem filled_inj {a b : String} : filled a = filled b ↔ a = b := by
  unfold filled
  split <;> split <;> simp_all [eq_comm]

theorem singleton_inj {a b : Option String} :
    (a.map fun value => [value]) = (b.map fun value => [value]) ↔ a = b := by
  cases a <;> cases b <;> simp

theorem unlessNil_inj {α : Type} {f : α → String} {claims others : List α} :
    (if claims = [] then none else some (claims.map f)) =
      (if others = [] then none else some (others.map f)) ↔ claims.map f = others.map f := by
  cases claims <;> cases others <;> simp

theorem unlessAbsent_inj {absent otherAbsent : Prop} [Decidable absent] [Decidable otherAbsent]
    {value : List String} :
    (if absent then none else some value) = (if otherAbsent then none else some value) ↔
      (absent ↔ otherAbsent) := by
  by_cases absent <;> by_cases otherAbsent <;> simp_all

/-- The provider stands in a valid spec, and its fields are in order for the component. -/
structure Accepted (s : Settings) (p : Provider) (client : Client) : Prop where
  valid : ∃ spec : Spec, p ∈ spec.providers ∧ spec.validate = .ok []
  selects : Selects s p client
  clean : fieldErrors p client false = []

def SamePrefix (m n : UsernameMapping) : Prop :=
  m.policy = n.policy ∧ (m.policy = .prefixed → m.lead = n.lead)

def SwitchesOff (m : UsernameMapping) : Prop :=
  m.policy = .noPrefix ∨ (m.policy = .prefixed ∧ m.lead = some "-")

theorem prefixValue_eq_iff {m n : UsernameMapping} (leads : m.policy = .prefixed → m.lead ≠ none)
    (otherLeads : n.policy = .prefixed → n.lead ≠ none) :
    prefixValue m = prefixValue n ↔ SamePrefix m n ∨ (SwitchesOff m ∧ SwitchesOff n) := by
  obtain ⟨_, policy, lead⟩ := m
  obtain ⟨_, otherPolicy, otherLead⟩ := n
  cases policy <;> cases otherPolicy <;> grind [prefixValue, SamePrefix, SwitchesOff]

/-- Everything but the prefix of user names is set alike. -/
structure SameSettings (p : Provider) (client : Client) (q : Provider) (other : Client) : Prop where
  url : p.issuer.url = q.issuer.url
  clientId : client.clientId = other.clientId
  usernameClaim : p.mappings.username.claim = q.mappings.username.claim
  groupsClaim : p.mappings.groups.claim = q.mappings.groups.claim
  groupsPrefix : p.mappings.groups.lead = q.mappings.groups.lead
  claims : p.rules.map (·.requiredClaim) = q.rules.map (·.requiredClaim)
  authority : p.issuer.certificateAuthority = "" ↔ q.issuer.certificateAuthority = ""

variable {s : Settings} {p q : Provider} {client other : Client}

theorem arguments_of_same (same : SameSettings p client q other)
    (prefixed : prefixValue p.mappings.username = prefixValue q.mappings.username) :
    arguments s p client = arguments s q other := by
  have claimed : (p.rules.filterMap fun rule => rule.requiredClaim.map (·.argument)) =
      q.rules.filterMap fun rule => rule.requiredClaim.map (·.argument) := by
    rw [claimArguments_eq, claimArguments_eq, same.claims]
  have file : (if p.issuer.certificateAuthority.isEmpty then []
      else [(caFile, [s.caBundle.path])]) = if q.issuer.certificateAuthority.isEmpty then []
        else [(caFile, [s.caBundle.path])] := by
    simp only [String.isEmpty_iff, same.authority]
  simp only [arguments, same.url, same.clientId, same.usernameClaim, same.groupsClaim,
    same.groupsPrefix, prefixArgument_eq, prefixed, claimed, file]

theorem Accepted.claims_admitted (accepted : Accepted s p client) {claims : List RequiredClaim}
    (required : p.rules.map (·.requiredClaim) = claims.map some) :
    ∀ c ∈ claims, Authentication.claimProblem? c.claim = none := by
  intro c member
  have listed : some c ∈ p.rules.map (·.requiredClaim) :=
    required ▸ List.mem_map_of_mem member
  obtain ⟨rule, member, requires⟩ := List.mem_map.mp listed
  obtain ⟨spec, among, validated⟩ := accepted.valid
  have admitted := Spec.violations_of_validated validated p among
  exact Provider.claimProblem?_of_admitted admitted member requires

/-- Two accepted providers come to the same arguments exactly when they are set alike, where a prefix
that is the value for no prefixes counts as none. -/
theorem candidate_eq_iff (first : Accepted s p client) (second : Accepted s q other) :
    candidate s p client false = candidate s q other false ↔
      SameSettings p client q other ∧
        (SamePrefix p.mappings.username q.mappings.username ∨
          (SwitchesOff p.mappings.username ∧ SwitchesOff q.mappings.username)) := by
  have flawless := flawless_of_clean first.clean
  have otherFlawless := flawless_of_clean second.clean
  rw [← prefixValue_eq_iff flawless.lead otherFlawless.lead]
  simp only [candidate, Bool.false_eq_true, if_false]
  constructor
  · intro sameTree
    obtain ⟨claims, required⟩ := flawless.exists_claims
    obtain ⟨others, otherRequired⟩ := otherFlawless.exists_claims
    have holds := flawless.holds (s := s) required
    rw [sameTree] at holds
    have same := congrFun (holds.unique (otherFlawless.holds otherRequired))
    have url : some [p.issuer.url] = some [q.issuer.url] := same "oidc-issuer-url"
    have clientId : some [client.clientId] = some [other.clientId] := same "oidc-client-id"
    have usernameClaim := filled_inj.mp (same "oidc-username-claim")
    have groupsClaim := filled_inj.mp (same "oidc-groups-claim")
    have groupsPrefix := filled_inj.mp (same "oidc-groups-prefix")
    have claimed : claims = others := RequiredClaim.eq_of_arguments
      (first.claims_admitted required) (second.claims_admitted otherRequired)
      (unlessNil_inj.mp (same "oidc-required-claim"))
    have authority := unlessAbsent_inj.mp (same "oidc-ca-file")
    have prefixed := singleton_inj.mp (same "oidc-username-prefix")
    simp only [Option.some.injEq, List.cons.injEq, and_true] at url clientId
    refine ⟨⟨url, clientId, usernameClaim, groupsClaim, groupsPrefix, ?_, authority⟩, prefixed⟩
    rw [required, otherRequired, claimed]
  · rintro ⟨same, prefixed⟩
    rw [arguments_of_same same prefixed]

def unledProvider : Provider := corpProvider ⟨"email", .noPrefix, none⟩

def dashProvider : Provider := corpProvider ⟨"email", .prefixed, some "-"⟩

theorem accepted_alone {p : Provider} (validated : (Spec.validate ⟨.oidc, [p]⟩).toOption = some [])
    (selected : p.clientFor Settings.standard.componentName Settings.standard.targetNamespace =
      some corpClient) (clean : fieldErrors p corpClient false = []) :
    Accepted .standard p corpClient :=
  ⟨⟨_, List.mem_cons_self, toOption_eq_some.mp validated⟩, clientFor_eq_some.mp selected, clean⟩

theorem accepted_unled : Accepted .standard unledProvider corpClient :=
  accepted_alone (by decide +kernel) rfl (by decide +kernel)

/-- A prefix that is used shows in the arguments. -/
theorem candidate_ne_of_prefix :
    Accepted .standard ssoProvider corpClient ∧ Accepted .standard unledProvider corpClient ∧
      candidate .standard ssoProvider corpClient false ≠
        candidate .standard unledProvider corpClient false := by
  have accepted : Accepted .standard ssoProvider corpClient :=
    accepted_alone (by decide +kernel) rfl (by decide +kernel)
  refine ⟨accepted, accepted_unled, fun alike => ?_⟩
  obtain ⟨-, same | ⟨switchedOff, -⟩⟩ := (candidate_eq_iff accepted accepted_unled).mp alike
  · exact absurd same.1 (by decide)
  · rcases switchedOff with policy | ⟨-, lead⟩
    · exact absurd policy (by decide)
    · exact absurd lead (by decide)

/-- To lead user names by a dash is not to leave them bare, but the arguments do not tell. -/
theorem dash_taken_for_no_prefix :
    Accepted .standard unledProvider corpClient ∧ Accepted .standard dashProvider corpClient ∧
      candidate .standard unledProvider corpClient false =
        candidate .standard dashProvider corpClient false ∧
      ¬ SamePrefix unledProvider.mappings.username dashProvider.mappings.username := by
  refine ⟨accepted_unled, accepted_alone (by decide +kernel) rfl (by decide +kernel), rfl, ?_⟩
  rintro ⟨policy, -⟩
  exact absurd policy (by decide)

end ExternalOidc

end ObservedConfig
