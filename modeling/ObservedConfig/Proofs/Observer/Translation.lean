import ObservedConfig.Proofs.Observer.Arguments
import ObservedConfig.Proofs.Observer.FieldErrors

/-! The arguments that a login comes to. What the observer of external providers contributes holds
each argument with the values that the provider and the settings give for it, and nothing else. -/
namespace ObservedConfig

/-- A candidate that holds nothing apart from the owned paths is the fragment of its comparison. -/
theorem Slice.fragment_of_inside {existing candidate : Tree} {owned : List Path}
    {outcome : Slice.Outcome} (sorted : Tree.Sorted candidate) (pruned : Tree.Pruned candidate)
    (inside : ∀ q value, candidate.content? q = some value → Path.Covered owned q)
    (compared : Slice.diff existing candidate owned = .ok outcome) :
    outcome.fragment = candidate := by
  have restricts := Slice.restricts_of_diff sorted compared
  refine Tree.eq_of_content restricts.sorted sorted restricts.pruned pruned fun q => ?_
  rw [restricts.content]
  by_cases covered : Path.Covered owned q
  · rw [if_pos covered]
  · rw [if_neg covered]
    cases content : candidate.content? q with
    | none => rfl
    | some value => exact absurd (inside q value content) covered

namespace ExternalOidc

open Authentication (Provider Client RequiredClaim Rule UsernameMapping)

/-- The tree holds these arguments with these values, and nothing else. -/
structure Holds (t : Tree) (stated : String → Option (List String)) : Prop where
  values : ∀ argument, t.get? [argumentsKey, argument] = (stated argument).map Node.list
  nothingElse : ∀ path node, t.get? path = some node →
    path = [argumentsKey] ∨ ∃ argument, path = [argumentsKey, argument]

namespace Arguments

theorem pruned_toTree (arguments : Arguments) : Tree.Pruned (toTree arguments) :=
  Tree.pruned_pruned _

/-- All content of the arguments lies at paths that the observer owns. -/
theorem covered_of_content {arguments : Arguments} (distinct : (arguments.map (·.1)).Nodup)
    (known : ∀ argument ∈ arguments.map (·.1), argument ∈ argumentNames) {q : Path} {value : Node}
    (content : Tree.content? (toTree arguments) q = some value) : Path.Covered owned q := by
  rw [toTree, Tree.content?_pruned (sorted_entries arguments)] at content
  cases q with
  | nil => simp at content
  | cons key rest =>
    rw [Tree.content?_cons] at content
    obtain ⟨top, atKey, content⟩ := Option.bind_eq_some_iff.mp content
    obtain ⟨rfl, rfl⟩ : key = argumentsKey ∧ _ = top := by
      simpa [Entries.find?_cons] using atKey
    cases rest with
    | nil => simp at content
    | cons argument rest =>
      rw [Node.content?_tree_cons, find?_entries arguments distinct] at content
      obtain ⟨_, listed, -⟩ := Option.bind_eq_some_iff.mp content
      obtain ⟨values, found, -⟩ := Option.map_eq_some_iff.mp listed
      have member := known argument (List.mem_map_of_mem (Entries.mem_of_find? found))
      exact (covered_owned member).append rest

/-- The values that are left of an argument when those without values are left out. -/
theorem holds_toTree {arguments : Arguments} (distinct : (arguments.map (·.1)).Nodup) :
    Holds (toTree arguments) fun argument =>
      (Entries.find? argument arguments).filter fun values => !values.isEmpty where
  values argument := by
    rw [get?_toTree arguments distinct]
    cases Entries.find? argument arguments with
    | none => rfl
    | some values => cases values <;> rfl
  nothingElse path node found := by
    rw [toTree, Tree.get?_pruned (sorted_entries arguments)] at found
    obtain ⟨former, found, -⟩ := Option.bind_eq_some_iff.mp found
    cases path with
    | nil => simp at found
    | cons key rest =>
      rw [Tree.get?_cons] at found
      obtain ⟨top, atKey, found⟩ := Option.bind_eq_some_iff.mp found
      obtain ⟨rfl, rfl⟩ : key = argumentsKey ∧ _ = top := by
        simpa [Entries.find?_cons] using atKey
      cases rest with
      | nil => exact .inl rfl
      | cons argument rest =>
        rw [Node.at?_tree_cons, find?_entries arguments distinct] at found
        obtain ⟨_, listed, found⟩ := Option.bind_eq_some_iff.mp found
        obtain ⟨values, -, rfl⟩ := Option.map_eq_some_iff.mp listed
        cases rest with
        | nil => exact .inr ⟨argument, rfl⟩
        | cons =>
          rw [Node.at?_leaf_cons rfl] at found
          cases found

end Arguments

def filled (value : String) : Option (List String) := if value = "" then none else some [value]

/-- The value that stands for how user names are led, if anything is said about it. -/
def prefixValue (m : UsernameMapping) : Option String :=
  match m.policy with
  | .noOpinion => none
  | .noPrefix => some "-"
  | .prefixed => m.lead

/-- What an argument is to hold for a provider whose rules require some claims. -/
def translation (s : Settings) (p : Provider) (client : Client) (claims : List RequiredClaim) :
    String → Option (List String)
  | "oidc-issuer-url" => some [p.issuer.url]
  | "oidc-client-id" => some [client.clientId]
  | "oidc-username-claim" => filled p.mappings.username.claim
  | "oidc-username-prefix" => (prefixValue p.mappings.username).map fun value => [value]
  | "oidc-groups-claim" => filled p.mappings.groups.claim
  | "oidc-groups-prefix" => filled p.mappings.groups.lead
  | "oidc-required-claim" =>
    if claims = [] then none else some (claims.map fun c => c.claim ++ "=" ++ c.value)
  | "oidc-ca-file" => if p.issuer.certificateAuthority = "" then none else some [s.caBundle.path]
  | _ => none

theorem find?_unlessEmpty (name argument value : String) :
    Entries.find? name (unlessEmpty argument value) =
      if name = argument then filled value else none := by
  by_cases empty : value = "" <;> simp [unlessEmpty, filled, empty, Entries.find?_cons]

theorem prefixArgument_eq (m : UsernameMapping) :
    prefixArgument m = (prefixValue m).toList.map fun value => (usernamePrefix, [value]) := by
  unfold prefixArgument prefixValue
  split <;> simp_all [noPrefixValue]

theorem find?_prefixArgument (name : String) (m : UsernameMapping) :
    Entries.find? name (prefixArgument m) =
      if name = usernamePrefix then (prefixValue m).map fun value => [value] else none := by
  rw [prefixArgument_eq]
  cases prefixValue m <;> simp [Entries.find?_cons]

theorem claimArguments_eq (rules : List Rule) :
    (rules.filterMap fun rule => rule.requiredClaim.map (·.argument)) =
      (rules.map (·.requiredClaim)).filterMap (Option.map (·.argument)) := by
  rw [List.filterMap_map]
  rfl

/-- A single value is a value. -/
theorem filter_single (value : Option String) :
    ((value.map fun value => [value]).filter fun values => !values.isEmpty) =
      value.map fun value => [value] := by
  cases value <;> rfl

theorem filter_unless (absent : Prop) [Decidable absent] (value : String) :
    ((if absent then none else some [value]).filter fun values => !values.isEmpty) =
      if absent then none else some [value] := by
  split <;> rfl

theorem translation_of_unlisted {s : Settings} {p : Provider} {client : Client}
    {claims : List RequiredClaim} {argument : String} (unlisted : argument ∉ singleNames) :
    translation s p client claims argument = none := by
  unfold translation
  split
  case h_9 => rfl
  all_goals exact absurd (by decide) unlisted

/-- The list of arguments holds what the translation says. -/
theorem find?_arguments {s : Settings} {p : Provider} {client : Client}
    {claims : List RequiredClaim} (named : client.clientId ≠ "")
    (required : p.rules.map (·.requiredClaim) = claims.map some) (argument : String) :
    ((Entries.find? argument (arguments s p client)).filter fun values => !values.isEmpty) =
      translation s p client claims argument := by
  by_cases listed : argument ∈ singleNames
  · have claimed : (p.rules.filterMap fun rule => rule.requiredClaim.map (·.argument)) =
        claims.map fun c => c.claim ++ "=" ++ c.value := by
      rw [claimArguments_eq, required, List.filterMap_map]
      exact congrFun List.filterMap_eq_map claims
    have file : Entries.find? argument (if p.issuer.certificateAuthority.isEmpty then []
        else [(caFile, [s.caBundle.path])]) = if argument = caFile then
          if p.issuer.certificateAuthority = "" then none else some [s.caBundle.path]
          else none := by
      by_cases unnamed : p.issuer.certificateAuthority = "" <;>
        simp [unnamed, Entries.find?_cons]
    simp only [arguments, claimed, Entries.find?_append, find?_unlessEmpty, find?_prefixArgument,
      file, Entries.find?_cons, Entries.find?_nil]
    simp only [singleNames, List.mem_cons, List.not_mem_nil, or_false] at listed
    rcases listed with rfl | rfl | rfl | rfl | rfl | rfl | rfl | rfl
    -- Each argument picks its own part of the list, and all parts but the claims are single values.
    all_goals simp [issuerUrl, clientId, usernameClaim, usernamePrefix, groupsClaim, groupsPrefix,
      requiredClaim, caFile, translation, filled, named, filter_unless, filter_single]
    cases claims <;> simp
  · rw [translation_of_unlisted listed, Entries.find?_eq_none_of_not_mem]
    · rfl
    · exact fun member => listed ((arguments_names s p client).subset member)

variable {s : Settings} {p : Provider} {client : Client} {structured : Bool}

/-- The observer owns every argument that it derives. -/
theorem covered_of_candidate {q : Path} {value : Node}
    (content : (candidate s p client structured).content? q = some value) :
    Path.Covered owned q := by
  cases structured with
  | true =>
    rw [candidate, if_pos rfl] at content
    refine Arguments.covered_of_content (by simp) (fun argument member => ?_) content
    obtain rfl : argument = structuredFile := by simpa using member
    decide
  | false =>
    rw [candidate, if_neg Bool.false_ne_true] at content
    have owned : ∀ argument ∈ singleNames, argument ∈ argumentNames := by decide
    exact Arguments.covered_of_content (arguments_distinct s p client)
      (fun argument member => owned argument ((arguments_names s p client).subset member)) content

theorem pruned_candidate (s : Settings) (p : Provider) (client : Client) (structured : Bool) :
    Tree.Pruned (candidate s p client structured) := by
  unfold candidate
  split <;> exact Arguments.pruned_toTree _

/-- Rules that all require a claim come to a list of claims. -/
theorem Flawless.exists_claims (flawless : Flawless p client) :
    ∃ claims : List RequiredClaim, p.rules.map (·.requiredClaim) = claims.map some := by
  have required : ∀ rule ∈ p.rules, rule.requiredClaim ≠ none :=
    fun rule member => (flawless.rules rule member).2
  generalize p.rules = rules at required
  induction rules with
  | nil => exact ⟨[], rfl⟩
  | cons rule rest ih =>
    obtain ⟨here, later⟩ := List.forall_mem_cons.mp required
    obtain ⟨claim, same⟩ := Option.ne_none_iff_exists'.mp here
    obtain ⟨claims, tail⟩ := ih later
    exact ⟨claim :: claims, by rw [List.map_cons, same, tail, List.map_cons]⟩

theorem Flawless.holds (flawless : Flawless p client) {claims : List RequiredClaim}
    (required : p.rules.map (·.requiredClaim) = claims.map some) :
    Holds (Arguments.toTree (arguments s p client)) (translation s p client claims) := by
  have holds := Arguments.holds_toTree (arguments_distinct s p client)
  rwa [funext (find?_arguments flawless.clientId required)] at holds

theorem holds_file (path : String) : Holds (Arguments.toTree [(structuredFile, [path])])
    fun argument => if argument = "authentication-config" then some [path] else none := by
  have holds := @Arguments.holds_toTree [(structuredFile, [path])] (by simp)
  have stated : (fun argument => (Entries.find? argument [(structuredFile, [path])]).filter
      fun values => !values.isEmpty) =
        fun argument => if argument = "authentication-config" then some [path] else none := by
    funext argument
    rw [Entries.find?_cons, Entries.find?_nil]
    by_cases file : argument = structuredFile
    · simp [file, structuredFile]
    · rw [if_neg file]
      exact (if_neg file).symm
  rwa [stated] at holds

/-- After a run without errors for a login the contribution of the observer is the structured file
alone where a structured configuration takes the place of the arguments, and elsewhere just what the
fields of the provider are translated to. -/
theorem translation_exact {σ : Type} [Replica.Syncer σ] {ctx : Context} {gates : FeatureGates}
    {auth : Authentication} {existing : Tree} {session session' : Session σ}
    {observation : Observation} (login : Login ctx gates auth)
    (completed : observer.observe ctx existing session = .ok (observation, session'))
    (clean : observation.errors = []) :
    ∃ p client, auth.spec.providers = [p] ∧ Selects ctx.settings p client ∧
      (Structured ctx gates → Holds observation.config fun argument =>
        if argument = "authentication-config" then some [ctx.settings.authConfig.path]
        else none) ∧
      (¬ Structured ctx gates → ∃ claims, p.rules.map (·.requiredClaim) = claims.map some ∧
        (p.mappings.username.policy = .prefixed → p.mappings.username.lead ≠ none) ∧
        Holds observation.config (translation ctx.settings p client claims)) := by
  obtain ⟨d, rules, decided, contributed, -, -⟩ :=
    (deciding_observe.mp completed).fragment (causing_decide ctx existing) clean
  obtain ⟨p, client, structured, basis⟩ := login.basis decided
  obtain ⟨outcome, compared, fragment⟩ := basis.diffed
  have config : observation.config = candidate ctx.settings p client structured := by
    rw [contributed, fragment]
    exact Slice.fragment_of_inside (sorted_candidate _ _ _ _) (pruned_candidate _ _ _ _)
      (fun _ _ => covered_of_candidate) compared
  refine ⟨p, client, basis.sole, basis.selects, fun replaced => ?_, fun single => ?_⟩
  · obtain rfl : structured = true := basis.isStructured.mpr replaced
    rw [config, candidate, if_pos rfl]
    exact holds_file ctx.settings.authConfig.path
  · obtain rfl : structured = false := by
      cases structured with
      | false => rfl
      | true => exact absurd (basis.isStructured.mp rfl) single
    have flawless := flawless_of_clean basis.clean
    obtain ⟨claims, required⟩ := flawless.exists_claims
    rw [config, candidate, if_neg Bool.false_ne_true]
    exact ⟨claims, required, flawless.lead, flawless.holds required⟩

def corpClient : Client := ⟨"kube-apiserver", "openshift-kube-apiserver", "console", []⟩

def corpProvider (username : UsernameMapping) : Provider where
  name := "corp"
  issuer := ⟨"https://login.example", [], ""⟩
  clients := [corpClient, { corpClient with clientId := "other" }]
  mappings := ⟨username, ⟨"", "corp:"⟩⟩
  rules := [⟨.requiredClaim, some ⟨"aud", "kas"⟩, none⟩, ⟨.requiredClaim, some ⟨"env", "a=b"⟩, none⟩]

def ssoProvider : Provider := corpProvider ⟨"email", .prefixed, some "sso:"⟩

/-- The observer contributes all that the provider comes to. -/
theorem translation_exact_of_login :
    ∃ (observation : Observation) (last : Session),
      (observer : Observer).observe (soleContext ⟨.oidc, [ssoProvider]⟩) []
        ⟨.empty "openshift-kube-apiserver", []⟩ = .ok (observation, last) ∧
      Holds observation.config (translation .standard ssoProvider corpClient
        [⟨"aud", "kas"⟩, ⟨"env", "a=b"⟩]) := by
  have quiet : ((observer.observe (soleContext ⟨.oidc, [ssoProvider]⟩) []
      (⟨.empty "openshift-kube-apiserver", []⟩ : Session)).toOption.map fun result =>
        result.1.errors.isEmpty) = some true := by
    decide +kernel
  obtain ⟨⟨observation, last⟩, completed, clean⟩ := Option.map_eq_some_iff.mp quiet
  rw [toOption_eq_some] at completed
  obtain ⟨p, client, sole, selects, -, single⟩ := translation_exact
    (@login_soleContext ⟨.oidc, [ssoProvider]⟩ rfl) completed (List.isEmpty_iff.mp clean)
  obtain rfl : ssoProvider = p := by simpa using sole
  obtain rfl : corpClient = client := Option.some.inj (clientFor_eq_some.mpr selects)
  have notStructured : ¬ Structured (soleContext ⟨.oidc, [ssoProvider]⟩) ⟨["ExternalOIDC"], []⟩ :=
    fun structured => Bool.false_ne_true ((isStructured_eq_ok rfl).mpr structured)
  obtain ⟨claims, required, -, holds⟩ := single notStructured
  obtain rfl : [⟨"aud", "kas"⟩, ⟨"env", "a=b"⟩] = claims :=
    (List.map_inj_right fun _ _ => Option.some.inj).mp required
  exact ⟨observation, last, completed, holds⟩

end ExternalOidc

end ObservedConfig
