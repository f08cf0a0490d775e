import ObservedConfig.Proofs.Replica.Application
import ObservedConfig.Proofs.Replica.Content

/-! What rules lead to. Once a run of rules has ended well, every target holds what belongs there: a
replica of its source, or nothing if it has none. This determines what the server holds, so the
order of the rules does not matter and a second run changes nothing. A run that a failing request
ended has settled the rules before, and a later run that ends well makes up for the rest. -/
namespace ObservedConfig.Replica

/-- A replica has the texts and the bytes of its source, and of the metadata only its location. -/
structure IsReplica (target : Location) (source replica : ConfigMap) : Prop where
  metadata : replica.metadata =
    { ObjectMeta.blank with name := some target.name, namespaceName := some target.namespaceName }
  data : replica.data = source.data
  binaryData : replica.binaryData = source.binaryData
  immutable : replica.immutable = none

theorem isReplica_copied (target : Location) (source : ConfigMap) :
    IsReplica target source (copied target source) := ⟨rfl, rfl, rfl, rfl⟩

theorem IsReplica.eq_copied {target : Location} {source replica : ConfigMap}
    (isReplica : IsReplica target source replica) : replica = copied target source := by
  obtain ⟨metadata, data, binaryData, immutable⟩ := replica
  obtain ⟨rfl, rfl, rfl, rfl⟩ := isReplica
  rfl

/-- Config maps that rules have been applied to. -/
structure Settled (rules : List (Location × Location))
    (former configMaps : List (Location × ConfigMap)) : Prop where
  /-- Nothing stands at a target whose source is empty or missing. -/
  removed : ∀ rule ∈ rules, rule.2.isEmpty = true ∨ Entries.find? rule.2 former = none →
    Entries.find? rule.1 configMaps = none
  copied : ∀ rule ∈ rules, rule.2.isEmpty = false → ∀ object,
    Entries.find? rule.2 former = some object → ∃ replica,
      Entries.find? rule.1 configMaps = some replica ∧ IsReplica rule.1 object replica
  untouched : ∀ place, (∀ rule ∈ rules, place ≠ rule.1) →
    Entries.find? place configMaps = Entries.find? place former

/-- Nobody who looks at one place can tell these config maps apart. -/
def Alike (configMaps configMaps' : List (Location × ConfigMap)) : Prop :=
  ∀ place, Entries.find? place configMaps = Entries.find? place configMaps'

section Settled
variable {rules before : List (Location × Location)}
  {former middle configMaps configMaps' : List (Location × ConfigMap)}

theorem settled_iff : Settled rules former configMaps ↔
    (∀ rule ∈ rules, Entries.find? rule.1 configMaps = replica? former rule.1 rule.2) ∧
      ∀ place, (∀ rule ∈ rules, place ≠ rule.1) →
        Entries.find? place configMaps = Entries.find? place former := by
  constructor
  · intro settled
    refine ⟨fun rule member => ?_, settled.untouched⟩
    unfold replica?
    cases gone : rule.2.isEmpty with
    | true => exact settled.removed rule member (.inl gone)
    | false =>
      cases found : Entries.find? rule.2 former with
      | none => exact settled.removed rule member (.inr found)
      | some object =>
        obtain ⟨replica, here, isReplica⟩ := settled.copied rule member gone object found
        exact here.trans (congrArg some isReplica.eq_copied)
  · rintro ⟨targets, untouched⟩
    refine ⟨fun rule member without => ?_, fun rule member named object found => ?_, untouched⟩
    · rw [targets rule member, replica?]
      rcases without with gone | missing
      · rw [if_pos gone]
      · rw [missing, Option.map_none, ite_self]
    · refine ⟨_, ?_, isReplica_copied rule.1 object⟩
      rw [targets rule member, replica?, named, found]
      rfl

/-- What belongs at a target has been put there by its own rule. -/
theorem settled_foldl (independent : Independent rules) (former : List (Location × ConfigMap)) :
    Settled rules former (rules.foldl settle former) := by
  refine settled_iff.mpr ⟨?_, fun place other => find?_foldl_settle other former⟩
  induction rules generalizing former with
  | nil => simp
  | cons first rest ih =>
    obtain ⟨different, -⟩ := List.pairwise_cons.mp independent.targets
    refine List.forall_mem_cons.mpr ⟨?_, fun rule member => ?_⟩
    · rw [List.foldl_cons, find?_foldl_settle different, find?_settle, if_pos rfl]
    · rw [List.foldl_cons, ih (independent.sublist (List.sublist_cons_self _ _)) _ rule member]
      refine replica?_congr fun named => ?_
      rw [find?_settle, if_neg (independent.sources rule (List.mem_cons_of_mem _ member) named first
        List.mem_cons_self)]

/-- What was settled by the same rules is alike. -/
theorem Settled.alike (settled : Settled rules former configMaps)
    (settled' : Settled rules former configMaps') : Alike configMaps configMaps' := by
  obtain ⟨targets, untouched⟩ := settled_iff.mp settled
  obtain ⟨targets', untouched'⟩ := settled_iff.mp settled'
  intro place
  by_cases target : ∃ rule ∈ rules, place = rule.1
  · obtain ⟨rule, member, rfl⟩ := target
    rw [targets rule member, targets' rule member]
  · have other : ∀ rule ∈ rules, place ≠ rule.1 := fun rule member same =>
      target ⟨rule, member, same⟩
    rw [untouched place other, untouched' place other]

theorem Settled.of_mem_iff {listed : List (Location × Location)}
    (settled : Settled listed former configMaps) (same : ∀ rule, rule ∈ listed ↔ rule ∈ rules) :
    Settled rules former configMaps where
  removed rule member := settled.removed rule ((same rule).mpr member)
  copied rule member := settled.copied rule ((same rule).mpr member)
  untouched place other := settled.untouched place fun rule member =>
    other rule ((same rule).mp member)

/-- Rules that have been settled in part and then as a whole are settled as if at once, for their
sources are where they were. -/
theorem Settled.trans (independent : Independent rules) (part : ∀ rule ∈ before, rule ∈ rules)
    (first : Settled before former middle) (second : Settled rules middle configMaps) :
    Settled rules former configMaps := by
  obtain ⟨targets, untouched⟩ := settled_iff.mp second
  refine settled_iff.mpr ⟨fun rule member => ?_, fun place other => ?_⟩
  · rw [targets rule member]
    exact replica?_congr fun named => first.untouched rule.2 fun b earlier =>
      independent.sources rule member named b (part b earlier)
  · rw [untouched place other, first.untouched place fun b earlier => other b (part b earlier)]

end Settled

/-- A server that refuses the same whatever it was sent before. -/
def Server.Forgetful (server : Server) : Prop :=
  ∀ sent r, server.refusal sent r = server.refusal [] r

theorem Server.Forgetful.failing?_eq_none {server : Server} (forgetful : server.Forgetful)
    (sent requests : List Request) :
    server.failing? sent requests = none ↔ ∀ r ∈ requests, server.failure? [] r = none := by
  induction requests generalizing sent with
  | nil => simp [failing?]
  | cons r rest ih =>
    have same : server.failure? sent r = server.failure? [] r := by
      rw [failure?, failure?, forgetful sent r]
    rw [failing?, Option.or_eq_none_iff, same, ih, List.forall_mem_cons]

theorem Server.Forgetful.failing?_perm {server : Server} (forgetful : server.Forgetful)
    {sent requests requests' : List Request} (permuted : requests'.Perm requests)
    (quiet : server.failing? sent requests = none) :
    server.failing? sent requests' = none := by
  rw [forgetful.failing?_eq_none] at quiet ⊢
  exact fun r member => quiet r (permuted.subset member)

section Apply
variable {rules : Rules} {server : Server} {listed before after : List (Location × Location)}
  {rule : Location × Location} {status : ApiStatus}

theorem apply_of_quiet (independent : Independent rules.sources)
    (truthful : ∀ rule ∈ rules.sources, server.TruthfulFor rule)
    (quiet : server.failing? [] (rules.sources.flatMap (asked server.configMaps)) = none) :
    rules.apply server = (.ok (), ⟨⟨rules.sources.foldl settle server.configMaps, server.refusal⟩,
      rules.sources.flatMap (asked server.configMaps)⟩) := by
  have applied := Run.applyRules_of_quiet ⟨server, []⟩ independent truthful quiet
  simp only [Rules.apply, applied]
  rfl

theorem apply_of_stopped (split : rules.sources = before ++ rule :: after)
    (independent : Independent rules.sources)
    (truthful : ∀ rule ∈ rules.sources, server.TruthfulFor rule)
    (quiet : server.failing? [] (before.flatMap (asked server.configMaps)) = none)
    (stopped : server.failing? (before.flatMap (asked server.configMaps))
      (asked server.configMaps rule) = some status) :
    ∃ sent, sent <+: asked server.configMaps rule ∧
      server.Stops [] (before.flatMap (asked server.configMaps) ++ sent) status ∧
      rules.apply server = (.error (.api status),
        ⟨⟨before.foldl settle server.configMaps, server.refusal⟩,
          before.flatMap (asked server.configMaps) ++ sent⟩) := by
  rw [split] at independent truthful
  obtain ⟨sent, beginning, stops, applied⟩ :=
    Run.applyRules_of_stopped ⟨server, []⟩ independent truthful quiet stopped
  refine ⟨sent, beginning, stops, ?_⟩
  simp only [Rules.apply, split, applied]
  rfl

theorem settled_of_apply {run : Run} (independent : Independent rules.sources)
    (truthful : ∀ rule ∈ rules.sources, server.TruthfulFor rule)
    (applied : rules.apply server = (.ok (), run)) :
    Settled rules.sources server.configMaps run.server.configMaps := by
  cases failed : server.failing? [] (rules.sources.flatMap (asked server.configMaps)) with
  | none =>
    cases (apply_of_quiet independent truthful failed).symm.trans applied
    exact settled_foldl independent server.configMaps
  | some status =>
    obtain ⟨before, rule, after, split, quiet, stopped⟩ := Server.exists_of_failing? failed
    obtain ⟨sent, -, -, ended⟩ := apply_of_stopped split independent truthful quiet stopped
    cases ended.symm.trans applied

/-- The order in which rules are processed does not matter. -/
theorem applyRules_perm (permuted : listed.Perm rules.sources)
    (independent : Independent rules.sources)
    (truthful : ∀ rule ∈ rules.sources, server.TruthfulFor rule)
    (quiet : server.failing? [] (listed.flatMap (asked server.configMaps)) = none) :
    ∃ run, Run.applyRules ⟨server, []⟩ listed = (.ok (), run) ∧
      Settled rules.sources server.configMaps run.server.configMaps := by
  have independentListed := independent.perm permuted
  have applied := Run.applyRules_of_quiet ⟨server, []⟩ independentListed
    (fun rule member => truthful rule (permuted.subset member)) quiet
  refine ⟨_, applied, Settled.of_mem_iff ?_ fun _ => permuted.mem_iff⟩
  exact settled_foldl independentListed server.configMaps

/-- A run on which no request fails completes what was settled before it. -/
theorem apply_completes {former middle : List (Location × ConfigMap)}
    (independent : Independent rules.sources) (part : ∀ rule ∈ before, rule ∈ rules.sources)
    (settled : Settled before former middle) (same : server.configMaps = middle)
    (truthful : ∀ rule ∈ rules.sources, server.TruthfulFor rule)
    (quiet : server.failing? [] (rules.sources.flatMap (asked server.configMaps)) = none) :
    ∃ run, rules.apply server = (.ok (), run) ∧
      Settled rules.sources former run.server.configMaps := by
  subst same
  refine ⟨_, apply_of_quiet independent truthful quiet, settled.trans independent part ?_⟩
  exact settled_foldl independent server.configMaps

/-- Once rules are settled, applying them again asks for the same, gets no other answers and finds
nothing to change. -/
theorem apply_again (independent : Independent rules.sources)
    (truthful : ∀ rule ∈ rules.sources, server.TruthfulFor rule)
    (quiet : server.failing? [] (rules.sources.flatMap (asked server.configMaps)) = none)
    {configMaps : List (Location × ConfigMap)}
    (settled : Settled rules.sources server.configMaps configMaps) :
    ∃ run, rules.apply ⟨configMaps, server.refusal⟩ = (.ok (), run) ∧
      Settled rules.sources server.configMaps run.server.configMaps := by
  have sources rule (member : rule ∈ rules.sources) (named : rule.2.isEmpty = false) :
      Entries.find? rule.2 configMaps = Entries.find? rule.2 server.configMaps :=
    settled.untouched rule.2 (independent.sources rule member named)
  apply apply_completes independent (fun _ => id) settled rfl
  · intro rule member
    apply (truthful rule member).congr (sources rule member)
    exact fun gone _ => ((settled_iff.mp settled).1 rule member).trans gone
  · rw [flatMap_asked_congr sources, server.failing?_withConfigMaps, quiet]

/-- What applying rules does. If no request fails, the run ends well and settles the rules, as it
would in any other order in which none fails, and a second run on which none fails changes nothing.
If one fails, the run ends there with its status: the rules before are settled, the others have not
been touched, and a later run that ends well settles all of them as this one would have. What settled
rules hold is determined. -/
theorem apply_settles (independent : Independent rules.sources)
    (truthful : ∀ sent r, server.Truthful sent r) :
    (server.failing? [] (rules.sources.flatMap (asked server.configMaps)) = none →
      ∃ run, rules.apply server = (.ok (), run) ∧
        run.requests = rules.sources.flatMap (asked server.configMaps) ∧
        Settled rules.sources server.configMaps run.server.configMaps ∧
        (∀ listed : List (Location × Location), listed.Perm rules.sources →
          server.Forgetful ∨
            server.failing? [] (listed.flatMap (asked server.configMaps)) = none →
          ∃ other, Run.applyRules ⟨server, []⟩ listed = (.ok (), other) ∧
            Alike other.server.configMaps run.server.configMaps) ∧
        (∃ again, rules.apply run.server = (.ok (), again) ∧
          Alike again.server.configMaps run.server.configMaps) ∧
        ∀ later : Server, later.configMaps = run.server.configMaps →
          (∀ sent r, later.Truthful sent r) →
          later.failing? [] (rules.sources.flatMap (asked later.configMaps)) = none →
          ∃ again, rules.apply later = (.ok (), again) ∧
            Alike again.server.configMaps run.server.configMaps) ∧
    (∀ status,
      server.failing? [] (rules.sources.flatMap (asked server.configMaps)) = some status →
      ∃ before rule after run, rules.sources = before ++ rule :: after ∧
        server.failing? [] (before.flatMap (asked server.configMaps)) = none ∧
        server.failing? (before.flatMap (asked server.configMaps))
          (asked server.configMaps rule) = some status ∧
        rules.apply server = (.error (.api status), run) ∧
        run.requests <+: rules.sources.flatMap (asked server.configMaps) ∧
        server.Stops [] run.requests status ∧
        Settled before server.configMaps run.server.configMaps ∧
        (∀ other ∈ rule :: after, Entries.find? other.1 run.server.configMaps =
          Entries.find? other.1 server.configMaps) ∧
        ∀ later : Server, later.configMaps = run.server.configMaps →
          (∀ sent r, later.Truthful sent r) →
          later.failing? [] (rules.sources.flatMap (asked later.configMaps)) = none →
          ∃ complete, rules.apply later = (.ok (), complete) ∧
            Settled rules.sources server.configMaps complete.server.configMaps) ∧
    ∀ configMaps configMaps', Settled rules.sources server.configMaps configMaps →
      Settled rules.sources server.configMaps configMaps' → Alike configMaps configMaps' := by
  have truthfulFor {server : Server} (truthful : ∀ sent r, server.Truthful sent r) :
      ∀ rule ∈ rules.sources, server.TruthfulFor rule := fun _ _ r _ sent => truthful sent r
  refine ⟨fun quiet => ?_, fun status failure => ?_, fun _ _ => Settled.alike⟩
  · have settled := settled_foldl independent server.configMaps
    refine ⟨_, apply_of_quiet independent (truthfulFor truthful) quiet, rfl, settled,
      fun listed permuted orderly => ?_, ?_, fun later same truthfulLater quietLater => ?_⟩
    · have quietListed : server.failing? [] (listed.flatMap (asked server.configMaps)) = none := by
        rcases orderly with forgetful | quietListed
        · exact forgetful.failing?_perm (permuted.flatMap_right _) quiet
        · exact quietListed
      obtain ⟨other, applied, settled'⟩ :=
        applyRules_perm permuted independent (truthfulFor truthful) quietListed
      exact ⟨other, applied, settled'.alike settled⟩
    · obtain ⟨again, applied, settled'⟩ :=
        apply_again independent (truthfulFor truthful) quiet settled
      exact ⟨again, applied, settled'.alike settled⟩
    · obtain ⟨again, applied, settled'⟩ := apply_completes independent (fun _ => id)
        settled same (truthfulFor truthfulLater) quietLater
      exact ⟨again, applied, settled'.alike settled⟩
  · obtain ⟨before, rule, after, split, quiet, stopped⟩ := Server.exists_of_failing? failure
    obtain ⟨sent, beginning, stops, applied⟩ :=
      apply_of_stopped split independent (truthfulFor truthful) quiet stopped
    have first : before.Sublist rules.sources := split ▸ List.sublist_append_left _ _
    have part := settled_foldl (independent.sublist first) server.configMaps
    refine ⟨before, rule, after, _, split, quiet, stopped, applied, ?_, stops, part,
      fun other member => part.untouched _ ?_, fun later same truthfulLater quietLater => ?_⟩
    · rw [split, List.flatMap_append, List.flatMap_cons]
      exact (List.prefix_append_right_inj _).mpr (beginning.trans (List.prefix_append _ _))
    · rw [split] at independent
      exact independent.later_targets other member
    · exact apply_completes independent (fun _ earlier => first.subset earlier) part same
        (truthfulFor truthfulLater) quietLater

end Apply

def unwanted : Location := ⟨"openshift-kube-apiserver", "auth-config"⟩

def spareBundle : Location := ⟨"openshift-kube-apiserver", "user-ca-bundle"⟩

def mirrorRules : Rules :=
  ⟨"openshift-kube-apiserver",
    [(unwanted, .empty), (mountedBundle, issuerBundle), (spareBundle, issuerBundle)], 3⟩

def tooMany : ApiStatus := ⟨"Failure", "read once already", "TooManyRequests", 429⟩

/-- A server with a bundle but without the config map that is to be deleted, and it says so. When it
is busy nothing may be read twice. -/
def mirrorServer (busy : Bool) : Server where
  configMaps := [(issuerBundle, bundle "ca-bundle.crt")]
  refusal sent r :=
    match r with
    | .delete place => if place = unwanted then some statusNotFound else none
    | .get _ => if busy ∧ r ∈ sent then some tooMany else none
    | .patch _ _ => none

theorem mirrorServer_truthful (busy : Bool) (sent : List Request) (r : Request) :
    (mirrorServer busy).Truthful sent r := by
  intro refused quiet
  cases r with
  | get place =>
    by_cases again : busy ∧ Request.get place ∈ sent
    · simp [Server.failure?, mirrorServer, again, tooMany, Option.filter] at quiet
    · exact absurd (if_neg again) refused
  | patch place object => exact absurd rfl refused
  | delete place =>
    by_cases here : place = unwanted
    · rw [here]
      rfl
    · exact absurd (if_neg here) refused

/-- A server at rest is settled. A busy one lets the bundle be copied once and stops the run when it
is read for the second copy. -/
theorem apply_settles_bundle :
    Independent mirrorRules.sources ∧
    (∃ run, mirrorRules.apply (mirrorServer false) = (.ok (), run) ∧
      Entries.find? unwanted run.server.configMaps = none ∧
      ∃ replica, Entries.find? spareBundle run.server.configMaps = some replica ∧
        replica.data = (bundle "ca-bundle.crt").data) ∧
    ∃ run, mirrorRules.apply (mirrorServer true) = (.error (.api tooMany), run) ∧
      run.requests.getLast? = some (.get issuerBundle) ∧
      Entries.find? mountedBundle run.server.configMaps =
        some (copied mountedBundle (bundle "ca-bundle.crt")) ∧
      Entries.find? spareBundle run.server.configMaps = none := by
  have independent : Independent mirrorRules.sources := ⟨by decide, by decide⟩
  have atRest := apply_settles independent (mirrorServer_truthful false)
  have busy := apply_settles independent (mirrorServer_truthful true)
  obtain ⟨run, applied, -, settled, -⟩ := atRest.1 rfl
  obtain ⟨-, -, -, run', -, -, -, stopped, -⟩ := busy.2.1 tooMany rfl
  obtain ⟨replica, here, isReplica⟩ :=
    settled.copied (spareBundle, issuerBundle) (by decide) (by decide) _ rfl
  refine ⟨independent, ⟨run, applied, settled.removed (unwanted, .empty) (by decide) (.inl rfl),
    replica, here, isReplica.data⟩, run', stopped, ?_⟩
  have left : run' = (mirrorRules.apply (mirrorServer true)).2 := by rw [stopped]
  rw [left]
  exact ⟨rfl, rfl, rfl⟩

end ObservedConfig.Replica
