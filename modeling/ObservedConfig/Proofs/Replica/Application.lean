import Mathlib.Data.List.Basic
import ObservedConfig.Proofs.Location
import ObservedConfig.Replica.Server

/-! Applying rules request by request. A rule reads its source, if that has a name, and then writes
what belongs at its target. Whether a request fails may depend on those sent before it. As long as
none fails, a run of rules sends just these requests and each rule does its part; the first failure
ends the run with its status and leaves the server as the rules before it have left it. -/
namespace ObservedConfig

namespace Replica

/-- The status that a request fails with after those that were sent. That what is to be read or
deleted is not there is no failure. -/
def Server.failure? (server : Server) (sent : List Request) (r : Request) : Option ApiStatus :=
  (server.refusal sent r).filter fun status =>
    match r with
    | .get _ => status.reason != "NotFound"
    | .delete _ => status.code != 404
    | .patch _ _ => true

theorem Server.failure?_patch (server : Server) (sent : List Request) (place : Location)
    (object : ConfigMap) : server.failure? sent (.patch place object) =
      server.refusal sent (.patch place object) := by
  cases refused : server.refusal sent (.patch place object) <;>
    simp [failure?, refused, Option.filter]

/-- If the server says that something is not there, nothing is. -/
def Server.Truthful (server : Server) (sent : List Request) (r : Request) : Prop :=
  server.refusal sent r ≠ none → server.failure? sent r = none →
    Entries.find? r.place server.configMaps = none

/-- No refusal poses as a missing object: that there is none, the server says by itself. -/
def Server.Sincere (server : Server) : Prop :=
  ∀ sent r status, server.refusal sent r = some status →
    status.reason ≠ "NotFound" ∧ status.code ≠ 404

theorem Server.Sincere.truthful {server : Server} (sincere : server.Sincere) (sent : List Request)
    (r : Request) : server.Truthful sent r := by
  intro refused quiet
  obtain ⟨status, refusal⟩ := Option.ne_none_iff_exists'.mp refused
  obtain ⟨other, otherCode⟩ := sincere sent r status refusal
  cases r <;> simp [failure?, refusal, other, otherCode, Option.filter] at quiet

/-- The status of the first that fails of some requests, which are sent one after the other. -/
def Server.failing? (server : Server) (sent : List Request) : List Request → Option ApiStatus
  | [] => none
  | r :: rest => (server.failure? sent r).or (server.failing? (sent ++ [r]) rest)

/-- Requests of which the last one fails and no other. -/
def Server.Stops (server : Server) (sent requests : List Request) (status : ApiStatus) : Prop :=
  ∃ earlier r, requests = earlier ++ [r] ∧ server.failing? sent earlier = none ∧
    server.failure? (sent ++ earlier) r = some status

section Failing
variable {server : Server} {sent : List Request} {status : ApiStatus}

theorem Server.failing?_append (server : Server) (sent first later : List Request) :
    server.failing? sent (first ++ later) =
      (server.failing? sent first).or (server.failing? (sent ++ first) later) := by
  induction first generalizing sent with
  | nil => simp [failing?]
  | cons r rest ih =>
    rw [List.cons_append, failing?, failing?, ih, Option.or_assoc, List.append_assoc]
    rfl

theorem Server.failing?_singleton (server : Server) (sent : List Request) (r : Request) :
    server.failing? sent [r] = server.failure? sent r := by
  simp [failing?]

/-- Whether requests fail does not depend on what the server holds. -/
theorem Server.failing?_withConfigMaps (server : Server)
    (configMaps : List (Location × ConfigMap)) (sent requests : List Request) :
    failing? ⟨configMaps, server.refusal⟩ sent requests = server.failing? sent requests := by
  induction requests generalizing sent with
  | nil => rfl
  | cons r rest ih =>
    rw [failing?, failing?, ih]
    rfl

theorem Server.stops_singleton {r : Request} (failed : server.failure? sent r = some status) :
    server.Stops sent [r] status :=
  ⟨[], r, rfl, rfl, by rwa [List.append_nil]⟩

theorem Server.Stops.of_withConfigMaps {configMaps : List (Location × ConfigMap)}
    {requests : List Request} (stops : Stops ⟨configMaps, server.refusal⟩ sent requests status) :
    server.Stops sent requests status := by
  obtain ⟨earlier, r, rfl, quiet, failed⟩ := stops
  exact ⟨earlier, r, rfl, (server.failing?_withConfigMaps _ _ _).symm.trans quiet, failed⟩

theorem Server.Stops.append {first later : List Request}
    (quiet : server.failing? sent first = none)
    (stops : server.Stops (sent ++ first) later status) :
    server.Stops sent (first ++ later) status := by
  obtain ⟨earlier, r, rfl, quietThen, failed⟩ := stops
  refine ⟨first ++ earlier, r, (List.append_assoc _ _ _).symm, ?_, ?_⟩
  · rw [failing?_append, quiet, quietThen]
    rfl
  · rwa [← List.append_assoc]

/-- A request that fails is among those for one item, and nothing fails before that. -/
theorem Server.exists_of_failing? {α : Type} {items : List α} {f : α → List Request}
    (failed : server.failing? sent (items.flatMap f) = some status) :
    ∃ before item after, items = before ++ item :: after ∧
      server.failing? sent (before.flatMap f) = none ∧
      server.failing? (sent ++ before.flatMap f) (f item) = some status := by
  induction items generalizing sent with
  | nil => cases failed
  | cons item rest ih =>
    rw [List.flatMap_cons, failing?_append] at failed
    rcases Option.or_eq_some_iff.mp failed with here | ⟨quiet, later⟩
    · exact ⟨[], item, rest, rfl, rfl, by simpa using here⟩
    · obtain ⟨before, other, after, rfl, quietThen, stopped⟩ := ih later
      refine ⟨item :: before, other, after, rfl, ?_, ?_⟩
      · rw [List.flatMap_cons, failing?_append, quiet, quietThen]
        rfl
      · rwa [List.flatMap_cons, ← List.append_assoc]

end Failing

section Requests
variable (run : Run) {place : Location} {object : ConfigMap} {status : ApiStatus}

theorem Run.get_of_quiet (truthful : run.server.Truthful run.requests (.get place))
    (quiet : run.server.failure? run.requests (.get place) = none) :
    run.get place =
      (.ok (Entries.find? place run.server.configMaps), run.sent (.get place)) := by
  unfold Run.get
  cases refused : run.server.refusal run.requests (.get place) with
  | none => rfl
  | some status =>
    have missing : Entries.find? place run.server.configMaps = none :=
      truthful (by simp [refused]) quiet
    have notFound : status.reason = "NotFound" := by
      simpa [Server.failure?, refused, Option.filter] using quiet
    simp [notFound, missing]

theorem Run.get_of_failure
    (failure : run.server.failure? run.requests (.get place) = some status) :
    run.get place = (.error status, run.sent (.get place)) := by
  obtain ⟨refused, other⟩ := Option.filter_eq_some_iff.mp failure
  have other : status.reason ≠ "NotFound" := by simpa using other
  simp [Run.get, refused, other]

theorem Run.delete_of_quiet (truthful : run.server.Truthful run.requests (.delete place))
    (quiet : run.server.failure? run.requests (.delete place) = none) :
    run.delete place = (.ok (), (run.sent (.delete place)).withConfigMaps
      (Entries.erase place run.server.configMaps)) := by
  unfold Run.delete
  cases refused : run.server.refusal run.requests (.delete place) with
  | none => rfl
  | some status =>
    have missing : Entries.find? place run.server.configMaps = none :=
      truthful (by simp [refused]) quiet
    have notFound : status.code = 404 := by
      simpa [Server.failure?, refused, Option.filter] using quiet
    rw [Entries.erase_of_absent missing]
    simp [notFound, Run.withConfigMaps, Run.sent]

theorem Run.delete_of_failure
    (failure : run.server.failure? run.requests (.delete place) = some status) :
    run.delete place = (.error status, run.sent (.delete place)) := by
  obtain ⟨refused, other⟩ := Option.filter_eq_some_iff.mp failure
  have other : status.code ≠ 404 := by simpa using other
  simp [Run.delete, refused, other]

theorem Run.patch_of_quiet
    (quiet : run.server.failure? run.requests (.patch place object) = none) :
    run.patch place object = (.ok (), (run.sent (.patch place object)).withConfigMaps
      (Entries.insert place object run.server.configMaps)) := by
  rw [Server.failure?_patch] at quiet
  simp [Run.patch, quiet]

theorem Run.patch_of_failure
    (failure : run.server.failure? run.requests (.patch place object) = some status) :
    run.patch place object = (.error status, run.sent (.patch place object)) := by
  rw [Server.failure?_patch] at failure
  simp [Run.patch, failure]

end Requests

/-- What belongs at a target: a replica of the source, if there is one. -/
def replica? (configMaps : List (Location × ConfigMap)) (target source : Location) :
    Option ConfigMap :=
  if source.isEmpty then none else (Entries.find? source configMaps).map (copied target)

theorem replica?_congr {configMaps configMaps' : List (Location × ConfigMap)}
    {target source : Location} (same : source.isEmpty = false →
      Entries.find? source configMaps' = Entries.find? source configMaps) :
    replica? configMaps' target source = replica? configMaps target source := by
  unfold replica?
  cases named : source.isEmpty with
  | true => rfl
  | false => rw [same named]

def writing (configMaps : List (Location × ConfigMap)) (rule : Location × Location) : Request :=
  match replica? configMaps rule.1 rule.2 with
  | none => .delete rule.1
  | some object => .patch rule.1 object

/-- What a rule asks a server that holds config maps: it reads the source, if that has a name, and
then writes. -/
def asked (configMaps : List (Location × ConfigMap)) (rule : Location × Location) : List Request :=
  if rule.2.isEmpty then [writing configMaps rule] else [.get rule.2, writing configMaps rule]

def settle (configMaps : List (Location × ConfigMap)) (rule : Location × Location) :
    List (Location × ConfigMap) :=
  match replica? configMaps rule.1 rule.2 with
  | none => Entries.erase rule.1 configMaps
  | some object => Entries.insert rule.1 object configMaps

theorem find?_erase (place target : Location) (configMaps : List (Location × ConfigMap)) :
    Entries.find? place (Entries.erase target configMaps) =
      if place = target then none else Entries.find? place configMaps := by
  split
  next same => rw [same, Entries.find?_erase_same]
  next different => exact Entries.find?_erase_other different _

theorem find?_insert (place target : Location) (object : ConfigMap)
    (configMaps : List (Location × ConfigMap)) :
    Entries.find? place (Entries.insert target object configMaps) =
      if place = target then some object else Entries.find? place configMaps := by
  split
  next same => rw [same, Entries.find?_insert_same]
  next different => exact Entries.find?_insert_other different _ _

theorem find?_settle (configMaps : List (Location × ConfigMap)) (rule : Location × Location)
    (place : Location) : Entries.find? place (settle configMaps rule) =
      if place = rule.1 then replica? configMaps rule.1 rule.2
      else Entries.find? place configMaps := by
  unfold settle
  cases replica? configMaps rule.1 rule.2 with
  | none => exact find?_erase _ _ _
  | some object => exact find?_insert _ _ _ _

/-- What the server says to the requests for a rule is true, whenever they are sent. -/
def Server.TruthfulFor (server : Server) (rule : Location × Location) : Prop :=
  ∀ r ∈ asked server.configMaps rule, ∀ sent, server.Truthful sent r

section Rule
variable (run : Run) {rule : Location × Location} {status : ApiStatus}

/-- The second half of a rule, once its source is known. -/
def Run.write (rule : Location × Location) : Except ApiStatus Unit × Run :=
  match replica? run.server.configMaps rule.1 rule.2 with
  | none => run.delete rule.1
  | some object => run.patch rule.1 object

theorem Run.write_of_quiet
    (truthful : run.server.Truthful run.requests (writing run.server.configMaps rule))
    (quiet : run.server.failure? run.requests (writing run.server.configMaps rule) = none) :
    run.write rule = (.ok (), (run.sent (writing run.server.configMaps rule)).withConfigMaps
      (settle run.server.configMaps rule)) := by
  unfold Run.write writing settle at *
  cases found : replica? run.server.configMaps rule.1 rule.2 with
  | none =>
    simp only [found] at truthful quiet ⊢
    exact run.delete_of_quiet truthful quiet
  | some object =>
    simp only [found] at quiet ⊢
    exact run.patch_of_quiet quiet

theorem Run.write_of_failure (failure :
      run.server.failure? run.requests (writing run.server.configMaps rule) = some status) :
    run.write rule = (.error status, run.sent (writing run.server.configMaps rule)) := by
  unfold Run.write writing at *
  cases found : replica? run.server.configMaps rule.1 rule.2 with
  | none =>
    simp only [found] at failure ⊢
    exact run.delete_of_failure failure
  | some object =>
    simp only [found] at failure ⊢
    exact run.patch_of_failure failure

theorem Run.applyRule_of_gone (gone : rule.2.isEmpty = true) :
    run.applyRule rule.1 rule.2 = run.write rule := by
  simp [Run.applyRule, Run.write, replica?, gone]

theorem Run.applyRule_of_read (named : rule.2.isEmpty = false)
    (truthful : run.server.Truthful run.requests (.get rule.2))
    (quiet : run.server.failure? run.requests (.get rule.2) = none) :
    run.applyRule rule.1 rule.2 = (run.sent (.get rule.2)).write rule := by
  have same : (run.sent (.get rule.2)).server = run.server := rfl
  simp only [Run.applyRule, Run.write, replica?, named, same, run.get_of_quiet truthful quiet,
    Bool.false_eq_true, if_false]
  cases Entries.find? rule.2 run.server.configMaps <;> rfl

theorem Run.applyRule_of_unread (named : rule.2.isEmpty = false)
    (failure : run.server.failure? run.requests (.get rule.2) = some status) :
    run.applyRule rule.1 rule.2 = (.error status, run.sent (.get rule.2)) := by
  simp [Run.applyRule, named, run.get_of_failure failure]

/-- A rule none of whose requests fails does its part. -/
theorem Run.applyRule_of_quiet (truthful : run.server.TruthfulFor rule)
    (quiet : run.server.failing? run.requests (asked run.server.configMaps rule) = none) :
    run.applyRule rule.1 rule.2 =
      (.ok (), ⟨⟨settle run.server.configMaps rule, run.server.refusal⟩,
        run.requests ++ asked run.server.configMaps rule⟩) := by
  unfold Server.TruthfulFor asked at truthful
  unfold asked at quiet ⊢
  cases gone : rule.2.isEmpty with
  | true =>
    simp only [gone, if_true, List.forall_mem_singleton, Server.failing?_singleton]
      at truthful quiet ⊢
    rw [run.applyRule_of_gone gone, run.write_of_quiet (truthful _) quiet]
    rfl
  | false =>
    simp only [gone, Bool.false_eq_true, if_false, List.forall_mem_cons] at truthful quiet ⊢
    rw [Server.failing?, Server.failing?_singleton] at quiet
    obtain ⟨read, wrote⟩ := Option.or_eq_none_iff.mp quiet
    have written := (run.sent (.get rule.2)).write_of_quiet (truthful.2.1 _) wrote
    rw [run.applyRule_of_read gone (truthful.1 _) read, written]
    simp [Run.sent, Run.withConfigMaps]

/-- A rule with a request that fails writes nothing, and asks for nothing after that request. -/
theorem Run.applyRule_of_stopped (truthful : run.server.TruthfulFor rule)
    (stopped : run.server.failing? run.requests (asked run.server.configMaps rule) = some status) :
    ∃ sent, sent <+: asked run.server.configMaps rule ∧
      run.server.Stops run.requests sent status ∧
      run.applyRule rule.1 rule.2 = (.error status, ⟨run.server, run.requests ++ sent⟩) := by
  unfold Server.TruthfulFor asked at truthful
  unfold asked at stopped ⊢
  cases gone : rule.2.isEmpty with
  | true =>
    simp only [gone, if_true, Server.failing?_singleton] at stopped ⊢
    rw [run.applyRule_of_gone gone, run.write_of_failure stopped]
    exact ⟨_, List.prefix_rfl, Server.stops_singleton stopped, rfl⟩
  | false =>
    simp only [gone, Bool.false_eq_true, if_false, List.forall_mem_cons] at truthful stopped ⊢
    rw [Server.failing?, Server.failing?_singleton] at stopped
    rcases Option.or_eq_some_iff.mp stopped with unread | ⟨read, unwritten⟩
    · exact ⟨[.get rule.2], ⟨_, rfl⟩, Server.stops_singleton unread,
        run.applyRule_of_unread gone unread⟩
    · have readFirst : run.server.failing? run.requests [.get rule.2] = none :=
        (Server.failing?_singleton ..).trans read
      have written := (run.sent (.get rule.2)).write_of_failure unwritten
      refine ⟨_, List.prefix_rfl, .append readFirst (Server.stops_singleton unwritten), ?_⟩
      rw [run.applyRule_of_read gone (truthful.1 _) read, written]
      simp [Run.sent]

end Rule

section Later
variable {server : Server} {configMaps : List (Location × ConfigMap)}
  {rules : List (Location × Location)} {rule : Location × Location}

/-- What rules ask depends on their sources alone. -/
theorem asked_congr (source : rule.2.isEmpty = false →
      Entries.find? rule.2 configMaps = Entries.find? rule.2 server.configMaps) :
    asked configMaps rule = asked server.configMaps rule := by
  simp only [asked, writing, replica?_congr source]

theorem flatMap_asked_congr (sources : ∀ rule ∈ rules, rule.2.isEmpty = false →
      Entries.find? rule.2 configMaps = Entries.find? rule.2 server.configMaps) :
    rules.flatMap (asked configMaps) = rules.flatMap (asked server.configMaps) :=
  List.flatMap_congr fun rule member => asked_congr (sources rule member)

/-- What is said to a rule stays true, unless its target has been filled although it had no
source. -/
theorem Server.TruthfulFor.congr (truthful : server.TruthfulFor rule)
    (source : rule.2.isEmpty = false →
      Entries.find? rule.2 configMaps = Entries.find? rule.2 server.configMaps)
    (target : replica? server.configMaps rule.1 rule.2 = none →
      Entries.find? rule.1 server.configMaps = none → Entries.find? rule.1 configMaps = none) :
    Server.TruthfulFor ⟨configMaps, server.refusal⟩ rule := by
  intro r member sent refused quiet
  rw [asked_congr source] at member
  have missing : Entries.find? r.place server.configMaps = none :=
    truthful r member sent refused quiet
  have read (named : rule.2.isEmpty = false) (same : r = .get rule.2) :
      Entries.find? r.place configMaps = none := by
    subst same
    exact (source named).trans missing
  have written (same : r = writing server.configMaps rule) :
      Entries.find? r.place configMaps = none := by
    unfold writing at same
    split at same
    next gone =>
      subst same
      exact target gone missing
    next object found =>
      -- A copy that is refused has failed.
      subst same
      rw [Server.failure?_patch] at quiet
      exact absurd quiet refused
  unfold asked at member
  split at member
  next => exact written (List.mem_singleton.mp member)
  next named =>
    simp only [List.mem_cons, List.not_mem_nil, or_false] at member
    exact member.elim (read (by simpa using named)) written

end Later

/-- No target has two rules, and no source that is to be copied is a target. -/
structure Independent (rules : List (Location × Location)) : Prop where
  targets : rules.Pairwise fun a b => a.1 ≠ b.1
  sources : ∀ a ∈ rules, a.2.isEmpty = false → ∀ b ∈ rules, a.2 ≠ b.1

namespace Independent
variable {rules rules' before after : List (Location × Location)}

theorem sublist (independent : Independent rules) (sub : List.Sublist rules' rules) :
    Independent rules' where
  targets := independent.targets.sublist sub
  sources a member named b other :=
    independent.sources a (sub.subset member) named b (sub.subset other)

theorem perm (independent : Independent rules) (perm : rules'.Perm rules) : Independent rules' where
  targets := (perm.pairwise_iff fun different => different.symm).mpr independent.targets
  sources a member named b other :=
    independent.sources a (perm.subset member) named b (perm.subset other)

theorem later_targets (independent : Independent (before ++ after)) :
    ∀ a ∈ after, ∀ b ∈ before, a.1 ≠ b.1 := by
  intro a later b earlier
  exact ((List.pairwise_append.mp independent.targets).2.2 b earlier a later).symm

end Independent

section Rules
variable (run : Run) {rules before after : List (Location × Location)} {rule : Location × Location}
  {status : ApiStatus}

theorem find?_foldl_settle {place : Location} (other : ∀ rule ∈ rules, place ≠ rule.1)
    (configMaps : List (Location × ConfigMap)) :
    Entries.find? place (rules.foldl settle configMaps) = Entries.find? place configMaps := by
  induction rules generalizing configMaps with
  | nil => rfl
  | cons rule rest ih =>
    obtain ⟨here, later⟩ := List.forall_mem_cons.mp other
    rw [List.foldl_cons, ih later, find?_settle, if_neg here]

/-- Rules none of whose requests fails do their parts one after the other. -/
theorem Run.applyRules_of_quiet (independent : Independent rules)
    (truthful : ∀ rule ∈ rules, run.server.TruthfulFor rule)
    (quiet : run.server.failing? run.requests
      (rules.flatMap (asked run.server.configMaps)) = none) :
    run.applyRules rules =
      (.ok (), ⟨⟨rules.foldl settle run.server.configMaps, run.server.refusal⟩,
        run.requests ++ rules.flatMap (asked run.server.configMaps)⟩) := by
  induction rules generalizing run with
  | nil => simp [Run.applyRules]
  | cons rule rest ih =>
    obtain ⟨truthfulHere, truthfulLater⟩ := List.forall_mem_cons.mp truthful
    rw [List.flatMap_cons, Server.failing?_append] at quiet
    obtain ⟨quietHere, quietLater⟩ := Option.or_eq_none_iff.mp quiet
    -- The later rules neither read nor write the target of this one.
    have source : ∀ other ∈ rest, other.2.isEmpty = false →
        Entries.find? other.2 (settle run.server.configMaps rule) =
          Entries.find? other.2 run.server.configMaps := by
      intro other member named
      rw [find?_settle, if_neg (independent.sources other (List.mem_cons_of_mem _ member) named rule
        List.mem_cons_self)]
    have target : ∀ other ∈ rest, Entries.find? other.1 (settle run.server.configMaps rule) =
          Entries.find? other.1 run.server.configMaps := by
      intro other member
      rw [find?_settle, if_neg ((List.pairwise_cons.mp independent.targets).1 other member).symm]
    have same : rest.flatMap (asked (settle run.server.configMaps rule)) =
        rest.flatMap (asked run.server.configMaps) := flatMap_asked_congr source
    have later := ih
      ⟨⟨settle run.server.configMaps rule, run.server.refusal⟩,
        run.requests ++ asked run.server.configMaps rule⟩
      (independent.sublist (List.sublist_cons_self _ _))
      (fun other member => (truthfulLater other member).congr (source other member)
        fun _ missing => (target other member).trans missing)
      (by rw [same, run.server.failing?_withConfigMaps, quietLater])
    simp only [Run.applyRules, run.applyRule_of_quiet truthfulHere quietHere, later, same,
      List.foldl_cons, List.flatMap_cons, List.append_assoc]

theorem Run.applyRules_append (before after : List (Location × Location)) :
    run.applyRules (before ++ after) =
      match run.applyRules before with
      | (.ok _, run) => run.applyRules after
      | (.error status, run) => (.error status, run) := by
  induction before generalizing run with
  | nil => rfl
  | cons rule rest ih =>
    simp only [List.cons_append, Run.applyRules]
    cases run.applyRule rule.1 rule.2 with
    | mk answer run => cases answer <;> simp [ih]

/-- The first rule with a request that fails ends a run. -/
theorem Run.applyRules_of_stopped (independent : Independent (before ++ rule :: after))
    (truthful : ∀ other ∈ before ++ rule :: after, run.server.TruthfulFor other)
    (quiet : run.server.failing? run.requests
      (before.flatMap (asked run.server.configMaps)) = none)
    (stopped : run.server.failing?
      (run.requests ++ before.flatMap (asked run.server.configMaps))
      (asked run.server.configMaps rule) = some status) :
    ∃ sent, sent <+: asked run.server.configMaps rule ∧
      run.server.Stops run.requests (before.flatMap (asked run.server.configMaps) ++ sent)
        status ∧
      run.applyRules (before ++ rule :: after) = (.error status,
        ⟨⟨before.foldl settle run.server.configMaps, run.server.refusal⟩,
          run.requests ++ (before.flatMap (asked run.server.configMaps) ++ sent)⟩) := by
  have first : before.Sublist (before ++ rule :: after) := List.sublist_append_left _ _
  have member : rule ∈ before ++ rule :: after := by simp
  have other : ∀ b ∈ before, rule.1 ≠ b.1 :=
    independent.later_targets rule List.mem_cons_self
  have source : rule.2.isEmpty = false →
      Entries.find? rule.2 (before.foldl settle run.server.configMaps) =
        Entries.find? rule.2 run.server.configMaps := fun named =>
    find?_foldl_settle (fun b earlier =>
      independent.sources rule member named b (first.subset earlier)) _
  have truthfulThen := (truthful rule member).congr source
    fun _ missing => (find?_foldl_settle other _).trans missing
  have stoppedThen :
      Server.failing? ⟨before.foldl settle run.server.configMaps, run.server.refusal⟩
        (run.requests ++ before.flatMap (asked run.server.configMaps))
        (asked (before.foldl settle run.server.configMaps) rule) = some status := by
    rw [asked_congr source, run.server.failing?_withConfigMaps, stopped]
  obtain ⟨sent, beginning, stops, failed⟩ := Run.applyRule_of_stopped
    ⟨⟨before.foldl settle run.server.configMaps, run.server.refusal⟩,
      run.requests ++ before.flatMap (asked run.server.configMaps)⟩ truthfulThen stoppedThen
  refine ⟨sent, asked_congr source ▸ beginning,
    .append quiet stops.of_withConfigMaps, ?_⟩
  rw [Run.applyRules_append, run.applyRules_of_quiet (independent.sublist first)
    (fun b earlier => truthful b (first.subset earlier)) quiet]
  simp only [Run.applyRules, failed, List.append_assoc]

end Rules

end Replica

end ObservedConfig
