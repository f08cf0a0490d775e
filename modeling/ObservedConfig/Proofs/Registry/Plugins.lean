import ObservedConfig.Proofs.Observer.Plugins
import ObservedConfig.Proofs.Registry.Pass

/-! The list of disabled plugins over whole runs. Each pass revises it by what the look-up of the
authentication resource came to, whatever else happens in the pass. -/
namespace ObservedConfig

namespace RoleBinding

variable {t : Tree} {entries : List String}

def answer (ctx : Context) : Answer := ctx.lookup.authentication Authentication.resourceName

/-- The observer contributes the revised list and speaks up just when that adds or drops one of its
plugins. -/
theorem revised_of_carried {σ : Type} [Replica.Syncer σ] {ctx : Context}
    {session session' : Session σ} {role : Observation} (lists : Lists t entries)
    (carried : Carried name t session (decide ctx t) role session') :
    ((Registry.contributed t role).get? disabledPlugins).bind Node.kept =
        (Node.list (revised (answer ctx) entries)).kept ∧
      ∃ messages : List String,
        session'.events = session.events ++ messages.map (fun message => ⟨name, message⟩) ∧
        (messages = [] ↔ held entries = held (revised (answer ctx) entries)) := by
  cases answered : answer ctx with
  | error e =>
    have decided : decide ctx t = .error (.errors [e]) := by
      simp only [answer] at answered
      simp [decide, failing, answered, bind, Except.bind]
    rw [decided] at carried
    cases carried
    exact ⟨lists.kept, [], by simp, by simp [revised]⟩
  | ok auth? =>
    obtain ⟨found, read, rfl⟩ := lists
    have decided := decide_eq_ok.mpr ⟨auth?, found, answered, read, rfl⟩
    rw [decided] at carried
    cases carried with
    | rejected rejection => cases rejection
    | accepted issued =>
      refine ⟨?_, _, rfl, ?_⟩
      · have part : Registry.contributed t
            ⟨(decision (shouldDisable auth?) (found.getD [])).fragment, []⟩ =
              (decision (shouldDisable auth?) (found.getD [])).fragment := rfl
        rw [part, kept_fragment, revised_ok]
      · rw [revised_ok, decision]
        split
        next same => simp [same]
        next differs => simp [differs]

end RoleBinding

namespace Registry

open RoleBinding (Answer Disables Lists Kept answer revised foreign Increasing)

/-- A pass revises the list. It records an event of its observer just when that changes which of
the plugins are in the list. -/
theorem lists_of_pass {σ : Type} [Replica.Syncer σ] {ctx : Context} {t : Tree}
    {session session' : Session σ} {pass : Pass} {before : List String} (sorted : Tree.Sorted t)
    (lists : Lists t before) (completed : builtin.observe ctx t session = .ok (pass, session')) :
    Tree.Sorted pass.config ∧ Lists pass.config (revised (answer ctx) before) ∧
      ∃ new : EventLog, session'.events = session.events ++ new ∧
        ((∃ event ∈ new, event.reason = RoleBinding.name) ↔
          RoleBinding.held before ≠ RoleBinding.held (revised (answer ctx) before)) := by
  obtain ⟨oidc, middle, role, passed⟩ := passed sorted completed
  obtain ⟨contributes, messages, events, silent⟩ :=
    RoleBinding.revised_of_carried lists passed.roleCarried
  obtain ⟨others, eventsOthers, foreignName⟩ := passed.oidcCarried.recorded
  obtain ⟨found, read, -⟩ := lists
  have bare := bare_of_merges (Tree.bare_of_getList read) passed.merges
  have here : pass.config.get? RoleBinding.disabledPlugins =
      (Node.list (revised (answer ctx) before)).kept := by
    rw [← contributes]
    exact passed.merges.get?_owned
      (sorted_contributions sorted passed.oidcCarried passed.roleCarried)
      (List.mem_cons_of_mem _ List.mem_cons_self)
      ⟨_, List.mem_cons_self, by decide, List.prefix_rfl⟩
  refine ⟨passed.merges.sorted,
    RoleBinding.lists_of_kept passed.merges.sorted passed.merges.pruned bare here,
    others ++ messages.map fun message => ⟨RoleBinding.name, message⟩, ?_, ?_⟩
  · rw [events, eventsOthers, List.append_assoc]
  · have different : ExternalOidc.name ≠ RoleBinding.name := by decide
    rw [Ne, ← silent]
    constructor
    · rintro ⟨event, member, named⟩ rfl
      have own : event ∈ others := by simpa using member
      exact different ((foreignName event own).symm.trans named)
    · intro spoke
      obtain ⟨message, rest, rfl⟩ := List.exists_cons_of_ne_nil spoke
      exact ⟨⟨RoleBinding.name, message⟩, by simp, rfl⟩

/-- The configurations that passes lead to, with the answers that the passes got, the latest first.
Each pass has a cluster, gates, settings and a syncer of its own. -/
inductive Told (start : Tree) : List Answer → Tree → Prop where
  | start : Told start [] start
  | pass {σ : Type} [Replica.Syncer σ] {answers t ctx} {session session' : Session σ} {pass}
    (earlier : Told start answers t)
    (completed : builtin.observe ctx t session = .ok (pass, session')) :
    Told start (answer ctx :: answers) pass.config

theorem Told.kept {start t : Tree} {answers : List Answer} {initial : List String}
    (told : Told start answers t) (sorted : Tree.Sorted start) (lists : Lists start initial) :
    Tree.Sorted t ∧ ∃ entries, Lists t entries ∧ Kept initial answers entries := by
  induction told with
  | start => exact ⟨sorted, initial, lists, .start initial⟩
  | pass _ completed ih =>
    obtain ⟨sortedT, entries, listsT, kept⟩ := ih
    obtain ⟨sortedNext, listsNext, -⟩ := lists_of_pass sortedT listsT completed
    exact ⟨sortedNext, _, listsNext, kept.pass _⟩

/-- After any number of passes the list of disabled plugins has the entries of other sources that it
had at first. Up to the first pass that disables plugins their order and number stays as well, and
from there on the list is strictly increasing. A pass whose look-up succeeds decides about both
plugins, one whose look-up fails keeps the list, and an event is recorded just when one of the
plugins comes or goes. -/
theorem foreign_plugins_survive {start t : Tree} {initial : List String} {answers : List Answer}
    (sorted : Tree.Sorted start) (lists : Lists start initial) (told : Told start answers t)
    {σ : Type} [Replica.Syncer σ] {ctx : Context} {session session' : Session σ} {pass : Pass}
    (completed : builtin.observe ctx t session = .ok (pass, session')) :
    ∃ (before after : List String) (new : EventLog),
      Lists t before ∧ Lists pass.config after ∧ session'.events = session.events ++ new ∧
      (∀ plugin, plugin ∉ RoleBinding.plugins → (plugin ∈ after ↔ plugin ∈ initial)) ∧
      (∀ auth?, answer ctx = .ok auth? →
        ∀ plugin ∈ RoleBinding.plugins, (plugin ∈ after ↔ Disables (answer ctx))) ∧
      (∀ e, answer ctx = .error e → after = before) ∧
      ((∀ a ∈ answer ctx :: answers, ¬ Disables a) → foreign after = foreign initial) ∧
      ((∃ a ∈ answer ctx :: answers, Disables a) → Increasing after) ∧
      ((∃ event ∈ new, event.reason = RoleBinding.name) ↔
        ∃ plugin ∈ RoleBinding.plugins, ¬ (plugin ∈ before ↔ plugin ∈ after)) := by
  obtain ⟨sortedT, before, listsT, kept⟩ := told.kept sorted lists
  obtain ⟨-, listsNext, new, events, announced⟩ := lists_of_pass sortedT listsT completed
  have next := kept.pass (answer ctx)
  refine ⟨before, _, new, listsT, listsNext, events, next.members, ?_, ?_, next.order,
    next.increasing, ?_⟩
  · intro auth? answered plugin own
    rw [answered]
    exact RoleBinding.mem_revised_ok own
  · intro e answered
    rw [answered]
    rfl
  · rw [announced, Ne, RoleBinding.held_eq_iff]
    simp

/-- A list out of order that holds one of the plugins, through a login and the end of it. -/
theorem foreign_plugins_survive_after_login :
    ∃ (first second : Pass) (s t : Session) (after : List String),
      builtin.observe (sampleContext (sampleCluster "corp-ca"))
          [(argumentsKey, .tree [("disable-admission-plugins", .list
            ["Zeta", "Alpha", "authorization.openshift.io/RestrictSubjectBindings", "Zeta"])])]
          ⟨.empty "openshift-kube-apiserver", []⟩ = .ok (first, s) ∧
        builtin.observe ⟨Snapshot.empty.lookup, .ofLatest none, .standard⟩ first.config s =
          .ok (second, t) ∧
        Lists second.config after ∧ Increasing after ∧ "Zeta" ∈ after ∧
        "authorization.openshift.io/RestrictSubjectBindings" ∉ after := by
  have completes : ((builtin.observe (sampleContext (sampleCluster "corp-ca"))
      [(argumentsKey, .tree [("disable-admission-plugins", .list
        ["Zeta", "Alpha", "authorization.openshift.io/RestrictSubjectBindings", "Zeta"])])]
      (⟨.empty "openshift-kube-apiserver", []⟩ : Session)).bind fun result =>
        builtin.observe ⟨Snapshot.empty.lookup, .ofLatest none, .standard⟩ result.1.config
          result.2).isOk = true := by
    decide +kernel
  obtain ⟨⟨second, t⟩, both⟩ := exists_of_isOk completes
  obtain ⟨⟨first, s⟩, completed, completed'⟩ := bind_eq_ok.mp both
  have disables : Disables (answer (sampleContext (sampleCluster "corp-ca"))) :=
    ⟨_, rfl, .inl rfl⟩
  obtain ⟨before, after, new, -, listed, -, members, decides, -, -, increasing, -⟩ :=
    foreign_plugins_survive (by decide) ⟨some _, rfl, rfl⟩ (.pass .start completed) completed'
  refine ⟨first, second, s, t, after, completed, completed', listed, ?_, ?_, ?_⟩
  · exact increasing ⟨_, List.mem_cons_of_mem _ List.mem_cons_self, disables⟩
  · exact (members "Zeta" (by decide)).mpr (by decide)
  · rw [decides none rfl _ (by decide)]
    rintro ⟨_, found, -⟩
    cases found

end Registry

end ObservedConfig
