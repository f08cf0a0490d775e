import ObservedConfig.Proofs.Replica.Requests
import ObservedConfig.Replica.Server

/-! Where rules write. Whatever a server refuses, applying rules to it changes nothing outside the
namespace of the rules. -/
namespace ObservedConfig

namespace Entries

variable {κ α : Type} [DecidableEq κ]

theorem filter_erase {p : κ → Bool} {key : κ} (apart : p key = false) (entries : List (κ × α)) :
    (erase key entries).filter (fun entry => p entry.1) =
      entries.filter fun entry => p entry.1 := by
  induction entries with
  | nil => rfl
  | cons first rest ih =>
    by_cases same : key = first.1
    · have dropped : p first.1 = false := same ▸ apart
      simp [erase, same, dropped, ← ih]
    · simp [erase, same, List.filter_cons, ih]

variable [LT κ] [DecidableLT κ]

theorem filter_insert {p : κ → Bool} {key : κ} (apart : p key = false) (value : α)
    (entries : List (κ × α)) :
    (insert key value entries).filter (fun entry => p entry.1) =
      entries.filter fun entry => p entry.1 := by
  induction entries with
  | nil => simp [insert, apart]
  | cons first rest ih =>
    by_cases same : key = first.1
    · have dropped : p first.1 = false := same ▸ apart
      simp [insert, same, dropped]
    · by_cases less : key < first.1
      · simp [insert, same, less, List.filter_cons, apart]
      · simp [insert, same, less, List.filter_cons, ih]

end Entries

namespace Replica

def outside (namespaceName : String) (configMaps : List (Location × ConfigMap)) :
    List (Location × ConfigMap) :=
  configMaps.filter fun entry => entry.1.namespaceName ≠ namespaceName

section Outside
variable {namespaceName : String} {place : Location}

theorem outside_erase (inside : place.namespaceName = namespaceName)
    (configMaps : List (Location × ConfigMap)) :
    outside namespaceName (Entries.erase place configMaps) = outside namespaceName configMaps :=
  Entries.filter_erase (p := fun other : Location => other.namespaceName ≠ namespaceName)
    (by simp [inside]) _

theorem outside_insert (inside : place.namespaceName = namespaceName) (object : ConfigMap)
    (configMaps : List (Location × ConfigMap)) :
    outside namespaceName (Entries.insert place object configMaps) =
      outside namespaceName configMaps :=
  Entries.filter_insert (p := fun other : Location => other.namespaceName ≠ namespaceName)
    (by simp [inside]) _ _

end Outside

/-- A run that started at a server has written in one namespace only. -/
structure Confined (namespaceName : String) (server : Server) (run : Run) : Prop where
  /-- Every request reads or is about the namespace. -/
  requests : ∀ r ∈ run.requests, (∃ place, r = .get place) ∨ r.place.namespaceName = namespaceName
  /-- What stands elsewhere is as it was, and nothing has come to it. -/
  untouched :
    outside namespaceName run.server.configMaps = outside namespaceName server.configMaps

namespace Confined

variable {namespaceName : String} {server : Server} {run : Run} {place target : Location}

theorem start (namespaceName : String) (server : Server) :
    Confined namespaceName server ⟨server, []⟩ where
  requests := by simp
  untouched := rfl

theorem get (confined : Confined namespaceName server run) (place : Location) :
    Confined namespaceName server (run.get place).2 := by
  have after : (run.get place).2 = run.sent (.get place) := by
    unfold Run.get
    split <;> rfl
  rw [after]
  refine { confined with requests := fun r sent => ?_ }
  rcases List.mem_append.mp sent with former | new
  · exact confined.requests r former
  · exact .inl ⟨place, List.mem_singleton.mp new⟩

/-- A write in the namespace, carried out or not. -/
theorem write {r : Request} {configMaps : List (Location × ConfigMap)}
    (confined : Confined namespaceName server run) (inside : r.place.namespaceName = namespaceName)
    (same : outside namespaceName configMaps = outside namespaceName run.server.configMaps) :
    Confined namespaceName server ((run.sent r).withConfigMaps configMaps) where
  requests other sent := by
    rcases List.mem_append.mp sent with former | new
    · exact confined.requests other former
    · exact .inr (List.mem_singleton.mp new ▸ inside)
  untouched := same.trans confined.untouched

theorem delete (confined : Confined namespaceName server run)
    (inside : place.namespaceName = namespaceName) :
    Confined namespaceName server (run.delete place).2 := by
  unfold Run.delete
  dsimp only
  split
  · exact confined.write (r := .delete place) inside rfl
  · exact confined.write (r := .delete place) inside (outside_erase inside _)

theorem patch (confined : Confined namespaceName server run)
    (inside : place.namespaceName = namespaceName) (object : ConfigMap) :
    Confined namespaceName server (run.patch place object).2 := by
  unfold Run.patch
  dsimp only
  split
  · exact confined.write (r := .patch place object) inside rfl
  · exact confined.write (r := .patch place object) inside (outside_insert inside _ _)

theorem applyRule (confined : Confined namespaceName server run)
    (inside : target.namespaceName = namespaceName) (source : Location) :
    Confined namespaceName server (run.applyRule target source).2 := by
  have read := confined.get source
  unfold Run.applyRule
  split
  · exact confined.delete inside
  · split
    next answered => rwa [answered] at read
    next answered =>
      rw [answered] at read
      exact read.delete inside
    next answered =>
      rw [answered] at read
      exact read.patch inside _

theorem applyRules (confined : Confined namespaceName server run) {rules : List (Location × Location)}
    (inside : ∀ rule ∈ rules, rule.1.namespaceName = namespaceName) :
    Confined namespaceName server (run.applyRules rules).2 := by
  induction rules generalizing run with
  | nil => exact confined
  | cons rule rest ih =>
    obtain ⟨here, later⟩ := List.forall_mem_cons.mp inside
    have applied := confined.applyRule here rule.2
    unfold Run.applyRules
    split
    next answered =>
      rw [answered] at applied
      exact ih applied later
    next answered => rwa [answered] at applied

end Confined

/-- After any requests, valid or not, the rules are for named targets in their namespace. They are
listed in order, whatever the order in which they are found, and hold what was accepted last for each
target, and the generation counts what was changed. A rejected request leaves them alone. Applying
them writes nothing outside the namespace, on any server and whatever it refuses. -/
theorem requests_confined (namespaceName : String) (requests : Requests) :
    Records namespaceName requests (requests.rules namespaceName) ∧
      (∀ listed : List (Location × Location),
        listed.Perm (requests.rules namespaceName).sources →
          listed.mergeSort Location.pairPrecedes = (requests.rules namespaceName).sources) ∧
      (∀ target source, Targetable namespaceName target →
        (Syncer.request (requests.rules namespaceName) target source).1 = .ok ()) ∧
      (∀ target source, ¬ Targetable namespaceName target →
        ∃ e, Syncer.request (requests.rules namespaceName) target source =
          (.error e, requests.rules namespaceName)) ∧
      ∀ server : Server,
        Confined namespaceName server ((requests.rules namespaceName).apply server).2 := by
  have records := requests.records namespaceName
  have own := records.namespaceName_eq
  refine ⟨records, fun listed => records.sorted.mergeSort_eq, ?_, ?_, ?_⟩
  · intro target source targetable
    have answer := requested (requests.rules namespaceName) target source
    generalize Syncer.request (requests.rules namespaceName) target source = outcome at answer
    cases answer with
    | rejected refused =>
      rw [own] at refused
      exact absurd targetable refused
    | repeated => rfl
    | changed => rfl
  · intro target source refused
    have answer := requested (requests.rules namespaceName) target source
    generalize Syncer.request (requests.rules namespaceName) target source = outcome at answer
    cases answer with
    | rejected => exact ⟨_, rfl⟩
    | repeated targetable | changed targetable =>
      rw [own] at targetable
      exact absurd targetable refused
  · intro server
    exact (Confined.start namespaceName server).applyRules fun rule member =>
      (records.targets rule member).1

end Replica

end ObservedConfig
