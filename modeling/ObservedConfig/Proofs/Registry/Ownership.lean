import ObservedConfig.Proofs.Slice.Merging

/-! Exclusive ownership. A registry takes an observer in exactly when its paths keep apart from
those of all observers before it, and an observer that is turned away leaves no trace. So paths of
different observers keep apart, and a path has at most one owner. -/
namespace ObservedConfig

variable {σ : Type}

namespace Observer

/-- No path of one observer lies at, above or below a path of the other. -/
def Apart (a b : Observer σ) : Prop := ∀ p ∈ a.owned, ∀ q ∈ b.owned, ¬ Path.Comparable p q

instance (a b : Observer σ) : Decidable (a.Apart b) :=
  inferInstanceAs (Decidable (∀ p ∈ a.owned, ∀ q ∈ b.owned, ¬ Path.Comparable p q))

theorem Apart.symm {a b : Observer σ} (apart : a.Apart b) : b.Apart a :=
  fun q memberQ p memberP comparable => apart p memberP q memberQ comparable.symm

/-- Comparable paths of observers that keep apart are paths of the same observer. -/
theorem index_unique {observers : List (Observer σ)} (apart : observers.Pairwise Apart) {i j : Nat}
    (hi : i < observers.length) (hj : j < observers.length) {p q : Path}
    (first : p ∈ observers[i].owned) (second : q ∈ observers[j].owned)
    (comparable : Path.Comparable p q) : i = j := by
  have ordered := List.pairwise_iff_getElem.mp apart
  rcases Nat.lt_trichotomy i j with before | same | behind
  · exact absurd comparable (ordered i j hi hj before p first q second)
  · exact same
  · exact absurd comparable.symm (ordered j i hj hi behind q second p first)

theorem eq_of_comparable {observers : List (Observer σ)} (apart : observers.Pairwise Apart)
    {a b : Observer σ} (memberA : a ∈ observers) (memberB : b ∈ observers) {p q : Path}
    (first : p ∈ a.owned) (second : q ∈ b.owned) (comparable : Path.Comparable p q) : a = b := by
  obtain ⟨i, hi, rfl⟩ := List.mem_iff_getElem.mp memberA
  obtain ⟨j, hj, rfl⟩ := List.mem_iff_getElem.mp memberB
  obtain rfl := index_unique apart hi hj first second comparable
  rfl

/-- Keeping apart is a matter of the paths alone. -/
theorem pairwise_apart_of_owned {first second : List (Observer σ)}
    (same : first.map owned = second.map owned) (apart : first.Pairwise Apart) :
    second.Pairwise Apart := by
  have byPaths : ∀ observers : List (Observer σ), observers.Pairwise Apart ↔
      (observers.map owned).Pairwise fun s t => ∀ p ∈ s, ∀ q ∈ t, ¬ Path.Comparable p q := by
    intro observers
    rw [List.pairwise_map]
    rfl
  rw [byPaths, ← same, ← byPaths]
  exact apart

/-- An observer that comes to the same observation whatever it looks at. -/
def fixed (name : String) (owned : List Path) (observation : Observation) : Observer σ where
  name := name
  owned := owned
  observe _ _ session := .ok (observation, session)

end Observer

namespace Registry

/-- The registry after a call to register an observer, which may turn it away. -/
def enter (r : Registry σ) (o : Observer σ) : Registry σ :=
  match r.register o with
  | .ok next => next
  | .error _ => r

def after (calls : List (Observer σ)) : Registry σ := calls.foldl enter empty

/-- Takes an observer that keeps apart from all that were taken before it. -/
def takeIn (taken : List (Observer σ)) (o : Observer σ) : List (Observer σ) :=
  if ∀ a ∈ taken, a.Apart o then taken ++ [o] else taken

def accepted (calls : List (Observer σ)) : List (Observer σ) := calls.foldl takeIn []

theorem mem_owners {r : Registry σ} {path : Path} {name : String} :
    (path, name) ∈ r.owners ↔ ∃ o ∈ r.observers, path ∈ o.owned ∧ o.name = name := by
  simp only [owners, List.mem_flatMap, List.mem_map, Prod.mk.injEq]
  constructor
  · rintro ⟨o, member, _, owned, rfl, named⟩
    exact ⟨o, member, owned, named⟩
  · rintro ⟨o, member, owned, named⟩
    exact ⟨o, member, path, owned, rfl, named⟩

theorem conflict?_eq_none {r : Registry σ} {o : Observer σ} :
    r.conflict? o.owned = none ↔ ∀ a ∈ r.observers, a.Apart o := by
  simp only [conflict?, List.findSome?_eq_none_iff, Option.map_eq_none_iff, List.find?_eq_none,
    Path.overlaps_iff]
  constructor
  · intro free a member p memberP q memberQ
    exact free q memberQ (p, a.name) (mem_owners.mpr ⟨a, member, memberP, rfl⟩)
  · rintro apart q memberQ ⟨p, name⟩ owned
    obtain ⟨a, member, memberP, -⟩ := mem_owners.mp owned
    exact apart a member p memberP q memberQ

theorem register_eq_ok {r next : Registry σ} {o : Observer σ} :
    r.register o = .ok next ↔ (∀ a ∈ r.observers, a.Apart o) ∧ next = ⟨r.observers ++ [o]⟩ := by
  rw [← conflict?_eq_none, register]
  cases r.conflict? o.owned with
  | none => simp [eq_comm]
  | some conflict => simp

/-- One call takes the observer in just when it keeps apart from those that are there. -/
theorem observers_enter (r : Registry σ) (o : Observer σ) :
    (r.enter o).observers = takeIn r.observers o := by
  unfold enter takeIn
  cases answer : r.register o with
  | ok next =>
    obtain ⟨apart, rfl⟩ := register_eq_ok.mp answer
    rw [if_pos apart]
  | error e =>
    rw [if_neg]
    intro apart
    rw [register_eq_ok.mpr ⟨apart, rfl⟩] at answer
    cases answer

theorem observers_after (calls : List (Observer σ)) : (after calls).observers = accepted calls := by
  suffices general : ∀ r : Registry σ,
      (calls.foldl enter r).observers = calls.foldl takeIn r.observers by
    exact general empty
  induction calls with
  | nil => exact fun _ => rfl
  | cons o rest ih =>
    intro r
    rw [List.foldl_cons, List.foldl_cons, ih, observers_enter]

theorem pairwise_takeIn {taken : List (Observer σ)} (apart : taken.Pairwise Observer.Apart)
    (o : Observer σ) : (takeIn taken o).Pairwise Observer.Apart := by
  unfold takeIn
  split
  next free =>
    refine List.pairwise_append.mpr ⟨apart, List.pairwise_singleton _ _, fun a member b last => ?_⟩
    obtain rfl := List.mem_singleton.mp last
    exact free a member
  next => exact apart

theorem pairwise_accepted (calls : List (Observer σ)) :
    (accepted calls).Pairwise Observer.Apart := by
  suffices general : ∀ taken : List (Observer σ), taken.Pairwise Observer.Apart →
      (calls.foldl takeIn taken).Pairwise Observer.Apart by
    exact general [] .nil
  induction calls with
  | nil => exact fun _ apart => apart
  | cons o rest ih => exact fun taken apart => ih _ (pairwise_takeIn apart o)

theorem takeIn_subset (taken : List (Observer σ)) (o : Observer σ) : takeIn taken o ⊆ o :: taken := by
  unfold takeIn
  split <;> intro a member
  · simp only [List.mem_append, List.mem_singleton] at member
    exact List.mem_cons.mpr member.symm
  · exact List.mem_cons_of_mem _ member

theorem mem_of_mem_after {calls : List (Observer σ)} {o : Observer σ}
    (member : o ∈ (after calls).observers) : o ∈ calls := by
  rw [observers_after] at member
  suffices general : ∀ taken : List (Observer σ), o ∈ calls.foldl takeIn taken →
      o ∈ calls ∨ o ∈ taken by
    simpa using general [] member
  clear member
  induction calls with
  | nil => exact fun _ => .inr
  | cons first rest ih =>
    intro taken member
    rcases ih _ member with later | sooner
    · exact .inl (List.mem_cons_of_mem _ later)
    · rcases List.mem_cons.mp (takeIn_subset _ _ sooner) with rfl | before
      · exact .inl List.mem_cons_self
      · exact .inr before

/-- Observers that keep apart are all taken. -/
theorem accepted_of_pairwise {observers : List (Observer σ)}
    (apart : observers.Pairwise Observer.Apart) : accepted observers = observers := by
  suffices general : ∀ taken : List (Observer σ), (taken ++ observers).Pairwise Observer.Apart →
      observers.foldl takeIn taken = taken ++ observers by
    exact general [] apart
  clear apart
  induction observers with
  | nil => simp
  | cons o rest ih =>
    intro taken apart
    have free : ∀ a ∈ taken, a.Apart o := fun a member =>
      (List.pairwise_append.mp apart).2.2 a member o List.mem_cons_self
    rw [List.append_cons] at apart ⊢
    rw [List.foldl_cons, takeIn, if_pos free, ih _ apart]

theorem pairwise_after (calls : List (Observer σ)) :
    (after calls).observers.Pairwise Observer.Apart := by
  rw [observers_after]
  exact pairwise_accepted calls

theorem after_of_pairwise {observers : List (Observer σ)}
    (apart : observers.Pairwise Observer.Apart) : (after observers).observers = observers := by
  rw [observers_after, accepted_of_pairwise apart]

/-- An observer with the same paths can take the place of one that is registered. -/
theorem after_set {calls : List (Observer σ)} {j : Nat} (inside : j < (after calls).observers.length)
    {other : Observer σ} (same : other.owned = (after calls).observers[j].owned) :
    (after ((after calls).observers.set j other)).observers =
      (after calls).observers.set j other := by
  apply after_of_pairwise
  refine Observer.pairwise_apart_of_owned ?_ (pairwise_after calls)
  rw [List.map_set, same, ← List.getElem_map Observer.owned, List.set_getElem_self]
  simpa using inside

theorem ownerOf_eq_some {r : Registry σ} (apart : r.observers.Pairwise Observer.Apart)
    {path : Path} {name : String} :
    r.ownerOf path = some name ↔ ∃ o ∈ r.observers, path ∈ o.owned ∧ o.name = name := by
  constructor
  · intro found
    obtain ⟨⟨p, owner⟩, entry, rfl⟩ := Option.map_eq_some_iff.mp found
    obtain rfl : p = path := by simpa using List.find?_some entry
    exact mem_owners.mp (List.mem_of_find?_eq_some entry)
  · rintro ⟨o, member, owns, rfl⟩
    have listed : (path, o.name) ∈ r.owners := mem_owners.mpr ⟨o, member, owns, rfl⟩
    cases entry : r.owners.find? fun owner => owner.1 == path with
    | none =>
      rw [List.find?_eq_none] at entry
      exact absurd (by simp) (entry _ listed)
    | some owner =>
      -- The entry that is found first may only be another one of the same observer.
      obtain ⟨p, owner⟩ := owner
      obtain rfl : p = path := by simpa using List.find?_some entry
      obtain ⟨other, memberOther, ownsOther, rfl⟩ :=
        mem_owners.mp (List.mem_of_find?_eq_some entry)
      obtain rfl := Observer.eq_of_comparable apart memberOther member ownsOther owns
        (.inl List.prefix_rfl)
      simp [ownerOf, entry]

/-- After any calls the observers of the registry are those that kept apart from all taken before
them, as if the others had never come. Each owned path has one owner, and no path that lies above or
below it has an owner unless the same observer lists that path as well. -/
theorem ownership_exclusive (calls : List (Observer σ)) :
    (∀ (earlier : List (Observer σ)) (o : Observer σ),
      (∃ next, (after earlier).register o = .ok next) ↔
        ∀ a ∈ accepted earlier, ∀ p ∈ a.owned, ∀ q ∈ o.owned, ¬ (p <+: q ∨ q <+: p)) ∧
    (∀ (earlier : List (Observer σ)) (o : Observer σ) (later : List (Observer σ)) (e : ObserveError),
      (after earlier).register o = .error e →
        after (earlier ++ o :: later) = after (earlier ++ later)) ∧
    (after calls).names = (accepted calls).map Observer.name ∧
    (∀ i j (hi : i < (accepted calls).length) (hj : j < (accepted calls).length),
      ∀ p ∈ (accepted calls)[i].owned, ∀ q ∈ (accepted calls)[j].owned,
        p <+: q ∨ q <+: p → i = j) ∧
    (∀ path name, (after calls).ownerOf path = some name ↔
      ∃ o ∈ accepted calls, path ∈ o.owned ∧ o.name = name) ∧
    ∀ o ∈ accepted calls, ∀ p ∈ o.owned, ∀ q, p <+: q ∨ q <+: p → q ∉ o.owned →
      (after calls).ownerOf q = none := by
  have apart := pairwise_accepted calls
  have owner : ∀ path name, (after calls).ownerOf path = some name ↔
      ∃ o ∈ accepted calls, path ∈ o.owned ∧ o.name = name := by
    intro path name
    rw [ownerOf_eq_some (pairwise_after calls), observers_after]
  refine ⟨?_, ?_, by rw [names, observers_after], ?_, owner, ?_⟩
  · intro earlier o
    simp only [register_eq_ok, exists_and_left, exists_eq, and_true, observers_after]
    rfl
  · intro earlier o later e rejected
    have same : (after earlier).enter o = after earlier := by simp [enter, rejected]
    calc after (earlier ++ o :: later)
        = later.foldl enter ((after earlier).enter o) := by
          rw [after, List.foldl_append, List.foldl_cons]
          rfl
      _ = after (earlier ++ later) := by
          rw [same, after, after, List.foldl_append]
  · intro i j hi hj p first q second comparable
    exact Observer.index_unique apart hi hj first second comparable
  · intro o member p owned q comparable unlisted
    cases found : (after calls).ownerOf q with
    | none => rfl
    | some name =>
      obtain ⟨other, memberOther, listed, -⟩ := (owner q name).mp found
      obtain rfl := Observer.eq_of_comparable apart member memberOther owned listed comparable
      exact absurd listed unlisted

def nested : Observer := .fixed "outer" [["audit"], ["audit", "policy"]] ⟨[], []⟩

/-- The beginning of an owned path has an owner where the observer lists it too. -/
theorem beginning_of_owned_path_has_owner :
    (after [nested]).names = ["outer"] ∧ ["audit", "policy"] ∈ nested.owned ∧
      ["audit"] <+: ["audit", "policy"] ∧ ["audit"] ≠ ["audit", "policy"] ∧
      (after [nested]).ownerOf ["audit"] = some "outer" := by
  decide

end Registry

end ObservedConfig
