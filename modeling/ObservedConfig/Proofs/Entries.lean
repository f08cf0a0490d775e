import ObservedConfig.Entries

/-! Sorted association lists as finite maps. What `find?` sees determines a sorted list, a binding
found in a list is a member of it, and `ofList` holds the last binding of each key. -/
namespace ObservedConfig.Entries

variable {κ α : Type}

theorem Sorted.tail [LT κ] {entry : κ × α} {rest : List (κ × α)} (sorted : Sorted (entry :: rest)) :
    Sorted rest :=
  (List.pairwise_cons.mp sorted).2

theorem Sorted.head_lt [LT κ] {entry other : κ × α} {rest : List (κ × α)}
    (sorted : Sorted (entry :: rest)) (member : other ∈ rest) : entry.1 < other.1 :=
  (List.pairwise_cons.mp sorted).1 other member

variable [DecidableEq κ]

theorem find?_cons (key : κ) (entry : κ × α) (rest : List (κ × α)) :
    find? key (entry :: rest) = if key = entry.1 then some entry.2 else find? key rest := rfl

@[simp] theorem find?_cons_same (entry : κ × α) (rest : List (κ × α)) :
    find? entry.1 (entry :: rest) = some entry.2 := by simp [find?_cons]

theorem find?_cons_other {key : κ} {entry : κ × α} (h : key ≠ entry.1) (rest : List (κ × α)) :
    find? key (entry :: rest) = find? key rest := by simp [find?_cons, h]

theorem mem_of_find? {key : κ} {value : α} {entries : List (κ × α)}
    (found : find? key entries = some value) : (key, value) ∈ entries := by
  induction entries with
  | nil => simp at found
  | cons entry rest ih =>
    by_cases same : key = entry.1
    · subst same
      rw [find?_cons_same] at found
      cases found
      exact List.mem_cons_self
    · rw [find?_cons_other same] at found
      exact List.mem_cons_of_mem _ (ih found)

theorem find?_append (key : κ) (first second : List (κ × α)) :
    find? key (first ++ second) = (find? key first).or (find? key second) := by
  induction first with
  | nil => rfl
  | cons entry rest ih =>
    by_cases same : key = entry.1
    · subst same
      simp
    · simp [find?_cons_other same, ih]

theorem find?_map {β : Type} (key : κ) (f : α → β) (entries : List (κ × α)) :
    find? key (entries.map fun entry => (entry.1, f entry.2)) = (find? key entries).map f := by
  induction entries with
  | nil => rfl
  | cons entry rest ih =>
    by_cases same : key = entry.1
    · subst same
      simp [find?_cons]
    · simp [find?_cons, same, ih]

theorem erase_of_absent {key : κ} {entries : List (κ × α)}
    (absent : find? key entries = none) : erase key entries = entries := by
  induction entries with
  | nil => rfl
  | cons first rest ih =>
    by_cases same : key = first.1
    · simp [find?_cons, same] at absent
    · rw [find?_cons_other same] at absent
      simp [erase, same, ih absent]

theorem find?_eq_none_of_not_mem {key : κ} {entries : List (κ × α)}
    (absent : key ∉ entries.map (·.1)) : find? key entries = none := by
  cases found : find? key entries with
  | none => rfl
  | some value => exact absurd (List.mem_map_of_mem (mem_of_find? found)) absent

section Sorted
variable [LT κ]

/-- The first key of a sorted list does not come again. -/
theorem Sorted.find?_tail (asymmetric : ∀ a b : κ, a < b → ¬ b < a) {entry : κ × α}
    {rest : List (κ × α)} (sorted : Sorted (entry :: rest)) : find? entry.1 rest = none := by
  cases found : find? entry.1 rest with
  | none => rfl
  | some value =>
    have less := sorted.head_lt (mem_of_find? found)
    exact absurd less (asymmetric _ _ less)

theorem Sorted.find?_of_mem (asymmetric : ∀ a b : κ, a < b → ¬ b < a) {key : κ} {value : α}
    {entries : List (κ × α)} (sorted : Sorted entries) (member : (key, value) ∈ entries) :
    find? key entries = some value := by
  induction entries with
  | nil => cases member
  | cons entry rest ih =>
    rcases List.mem_cons.mp member with rfl | later
    · exact find?_cons_same (key, value) rest
    · have less := sorted.head_lt later
      have different : key ≠ entry.1 := by
        rintro rfl
        exact asymmetric _ _ less less
      rw [find?_cons_other different]
      exact ih sorted.tail later

/-- Sorted lists with the same bindings are the same list. -/
theorem Sorted.ext (asymmetric : ∀ a b : κ, a < b → ¬ b < a) {first second : List (κ × α)}
    (sortedFirst : Sorted first) (sortedSecond : Sorted second)
    (same : ∀ key, find? key first = find? key second) : first = second := by
  induction first generalizing second with
  | nil =>
    cases second with
    | nil => rfl
    | cons entry rest =>
      have h := same entry.1
      simp at h
  | cons a rest ih =>
    cases second with
    | nil =>
      have h := same a.1
      simp at h
    | cons b rest' =>
      have equal : a.1 = b.1 := by
        by_cases equal : a.1 = b.1
        · exact equal
        · -- Each head would have to stand behind the other one.
          have inSecond := same a.1
          rw [find?_cons_same, find?_cons_other equal] at inSecond
          have inFirst := same b.1
          rw [find?_cons_same, find?_cons_other (Ne.symm equal)] at inFirst
          have less := sortedSecond.head_lt (mem_of_find? inSecond.symm)
          exact absurd (sortedFirst.head_lt (mem_of_find? inFirst)) (asymmetric _ _ less)
      have values := same a.1
      rw [find?_cons_same, equal, find?_cons_same] at values
      obtain rfl : a = b := Prod.ext equal (Option.some.inj values)
      have rests : rest = rest' := by
        apply ih sortedFirst.tail sortedSecond.tail
        intro key
        by_cases h : key = a.1
        · rw [h, sortedFirst.find?_tail asymmetric, sortedSecond.find?_tail asymmetric]
        · simpa only [find?_cons_other h] using same key
      rw [rests]

variable [DecidableLT κ]

/-- Bindings with distinct keys are found in the map as they are found in the list. -/
theorem find?_ofList {bindings : List (κ × α)} (distinct : (bindings.map (·.1)).Nodup) (key : κ) :
    find? key (ofList bindings) = find? key bindings := by
  suffices general : ∀ entries : List (κ × α),
      find? key (bindings.foldl (fun entries binding => insert binding.1 binding.2 entries) entries)
        = (find? key bindings).or (find? key entries) by
    simpa [ofList] using general []
  induction bindings with
  | nil => simp
  | cons binding rest ih =>
    intro entries
    obtain ⟨fresh, restDistinct⟩ := List.nodup_cons.mp distinct
    rw [List.foldl_cons, ih restDistinct]
    by_cases same : key = binding.1
    · subst same
      simp [find?_eq_none_of_not_mem fresh]
    · rw [find?_insert_other same, find?_cons_other same]

theorem perm_insert {key : κ} {value : α} {entries : List (κ × α)}
    (fresh : key ∉ entries.map Prod.fst) :
    (insert key value entries).Perm ((key, value) :: entries) := by
  induction entries with
  | nil => exact .rfl
  | cons entry rest ih =>
    obtain ⟨different, later⟩ : key ≠ entry.1 ∧ key ∉ rest.map Prod.fst := by simpa using fresh
    rw [insert, if_neg different]
    split
    next => exact .rfl
    next => exact ((ih later).cons entry).trans (.swap _ _ _)

/-- Bindings with distinct keys are only put in order. -/
theorem perm_ofList {bindings : List (κ × α)} (distinct : (bindings.map Prod.fst).Nodup) :
    (ofList bindings).Perm bindings := by
  suffices general : ∀ entries : List (κ × α), ((bindings ++ entries).map Prod.fst).Nodup →
      (bindings.foldl (fun entries binding => insert binding.1 binding.2 entries) entries).Perm
        (bindings ++ entries) by
    simpa [ofList] using general [] (by simpa using distinct)
  clear distinct
  induction bindings with
  | nil => exact fun entries _ => .rfl
  | cons binding rest ih =>
    intro entries distinct
    obtain ⟨fresh, others⟩ := List.nodup_cons.mp distinct
    have inserted : (insert binding.1 binding.2 entries).Perm (binding :: entries) :=
      perm_insert fun listed => fresh (by simp_all)
    have moved : (rest ++ insert binding.1 binding.2 entries).Perm (binding :: (rest ++ entries)) :=
      (inserted.append_left rest).trans List.perm_middle
    exact (ih _ ((moved.map Prod.fst).nodup_iff.mpr distinct)).trans moved

end Sorted

section Strings

theorem lt_asymmetric (a b : String) (h : a < b) : ¬ b < a := String.lt_asymm h

theorem lt_connected (a b : String) (different : a ≠ b) (h : ¬ a < b) : b < a := by
  by_cases less : b < a
  · exact less
  · exact absurd (String.le_antisymm (String.not_lt.mp less) (String.not_lt.mp h)) different

theorem sorted_insert_name (name : String) (value : α) {entries : List (String × α)}
    (sorted : Sorted entries) : Sorted (insert name value entries) :=
  sorted_insert (fun _ _ _ => String.lt_trans) lt_connected name value sorted

/-- Binding a key again in a map that agrees with another one elsewhere gives the other map. -/
theorem insert_eq {name : String} {value : α} {entries others : List (String × α)}
    (sorted : Sorted entries) (sortedOthers : Sorted others)
    (bound : find? name others = some value)
    (elsewhere : ∀ key, key ≠ name → find? key entries = find? key others) :
    insert name value entries = others := by
  refine Sorted.ext lt_asymmetric (sorted_insert_name name value sorted) sortedOthers fun key => ?_
  by_cases same : key = name
  · subst same
    rw [find?_insert_same, bound]
  · rw [find?_insert_other same, elsewhere key same]

theorem insert_self {name : String} {value : α} {entries : List (String × α)}
    (sorted : Sorted entries) (bound : find? name entries = some value) :
    insert name value entries = entries :=
  insert_eq sorted sorted bound fun _ _ => rfl

theorem mem_ofList {bindings : List (String × α)} {entry : String × α}
    (member : entry ∈ ofList bindings) : entry ∈ bindings := by
  suffices general : ∀ entries, entry ∈ bindings.foldl (fun entries binding =>
      insert binding.1 binding.2 entries) entries → entry ∈ entries ∨ entry ∈ bindings by
    simpa using general [] member
  clear member
  induction bindings with
  | nil => simp
  | cons first rest ih =>
    intro entries member
    rcases ih _ member with inserted | later
    · rcases mem_insert inserted with rfl | former
      · exact .inr List.mem_cons_self
      · exact .inl former
    · exact .inr (List.mem_cons_of_mem _ later)

theorem sorted_ofList_names (bindings : List (String × α)) : Sorted (ofList bindings) := by
  suffices general : ∀ entries : List (String × α), Sorted entries → Sorted
      (bindings.foldl (fun entries binding => insert binding.1 binding.2 entries) entries) by
    exact general [] List.Pairwise.nil
  induction bindings with
  | nil => exact fun _ ordered => ordered
  | cons binding rest ih => exact fun _ ordered => ih _ (sorted_insert_name _ _ ordered)

/-- A map is the map of its own bindings. -/
theorem ofList_of_sorted {entries : List (String × α)} (sorted : Sorted entries) :
    ofList entries = entries := by
  have distinct : (entries.map (·.1)).Nodup :=
    List.pairwise_map.mpr (sorted.imp String.ne_of_lt)
  exact (sorted_ofList_names entries).ext lt_asymmetric sorted (find?_ofList distinct)

end Strings

end ObservedConfig.Entries
