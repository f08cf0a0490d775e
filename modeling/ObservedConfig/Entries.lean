/-! Finite maps as association lists in strictly increasing order of their keys, so that two maps
with the same bindings are the same list. `insert` and `erase` keep the order, and what `find?`
sees after either is stated without any assumption on the list. -/
namespace ObservedConfig.Entries

variable {κ α : Type}

def find? [DecidableEq κ] (key : κ) : List (κ × α) → Option α
  | [] => none
  | (other, value) :: rest => if key = other then some value else find? key rest

def insert [DecidableEq κ] [LT κ] [DecidableLT κ] (key : κ) (value : α) :
    List (κ × α) → List (κ × α)
  | [] => [(key, value)]
  | (other, former) :: rest =>
    if key = other then (key, value) :: rest
    else if key < other then (key, value) :: (other, former) :: rest
    else (other, former) :: insert key value rest

def erase [DecidableEq κ] (key : κ) : List (κ × α) → List (κ × α)
  | [] => []
  | (other, value) :: rest =>
    if key = other then erase key rest else (other, value) :: erase key rest

/-- The map holding the given bindings; of two bindings of one key the later one counts. -/
def ofList [DecidableEq κ] [LT κ] [DecidableLT κ] (bindings : List (κ × α)) : List (κ × α) :=
  bindings.foldl (fun entries binding => insert binding.1 binding.2 entries) []

def distinct [DecidableEq κ] [LT κ] [DecidableLT κ] (keys : List κ) : List κ :=
  (ofList (keys.map fun key => (key, ()))).map (·.1)

def Sorted [LT κ] (entries : List (κ × α)) : Prop :=
  entries.Pairwise fun a b => a.1 < b.1

section Lookup
variable [DecidableEq κ]

@[simp] theorem find?_nil (key : κ) : find? key ([] : List (κ × α)) = none := rfl

@[simp] theorem find?_erase_same (key : κ) (entries : List (κ × α)) :
    find? key (erase key entries) = none := by
  induction entries with
  | nil => rfl
  | cons entry rest ih =>
    by_cases h : key = entry.1 <;> simp [erase, find?, h]
    · simpa [h] using ih
    · exact ih

theorem find?_erase_other {key other : κ} (h : other ≠ key) (entries : List (κ × α)) :
    find? other (erase key entries) = find? other entries := by
  induction entries with
  | nil => rfl
  | cons entry rest ih =>
    by_cases same : key = entry.1
    · subst same; simp [erase, find?, h, ih]
    · simp [erase, find?, same, ih]

variable [LT κ] [DecidableLT κ]

@[simp] theorem find?_insert_same (key : κ) (value : α) (entries : List (κ × α)) :
    find? key (insert key value entries) = some value := by
  induction entries with
  | nil => simp [insert, find?]
  | cons entry rest ih =>
    by_cases same : key = entry.1
    · simp [insert, find?, same]
    · by_cases less : key < entry.1 <;> simp [insert, find?, same, less, ih]

theorem find?_insert_other {key other : κ} (h : other ≠ key) (value : α)
    (entries : List (κ × α)) :
    find? other (insert key value entries) = find? other entries := by
  induction entries with
  | nil => simp [insert, find?, h]
  | cons entry rest ih =>
    by_cases same : key = entry.1
    · subst same; simp [insert, find?, h]
    · by_cases less : key < entry.1 <;> simp [insert, find?, same, less, h, ih]

end Lookup

theorem mem_erase [DecidableEq κ] {key : κ} {entry : κ × α} {entries : List (κ × α)}
    (h : entry ∈ erase key entries) : entry ∈ entries := by
  induction entries with
  | nil => exact h
  | cons first rest ih =>
    by_cases same : key = first.1
    · simp only [erase, if_pos same] at h
      exact List.mem_cons_of_mem _ (ih h)
    · simp only [erase, if_neg same, List.mem_cons] at h
      exact h.elim (fun e => e ▸ List.mem_cons_self) fun m => List.mem_cons_of_mem _ (ih m)

theorem sorted_erase [DecidableEq κ] [LT κ] (key : κ) {entries : List (κ × α)}
    (sorted : Sorted entries) : Sorted (erase key entries) := by
  induction entries with
  | nil => exact sorted
  | cons first rest ih =>
    have ⟨before, tail⟩ := List.pairwise_cons.mp sorted
    by_cases same : key = first.1
    · simpa only [erase, if_pos same] using ih tail
    · simp only [erase, if_neg same]
      exact List.pairwise_cons.mpr ⟨fun entry m => before entry (mem_erase m), ih tail⟩

theorem mem_insert [DecidableEq κ] [LT κ] [DecidableLT κ] {key : κ} {value : α} {entry : κ × α}
    {entries : List (κ × α)} (h : entry ∈ insert key value entries) :
    entry = (key, value) ∨ entry ∈ entries := by
  induction entries with
  | nil => simpa [insert] using h
  | cons first rest ih =>
    by_cases same : key = first.1
    · simp only [insert, if_pos same, List.mem_cons] at h
      exact h.imp id (List.mem_cons_of_mem _)
    · by_cases less : key < first.1
      · simpa only [insert, if_neg same, if_pos less, List.mem_cons] using h
      · simp only [insert, if_neg same, if_neg less, List.mem_cons] at h
        rcases h with e | m
        · exact Or.inr (e ▸ List.mem_cons_self)
        · exact (ih m).imp id (List.mem_cons_of_mem _)

/-- Inserting keeps the order, for every order in which two keys are equal or one is the less. -/
theorem sorted_insert [DecidableEq κ] [LT κ] [DecidableLT κ]
    (transitive : ∀ a b c : κ, a < b → b < c → a < c)
    (connected : ∀ a b : κ, a ≠ b → ¬ a < b → b < a)
    (key : κ) (value : α) {entries : List (κ × α)} (sorted : Sorted entries) :
    Sorted (insert key value entries) := by
  induction entries with
  | nil => simp [insert, Sorted]
  | cons first rest ih =>
    have ⟨before, tail⟩ := List.pairwise_cons.mp sorted
    by_cases same : key = first.1
    · simp only [insert, if_pos same]
      exact List.pairwise_cons.mpr ⟨fun entry m => same ▸ before entry m, tail⟩
    · by_cases less : key < first.1
      · simp only [insert, if_neg same, if_pos less]
        refine List.pairwise_cons.mpr ⟨fun entry m => ?_, sorted⟩
        rcases List.mem_cons.mp m with e | m
        · exact e ▸ less
        · exact transitive _ _ _ less (before entry m)
      · simp only [insert, if_neg same, if_neg less]
        refine List.pairwise_cons.mpr ⟨fun entry m => ?_, ih tail⟩
        rcases mem_insert m with e | m
        · exact e ▸ connected _ _ same less
        · exact before entry m

end ObservedConfig.Entries
