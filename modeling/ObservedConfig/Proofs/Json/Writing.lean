import Mathlib.Data.List.Basic
import ObservedConfig.Json.Printer
import ObservedConfig.Json.Reader
import ObservedConfig.Proofs.Datum
import ObservedConfig.Proofs.Entries

/-! JSON text that is read again. A text keeps a value but for what JSON has no notation for, and
puts the names of objects in order. That is what values without numbers are read back as from their
text; the texts in them may hold any characters. -/
namespace ObservedConfig.Json

mutual

/-- What JSON text keeps of a value: names in order, null for what is no finite number, no tags, and
no entries whose keys are not texts. -/
def held : Datum → Datum
  | .float x => if x.isFinite then .float x else .null
  | .seq items => .seq (heldItems items)
  | .map entries => .object (Entries.ofList (heldEntries entries))
  | .tagged _ content => held content
  | d => d

def heldItems : List Datum → List Datum
  | [] => []
  | item :: rest => held item :: heldItems rest

def heldEntries : List (Datum × Datum) → List (String × Datum)
  | [] => []
  | (.text name, value) :: rest => (name, held value) :: heldEntries rest
  | _ :: rest => heldEntries rest

end

theorem heldItems_eq (items : List Datum) : heldItems items = items.map held := by
  induction items with
  | nil => rfl
  | cons item rest ih => rw [heldItems, ih, List.map_cons]

theorem heldEntries_eq (fields : List (String × Datum)) :
    heldEntries (fields.map fun (name, value) => (.text name, value)) =
      fields.map fun field => (field.1, held field.2) := by
  induction fields with
  | nil => rfl
  | cons field rest ih => simp only [List.map_cons, heldEntries, ih]

theorem faithful_held : Datum.Faithful held where
  text _ := rfl
  bool _ := rfl
  int _ _ := rfl
  float _ finite := by rw [held, if_pos finite]
  seq items := by rw [held, heldItems_eq]
  object fields sorted := by
    have kept : Entries.Sorted (fields.map fun field => (field.1, held field.2)) :=
      List.pairwise_map.mpr sorted
    rw [Datum.object, held, heldEntries_eq, Entries.ofList_of_sorted kept]

/-- Of data without numbers all is kept but the order of members. -/
theorem rearranged_held {d : Datum} (textual : d.Textual) : d.Rearranged (held d) := by
  induction textual with
  | null => exact .same _
  | bool b => exact .same _
  | text s => exact .same _
  | @seq items _ each =>
    rw [held, heldItems_eq]
    exact .seq (List.forall₂_map_right_iff.mpr (List.forall₂_same.mpr each))
  | @object fields distinct _ each =>
    rw [Datum.object, held, heldEntries_eq]
    have names : (fields.map fun field => (field.1, held field.2)).map Prod.fst =
        fields.map Prod.fst := by simp
    refine .object names.symm ?_ (Entries.perm_ofList (names ▸ distinct))
    simp only [List.map_map, List.forall₂_map_left_iff, List.forall₂_map_right_iff,
      Function.comp_apply]
    exact List.forall₂_same.mpr each

theorem hexUnit?_append {digits : List Char} (four : digits.length = 4) (rest : List Char) :
    hexUnit? (digits ++ rest) = (Text.natural? 16 digits).map fun n => (n, rest) := by
  rcases digits with _ | ⟨a, _ | ⟨b, _ | ⟨c, _ | ⟨d, _ | ⟨e, more⟩⟩⟩⟩⟩
  · cases four
  · cases four
  · cases four
  · cases four
  · rfl
  · simp at four

/-- Control characters are written with four digits. -/
theorem unicodeEscape?_control {c : Char} (control : c.toNat < 0x20) (rest : List Char) :
    unicodeEscape? ((Text.hex c.toNat 4).toList ++ rest) = some (c, rest) := by
  have digits : ∀ n < 0x20, (Text.hex n 4).toList.length = 4 ∧
      Text.natural? 16 (Text.hex n 4).toList = some n := by decide +kernel
  obtain ⟨four, value⟩ := digits c.toNat control
  have high : isHighSurrogate c.toNat = false := by simp [isHighSurrogate]; omega
  have low : isLowSurrogate c.toNat = false := by simp [isLowSurrogate]; omega
  simp [unicodeEscape?, hexUnit?_append four, value, high, low]

theorem string?_escapeChar (c : Char) (fuel : Nat) (rest done : List Char) :
    string? (fuel + 1) ((escapeChar c).toList ++ rest) done = string? fuel rest (c :: done) := by
  unfold escapeChar
  split
  · rfl
  · rfl
  · rfl
  · rfl
  · rfl
  · rfl
  · rfl
  next quote backslash _ _ _ _ _ =>
    split
    next control =>
      simp [string?, unicodeEscape?_control control]
    next visible =>
      simp only [Char.toString, String.toList_singleton, List.singleton_append, string?]
      split
      next same => exact (quote (List.cons.inj same).1).elim
      next same => exact (backslash (List.cons.inj same).1).elim
      next same => exact (backslash (List.cons.inj same).1).elim
      next same =>
        obtain ⟨rfl, rfl⟩ := List.cons.inj same
        rw [if_neg visible]
      next same => cases same

/-- The text of a string is read back character by character. -/
theorem string?_escaped {cs : List Char} {fuel : Nat} (enough : cs.length < fuel)
    (rest done : List Char) :
    string? fuel (cs.flatMap (fun c => (escapeChar c).toList) ++ '"' :: rest) done =
      some (String.ofList (done.reverse ++ cs), rest) := by
  induction cs generalizing fuel done with
  | nil =>
    obtain ⟨fuel, rfl⟩ := Nat.exists_eq_succ_of_ne_zero (Nat.ne_of_gt enough)
    simp [string?]
  | cons c cs ih =>
    obtain ⟨fuel, rfl⟩ : ∃ n, fuel = n + 1 := ⟨fuel - 1, by omega⟩
    rw [List.flatMap_cons, List.append_assoc, string?_escapeChar,
      ih (Nat.lt_of_succ_lt_succ enough)]
    simp

theorem toList_quote (s : String) :
    (quote s).toList = '"' :: (s.toList.flatMap (fun c => (escapeChar c).toList) ++ ['"']) := by
  simp [quote, String.toList_join, List.flatMap_map]

theorem length_le_escaped (cs : List Char) :
    cs.length ≤ (cs.flatMap fun c => (escapeChar c).toList).length := by
  induction cs with
  | nil => simp
  | cons c cs ih =>
    have some : 0 < (escapeChar c).toList.length := by
      unfold escapeChar
      split <;> try decide
      split <;> simp [Char.toString]
    simp only [List.flatMap_cons, List.length_append, List.length_cons]
    omega

theorem string?_quote (s : String) (rest : List Char) : ∃ tail,
    (quote s).toList ++ rest = '"' :: tail ∧ string? tail.length tail [] = some (s, rest) := by
  refine ⟨s.toList.flatMap (fun c => (escapeChar c).toList) ++ '"' :: rest, ?_, ?_⟩
  · simp [toList_quote]
  · rw [string?_escaped]
    · simp
    · have := length_le_escaped s.toList
      simp only [List.length_append, List.length_cons]
      omega

theorem skipSpace_cons {c : Char} (visible : isSpace c = false) (rest : List Char) :
    skipSpace (c :: rest) = c :: rest := by
  simp [skipSpace, visible]

theorem compactItems_eq (items : List Datum) : compactItems items = items.map compact := by
  induction items with
  | nil => rfl
  | cons item rest ih => rw [compactItems, ih, List.map_cons]

def member (field : String × Datum) : String := quote field.1 ++ ":" ++ compact field.2

theorem compactEntries_eq (fields : List (String × Datum)) :
    compactEntries (fields.map fun (name, value) => (.text name, value)) = fields.map member := by
  induction fields with
  | nil => rfl
  | cons field rest ih => simp only [List.map_cons, compactEntries, ih, member]

theorem member_head (field : String × Datum) :
    ∃ rest, (member field).toList = '"' :: rest :=
  ⟨_, by simp [member, toList_quote]; rfl⟩

/-- The text of a value starts with a character that is neither a space nor the end of an array. -/
theorem compact_head {d : Datum} (textual : d.Textual) : ∃ c rest,
    (compact d).toList = c :: rest ∧ isSpace c = false ∧ c ≠ ']' := by
  cases textual with
  | null => exact ⟨'n', _, rfl, rfl, by decide⟩
  | bool b => cases b with
    | false => exact ⟨'f', _, rfl, rfl, by decide⟩
    | true => exact ⟨'t', _, rfl, rfl, by decide⟩
  | text s => exact ⟨'"', _, toList_quote s, rfl, by decide⟩
  | seq => exact ⟨'[', _, by simp [compact]; rfl, rfl, by decide⟩
  | object => exact ⟨'\x7b', _, by simp [compact, Datum.object]; rfl, rfl, by decide⟩

def ReadsBack (d : Datum) : Prop :=
  ∀ fuel rest, (compact d).toList.length < fuel →
    value? fuel ((compact d).toList ++ rest) = some (held d, rest)

theorem items?_item {d : Datum} (back : ReadsBack d) {fuel : Nat}
    (enough : (compact d).toList.length < fuel) (rest : List Char) :
    items? (fuel + 1) ((compact d).toList ++ rest) =
      match skipSpace rest with
      | ',' :: rest => (items? fuel rest).map fun (items, rest) => (held d :: items, rest)
      | ']' :: rest => some ([held d], rest)
      | _ => none := by
  rw [items?, back fuel _ enough]
  rfl

theorem items?_compact {items : List Datum} (each : ∀ item ∈ items, ReadsBack item)
    (nonempty : items ≠ []) {fuel : Nat} {rest : List Char}
    (enough : (",".intercalate (items.map compact)).toList.length + 1 < fuel) :
    items? fuel ((",".intercalate (items.map compact)).toList ++ ']' :: rest) =
      some (items.map held, rest) := by
  induction items generalizing fuel with
  | nil => exact absurd rfl nonempty
  | cons item others ih =>
    obtain ⟨here, later⟩ := List.forall_mem_cons.mp each
    obtain ⟨fuel, rfl⟩ : ∃ n, fuel = n + 1 := ⟨fuel - 1, by omega⟩
    cases others with
    | nil =>
      simp only [List.map_cons, List.map_nil, String.intercalate_singleton] at enough ⊢
      rw [items?_item here (by omega)]
      rfl
    | cons next tail =>
      have joined : (",".intercalate ((item :: next :: tail).map compact)).toList =
          (compact item).toList ++
            ',' :: (",".intercalate ((next :: tail).map compact)).toList := by
        simp [String.intercalate_cons_cons]
      simp only [joined, List.length_append, List.length_cons] at enough ⊢
      rw [List.append_assoc, items?_item here (by omega), List.cons_append, skipSpace_cons rfl]
      change (items? fuel _).map _ = _
      rw [ih later (List.cons_ne_nil next tail) (by omega)]
      rfl

theorem members?_member {field : String × Datum} (back : ReadsBack field.2) {fuel : Nat}
    (enough : (compact field.2).toList.length < fuel) (rest : List Char) :
    members? (fuel + 1) ((member field).toList ++ rest) =
      match skipSpace rest with
      | ',' :: rest =>
        (members? fuel rest).map fun (members, rest) => ((field.1, held field.2) :: members, rest)
      | '\x7d' :: rest => some ([(field.1, held field.2)], rest)
      | _ => none := by
  obtain ⟨tail, starts, string⟩ := string?_quote field.1 (':' :: ((compact field.2).toList ++ rest))
  have whole : (member field).toList ++ rest = '"' :: tail := by
    rw [← starts]
    simp [member]
  rw [whole, members?, skipSpace_cons rfl]
  change (string? tail.length tail []).bind _ = _
  rw [string]
  change (value? fuel _).bind _ = _
  rw [back fuel _ enough]
  rfl

theorem members?_compact {fields : List (String × Datum)}
    (each : ∀ field ∈ fields, ReadsBack field.2) (nonempty : fields ≠ []) {fuel : Nat}
    {rest : List Char}
    (enough : (",".intercalate (fields.map member)).toList.length + 1 < fuel) :
    members? fuel ((",".intercalate (fields.map member)).toList ++ '\x7d' :: rest) =
      some (fields.map (fun field => (field.1, held field.2)), rest) := by
  induction fields generalizing fuel with
  | nil => exact absurd rfl nonempty
  | cons field others ih =>
    obtain ⟨here, later⟩ := List.forall_mem_cons.mp each
    obtain ⟨fuel, rfl⟩ : ∃ n, fuel = n + 1 := ⟨fuel - 1, by omega⟩
    have shorter : (compact field.2).toList.length ≤ (member field).toList.length := by
      simp [member]
      omega
    cases others with
    | nil =>
      simp only [List.map_cons, List.map_nil, String.intercalate_singleton] at enough ⊢
      rw [members?_member here (by omega)]
      rfl
    | cons next tail =>
      have joined : (",".intercalate ((field :: next :: tail).map member)).toList =
          (member field).toList ++ ',' :: (",".intercalate ((next :: tail).map member)).toList := by
        simp [String.intercalate_cons_cons]
      simp only [joined, List.length_append, List.length_cons] at enough ⊢
      rw [List.append_assoc, members?_member here (by omega), List.cons_append, skipSpace_cons rfl]
      change (members? fuel _).map _ = _
      rw [ih later (List.cons_ne_nil next tail) (by omega)]
      rfl

theorem exists_intercalate_eq_cons {s : String} {c : Char} {tail : List Char}
    (starts : s.toList = c :: tail) (others : List String) :
    ∃ rest, (",".intercalate (s :: others)).toList = c :: rest := by
  cases others with
  | nil => exact ⟨tail, by simp [starts]⟩
  | cons next others => exact ⟨_, by simp [String.intercalate_cons_cons, starts]; rfl⟩

theorem value?_seq {c : Char} (visible : isSpace c = false) (different : c ≠ ']') (fuel : Nat)
    (rest : List Char) : value? (fuel + 1) ('[' :: c :: rest) =
      (items? fuel (c :: rest)).map fun (items, rest) => (.seq items, rest) := by
  have bracket : isSpace '[' = false := rfl
  simp [value?, skipSpace_cons bracket, skipSpace_cons visible, different]

theorem value?_object (fuel : Nat) (rest : List Char) :
    value? (fuel + 1) ('\x7b' :: '"' :: rest) =
      (members? fuel ('"' :: rest)).map fun (members, rest) =>
        (.object (Entries.ofList members), rest) := rfl

theorem readsBack_text (s : String) : ReadsBack (.text s) := by
  intro fuel rest enough
  obtain ⟨fuel, rfl⟩ : ∃ n, fuel = n + 1 := ⟨fuel - 1, by omega⟩
  obtain ⟨tail, starts, string⟩ := string?_quote s rest
  change value? (fuel + 1) ((quote s).toList ++ rest) = _
  rw [starts, value?, skipSpace_cons rfl]
  change (string? tail.length tail []).map _ = _
  rw [string]
  rfl

theorem readsBack_seq {items : List Datum} (textual : ∀ item ∈ items, item.Textual)
    (each : ∀ item ∈ items, ReadsBack item) : ReadsBack (.seq items) := by
  intro fuel rest enough
  obtain ⟨fuel, rfl⟩ : ∃ n, fuel = n + 1 := ⟨fuel - 1, by omega⟩
  have text : (compact (.seq items)).toList =
      '[' :: (",".intercalate (items.map compact)).toList ++ [']'] := by
    simp [compact, compactItems_eq]
  simp only [text, List.length_append, List.length_cons, List.length_nil] at enough
  rw [text, List.append_assoc, List.singleton_append, List.cons_append, held, heldItems_eq]
  cases items with
  | nil => rfl
  | cons item others =>
    obtain ⟨c, _, starts, visible, different⟩ := compact_head (textual item List.mem_cons_self)
    obtain ⟨tail, inner⟩ := exists_intercalate_eq_cons starts (others.map compact)
    have spaced : (",".intercalate ((item :: others).map compact)).toList ++ ']' :: rest =
        c :: (tail ++ ']' :: rest) := by rw [List.map_cons, inner, List.cons_append]
    rw [spaced, value?_seq visible different, ← spaced,
      items?_compact each (List.cons_ne_nil item others) (by omega)]
    rfl

theorem readsBack_object {fields : List (String × Datum)}
    (each : ∀ field ∈ fields, ReadsBack field.2) : ReadsBack (.object fields) := by
  intro fuel rest enough
  obtain ⟨fuel, rfl⟩ : ∃ n, fuel = n + 1 := ⟨fuel - 1, by omega⟩
  have text : (compact (.object fields)).toList =
      '\x7b' :: (",".intercalate (fields.map member)).toList ++ ['\x7d'] := by
    simp [compact, Datum.object, compactEntries_eq]
  simp only [text, List.length_append, List.length_cons, List.length_nil] at enough
  rw [text, List.append_assoc, List.singleton_append, List.cons_append, Datum.object, held,
    heldEntries_eq]
  cases fields with
  | nil => rfl
  | cons field others =>
    obtain ⟨_, starts⟩ := member_head field
    obtain ⟨tail, inner⟩ := exists_intercalate_eq_cons starts (others.map member)
    have spaced : (",".intercalate ((field :: others).map member)).toList ++ '\x7d' :: rest =
        '"' :: (tail ++ '\x7d' :: rest) := by rw [List.map_cons, inner, List.cons_append]
    rw [spaced, value?_object, ← spaced,
      members?_compact each (List.cons_ne_nil field others) (by omega)]
    rfl

theorem readsBack {d : Datum} (textual : d.Textual) : ReadsBack d := by
  induction textual with
  | null =>
    intro fuel rest enough
    obtain ⟨fuel, rfl⟩ : ∃ n, fuel = n + 1 := ⟨fuel - 1, by omega⟩
    rfl
  | bool b =>
    intro fuel rest enough
    obtain ⟨fuel, rfl⟩ : ∃ n, fuel = n + 1 := ⟨fuel - 1, by omega⟩
    cases b <;> rfl
  | text s => exact readsBack_text s
  | seq textual each => exact readsBack_seq textual each
  | object _ _ each => exact readsBack_object each

/-- JSON text of data without numbers is read as the same data with the names in order. -/
theorem read?_compact {d : Datum} (textual : d.Textual) : read? (compact d) = some (held d) := by
  have back := readsBack textual ((compact d).toList.length + 1) [] (by omega)
  rw [List.append_nil] at back
  simp only [read?, back]
  rfl

end ObservedConfig.Json
