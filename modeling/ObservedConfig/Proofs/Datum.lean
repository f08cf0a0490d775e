import Mathlib.Data.List.Forall2
import ObservedConfig.Datum
import ObservedConfig.Entries
import ObservedConfig.Tree

/-! Document values: induction over all their parts, the form and the size that a value has
throughout, what stands at a path, what a text format has to convey, and when two values differ in
the order of members only. -/
namespace ObservedConfig.Datum

theorem induction {motive : Datum → Prop} (null : motive .null)
    (bool : ∀ value, motive (.bool value)) (int : ∀ value, motive (.int value))
    (float : ∀ value, motive (.float value)) (text : ∀ value, motive (.text value))
    (seq : ∀ items, (∀ item ∈ items, motive item) → motive (.seq items))
    (map : ∀ entries, (∀ entry ∈ entries, motive entry.2) → motive (.map entries))
    (tagged : ∀ tag content, motive content → motive (.tagged tag content)) (d : Datum) :
    motive d := by
  refine @Datum.rec motive (fun items => ∀ item ∈ items, motive item)
    (fun entries => ∀ entry ∈ entries, motive entry.2) (fun entry => motive entry.2)
    null bool int float text seq map tagged ?_ ?_ ?_ ?_ ?_ d
  · simp
  · intro head rest here there
    exact List.forall_mem_cons.mpr ⟨here, there⟩
  · simp
  · intro head rest here there
    exact List.forall_mem_cons.mpr ⟨here, there⟩
  · intro key value _ here
    exact here

def last? (name : String) : List (Datum × Datum) → Option Datum
  | [] => none
  | (.text key, value) :: rest => (last? name rest).or (if name = key then some value else none)
  | _ :: rest => last? name rest

theorem mem_of_last? {name : String} {value : Datum} {entries : List (Datum × Datum)}
    (last : last? name entries = some value) : (.text name, value) ∈ entries := by
  induction entries with
  | nil => cases last
  | cons entry rest ih =>
    unfold last? at last
    split at last
    next nil => cases nil
    next key other tail same =>
      obtain ⟨rfl, rfl⟩ := List.cons.inj same
      rcases Option.or_eq_some_iff.mp last with later | ⟨-, here⟩
      · exact List.mem_cons_of_mem _ (ih later)
      · split at here
        next equal =>
          cases here
          simp [equal]
        next => cases here
    next tail _ same =>
      obtain ⟨rfl, rfl⟩ := List.cons.inj same
      exact List.mem_cons_of_mem _ (ih last)

theorem fits64_of_fitsInt64 {i : Int} (signed : fitsInt64 i = true) : fits64 i = true := by
  simp only [fitsInt64, fits64, Bool.and_eq_true, decide_eq_true_eq] at signed ⊢
  omega

/-- What has the form of a node: booleans, numbers, texts, sequences of texts, and maps from texts
to such data. -/
inductive FormsNode : Datum → Prop
  | bool (b : Bool) : FormsNode (.bool b)
  | int (i : Int) : FormsNode (.int i)
  | float (x : Binary64) : FormsNode (.float x)
  | text (s : String) : FormsNode (.text s)
  | seq {items : List Datum} (texts : ∀ item ∈ items, ∃ s, item = .text s) : FormsNode (.seq items)
  | map {entries : List (Datum × Datum)} (names : ∀ entry ∈ entries, ∃ name, entry.1 = .text name)
      (values : ∀ entry ∈ entries, FormsNode entry.2) : FormsNode (.map entries)

/-- Every integer in a datum fits 64 bits, with or without a sign. -/
inductive Narrow : Datum → Prop
  | null : Narrow .null
  | bool (b : Bool) : Narrow (.bool b)
  | int (i : Int) (fits : fits64 i = true) : Narrow (.int i)
  | float (x : Binary64) : Narrow (.float x)
  | text (s : String) : Narrow (.text s)
  | seq {items : List Datum} (each : ∀ item ∈ items, Narrow item) : Narrow (.seq items)
  | map {entries : List (Datum × Datum)} (each : ∀ entry ∈ entries, Narrow entry.2) :
    Narrow (.map entries)
  | tagged (tag : String) {content : Datum} (inner : Narrow content) : Narrow (.tagged tag content)

/-- Texts, null and booleans, sequences of such data, and objects of such data with different
names. -/
inductive Textual : Datum → Prop
  | null : Textual .null
  | bool (b : Bool) : Textual (.bool b)
  | text (s : String) : Textual (.text s)
  | seq {items : List Datum} (each : ∀ item ∈ items, Textual item) : Textual (.seq items)
  | object {fields : List (String × Datum)} (distinct : (fields.map Prod.fst).Nodup)
      (each : ∀ field ∈ fields, Textual field.2) : Textual (.object fields)

/-- The datum at a path that starts from another one. In a map the last value of a name counts. -/
def at? : Datum → Path → Option Datum
  | d, [] => some d
  | .map entries, name :: rest => (last? name entries).bind fun d => d.at? rest
  | _, _ :: _ => none

theorem allTexts?_eq_some {items : List Datum} {values : List String} :
    allTexts? items = some values ↔ items = values.map .text := by
  constructor
  · intro all
    induction items generalizing values with
    | nil =>
      cases all
      rfl
    | cons item rest ih =>
      unfold allTexts? at all
      split at all
      next nil => cases nil
      next s tail same =>
        obtain ⟨rfl, rfl⟩ := List.cons.inj same
        obtain ⟨others, later, rfl⟩ := Option.map_eq_some_iff.mp all
        rw [ih later, List.map_cons]
      next => cases all
  · rintro rfl
    exact allTexts?_map values

theorem exists_allTexts? {items : List Datum} :
    (∃ values, allTexts? items = some values) ↔ ∀ item ∈ items, ∃ s, item = .text s := by
  induction items with
  | nil => simp [allTexts?]
  | cons item rest ih =>
    rw [List.forall_mem_cons, ← ih]
    cases item with
    | text s =>
      simp only [allTexts?, ← Option.isSome_iff_exists, Option.isSome_map]
      simp
    | null | bool | int | float | seq | map | tagged => simp [allTexts?]

/-- What a text format makes of a datum that is written and read again. It conveys texts, booleans,
integers of 64 bits and finite floating point values as they are, and containers part by part. -/
structure Faithful (convey : Datum → Datum) : Prop where
  text : ∀ s, convey (.text s) = .text s
  bool : ∀ b, convey (.bool b) = .bool b
  int : ∀ i, fitsInt64 i = true → convey (.int i) = .int i
  float : ∀ x, x.isFinite = true → convey (.float x) = .float x
  seq : ∀ items, convey (.seq items) = .seq (items.map convey)
  object : ∀ fields : List (String × Datum), Entries.Sorted fields →
    convey (.object fields) = .object (fields.map fun field => (field.1, convey field.2))

/-- The same value, but for the order in which the members of objects stand. -/
inductive Rearranged : Datum → Datum → Prop
  | same (d : Datum) : Rearranged d d
  | seq {items others : List Datum} (each : List.Forall₂ Rearranged items others) :
    Rearranged (.seq items) (.seq others)
  | object {fields others moved : List (String × Datum)}
      (names : fields.map Prod.fst = others.map Prod.fst)
      (each : List.Forall₂ Rearranged (fields.map Prod.snd) (others.map Prod.snd))
      (order : moved.Perm others) : Rearranged (.object fields) (.object moved)

theorem object_injective {fields others : List (String × Datum)}
    (same : object fields = object others) : fields = others := by
  refine List.map_injective_iff.mpr ?_ (Datum.map.inj same)
  rintro ⟨name, value⟩ ⟨other, value'⟩ equal
  simpa using equal

def SameMember (field other : String × Datum) : Prop :=
  field.1 = other.1 ∧ field.2.Rearranged other.2

theorem names_eq {fields others : List (String × Datum)}
    (same : List.Forall₂ SameMember fields others) :
    fields.map Prod.fst = others.map Prod.fst := by
  induction same with
  | nil => rfl
  | cons here later ih => rw [List.map_cons, List.map_cons, here.1, ih]

namespace Rearranged

theorem eq_text {s : String} {d : Datum} (moved : Rearranged (.text s) d) : d = .text s := by
  generalize written : Datum.text s = w at moved
  cases moved with
  | same => rfl
  | seq => cases written
  | object => cases written

theorem eq_null {d : Datum} (moved : Rearranged .null d) : d = .null := by
  generalize written : Datum.null = w at moved
  cases moved with
  | same => rfl
  | seq => cases written
  | object => cases written

theorem of_seq {items : List Datum} {d : Datum} (moved : Rearranged (.seq items) d) :
    ∃ others, d = .seq others ∧ List.Forall₂ Rearranged items others := by
  generalize written : Datum.seq items = w at moved
  cases moved with
  | same =>
    subst written
    exact ⟨items, rfl, List.forall₂_same.mpr fun item _ => .same item⟩
  | seq each =>
    cases written
    exact ⟨_, rfl, each⟩
  | object => cases written

theorem of_object {fields : List (String × Datum)} {d : Datum}
    (moved : Rearranged (.object fields) d) : ∃ others members, d = .object members ∧
      List.Forall₂ SameMember fields others ∧ members.Perm others := by
  generalize written : Datum.object fields = w at moved
  cases moved with
  | same =>
    subst written
    exact ⟨fields, fields, rfl, List.forall₂_same.mpr fun field _ => ⟨rfl, .same _⟩, .rfl⟩
  | seq => cases written
  | @object fields' others members names each order =>
    obtain rfl := object_injective written
    refine ⟨others, members, rfl, ?_, order⟩
    clear order written
    induction fields generalizing others with
    | nil =>
      obtain rfl := List.map_eq_nil_iff.mp names.symm
      exact .nil
    | cons field rest ih =>
      obtain ⟨other, others', rfl, same, names⟩ := List.map_eq_cons_iff.mp names.symm
      obtain ⟨here, each⟩ := List.forall₂_cons.mp each
      exact .cons ⟨same.symm, here⟩ (ih names.symm each)

end Rearranged

end ObservedConfig.Datum
