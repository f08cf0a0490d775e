import Mathlib.Data.List.Perm.Basic
import ObservedConfig.Datum.Shape
import ObservedConfig.Proofs.Json.Writing
import ObservedConfig.Proofs.Result

/-! Reading back what is written. A reader restores a value when it reads it from what is written
for it, however the members of the objects in there are arranged, and so also from JSON text. A list
is restored where its items are. So is a record, if all its fields are written and it does not
matter in which order they are set. -/
namespace ObservedConfig

variable {α ρ : Type}

/-- What is written for a value is read as that value again. -/
structure Read.Restores (read : Read α) (write : α → Datum) : Prop where
  textual : ∀ a, (write a).Textual
  reads : ∀ a d, (write a).Rearranged d → read d = .ok a

namespace Read

theorem Restores.of_json {read : Read α} {write : α → Datum} (restores : Restores read write)
    (a : α) : ∃ d, Json.read? (Json.compact (write a)) = some d ∧ read d = .ok a :=
  have textual := restores.textual a
  ⟨_, Json.read?_compact textual, restores.reads a _ (Json.rearranged_held textual)⟩

/-- Texts that stand for values, such as the names of variants. -/
theorem Restores.of_text {read : Read α} {name : α → String}
    (reads : ∀ a, read (.text (name a)) = .ok a) : Restores read fun a => .text (name a) where
  textual a := .text (name a)
  reads a d moved := by rw [moved.eq_text, reads]

theorem restores_text : Restores text .text := .of_text fun _ => rfl

theorem Restores.list {read : Read α} {write : α → Datum} (restores : Restores read write) :
    Restores (list .json read) fun items => .seq (items.map write) := by
  refine ⟨fun items => .seq (by simpa using fun a _ => restores.textual a), ?_⟩
  intro items d moved
  obtain ⟨others, rfl, each⟩ := moved.of_seq
  clear moved
  change others.mapM read = .ok items
  induction items generalizing others with
  | nil =>
    cases each
    rfl
  | cons item rest ih =>
    cases each with
    | cons here later =>
      rw [List.mapM_cons, restores.reads item _ here, ih _ later]
      rfl

end Read

namespace Field

/-- A field is read from what is written for it, and makes a change of it. -/
structure Given (field : Field ρ) (value : Datum) (change : ρ → ρ) : Prop where
  textual : value.Textual
  reads : ∀ d, value.Rearranged d → field.read d = .ok change

/-- A field is set to the value that is written for it, whether or not it may be absent. -/
theorem given_required {read : Read α} {write : α → Datum} (restores : read.Restores write)
    (name : String) (set : α → ρ → ρ) (a : α) :
    (Field.required name read set).Given (write a) (set a) where
  textual := restores.textual a
  reads d moved := by simp [Field.required, restores.reads a d moved, Except.map]

theorem given_optional {read : Read α} {write : α → Datum} (restores : read.Restores write)
    (name : String) (set : α → ρ → ρ) (a : α) :
    (Field.optional name read set).Given (write a) (set a) where
  textual := restores.textual a
  reads d moved := by simp [Field.optional, restores.reads a d moved, Except.map]

variable {fields : List (Field ρ)}

theorem find?_of_mem (distinct : (fields.map Field.name).Nodup) {field : Field ρ}
    (member : field ∈ fields) : fields.find? (·.name == field.name) = some field := by
  induction fields with
  | nil => cases member
  | cons first rest ih =>
    obtain ⟨fresh, distinct⟩ := List.nodup_cons.mp distinct
    rcases List.mem_cons.mp member with rfl | later
    · simp
    · have different : first.name ≠ field.name := by
        rintro same
        exact fresh (same ▸ List.mem_map_of_mem later)
      rw [List.find?_cons_of_neg (by simpa using different), ih distinct later]

/-- A value that is written for each field, in order, and the change that reading it makes. -/
inductive Fills : List (Field ρ) → List (String × Datum) → List (ρ → ρ) → Prop
  | nil : Fills [] [] []
  | cons {field : Field ρ} {value : Datum} {change : ρ → ρ} {fields : List (Field ρ)}
      {members : List (String × Datum)} {changes : List (ρ → ρ)}
      (here : field.Given value change)
      (later : Fills fields members changes) :
    Fills (field :: fields) ((field.name, value) :: members) (change :: changes)

def Takes (fields : List (Field ρ)) (member : String × Datum) (change : ρ → ρ) : Prop :=
  ∃ field ∈ fields, field.name = member.1 ∧ field.read member.2 = .ok change

theorem Fills.names {members : List (String × Datum)} {changes : List (ρ → ρ)}
    (fills : Fills fields members changes) : members.map Prod.fst = fields.map Field.name := by
  induction fills with
  | nil => rfl
  | cons here later ih => simp [ih]

theorem Fills.textual {members : List (String × Datum)} {changes : List (ρ → ρ)}
    (fills : Fills fields members changes) : ∀ member ∈ members, member.2.Textual := by
  induction fills with
  | nil => exact List.forall_mem_nil _
  | cons here later ih => exact List.forall_mem_cons.mpr ⟨here.textual, ih⟩

theorem Fills.takes {members others : List (String × Datum)} {changes : List (ρ → ρ)}
    (fills : Fills fields members changes) (same : List.Forall₂ Datum.SameMember members others) :
    List.Forall₂ (Takes fields) others changes := by
  induction fills generalizing others with
  | nil =>
    cases same
    exact .nil
  | @cons field _ _ _ _ _ here later ih =>
    cases same with
    | cons first rest =>
      refine .cons ⟨field, List.mem_cons_self, first.1, here.reads _ first.2⟩ ((ih rest).imp ?_)
      rintro member change ⟨field, listed, takes⟩
      exact ⟨field, List.mem_cons_of_mem _ listed, takes⟩

end Field

namespace Shape

variable {shape : Shape ρ}

/-- Members of different names make their changes one after the other. -/
theorem readEntries_eq_ok (distinct : (shape.fields.map Field.name).Nodup)
    {members : List (String × Datum)} {changes : List (ρ → ρ)}
    (takes : List.Forall₂ (Field.Takes shape.fields) members changes)
    (names : (members.map Prod.fst).Nodup) {seen : List String}
    (fresh : ∀ member ∈ members, member.1 ∉ seen) (record : ρ) :
    shape.readEntries (members.map fun (name, value) => (.text name, value)) seen record =
      .ok (changes.foldl (fun record change => change record) record,
        (members.map Prod.fst).reverse ++ seen) := by
  induction takes generalizing seen record with
  | nil => rfl
  | @cons member change rest changes first later ih =>
    obtain ⟨name, value⟩ := member
    obtain ⟨field, listed, rfl, read⟩ := first
    obtain ⟨unused, names⟩ := List.nodup_cons.mp names
    obtain ⟨unseen, fresh⟩ := List.forall_mem_cons.mp fresh
    have freshLater : ∀ other ∈ rest, other.1 ∉ field.name :: seen := by
      intro other listed
      have different : other.1 ≠ field.name := by
        intro same
        exact unused (List.mem_map.mpr ⟨other, listed, same⟩)
      simp [different, fresh other listed]
    have found := Field.find?_of_mem distinct listed
    have go := ih names freshLater (change record)
    dsimp only at read unseen
    simp [readEntries, Datum.untag, found, unseen, read, bind, Except.bind, go]

theorem read_object (members : List (String × Datum)) :
    shape.read .json (.object members) = (do
      let (record, seen) ← shape.readEntries
        (members.map fun (name, value) => (.text name, value)) [] shape.blank
      match shape.missing? seen with
      | some field => .error (.missingField field.name)
      | none => return record) := rfl

theorem missing?_eq_none {seen : List String}
    (all : ∀ field ∈ shape.fields, field.name ∈ seen) : shape.missing? seen = none := by
  rw [missing?, List.find?_eq_none]
  intro field listed
  simp [all field listed]

/-- A record is restored from members for all its fields when setting the fields makes the record
and any two of them may be set in either order. -/
theorem restores (distinct : (shape.fields.map Field.name).Nodup) {write : ρ → Datum}
    (fills : ∀ record, ∃ members changes, write record = .object members ∧
      Field.Fills shape.fields members changes ∧
      (∀ first ∈ changes, ∀ second ∈ changes, ∀ r, second (first r) = first (second r)) ∧
      changes.foldl (fun record change => change record) shape.blank = record) :
    Read.Restores (shape.read .json) write := by
  refine ⟨fun record => ?_, fun record d moved => ?_⟩
  · obtain ⟨members, changes, written, fills, -⟩ := fills record
    rw [written]
    exact .object (fills.names ▸ distinct) fills.textual
  obtain ⟨members, changes, written, fills, commute, result⟩ := fills record
  rw [written] at moved
  obtain ⟨others, arranged, rfl, same, order⟩ := moved.of_object
  -- The changes are made in the order in which the members stand.
  obtain ⟨changes', takes, shuffled⟩ := List.perm_comp_forall₂ order (fills.takes same)
  have othersNames : others.map Prod.fst = shape.fields.map Field.name := by
    rw [← fills.names, Datum.names_eq same]
  have names : (arranged.map Prod.fst).Perm (shape.fields.map Field.name) :=
    othersNames ▸ order.map _
  have entries := readEntries_eq_ok distinct takes (names.nodup_iff.mpr distinct)
    (fun _ _ => List.not_mem_nil) shape.blank
  have folded : changes'.foldl (fun record change => change record) shape.blank = record := by
    rw [shuffled.foldl_eq' ?_, result]
    intro first inFirst second inSecond r
    exact commute _ (shuffled.subset inFirst) _ (shuffled.subset inSecond) r
  have complete : shape.missing? ((arranged.map Prod.fst).reverse ++ []) = none := by
    refine missing?_eq_none fun field listed => ?_
    have given := names.mem_iff.mpr (List.mem_map_of_mem listed)
    simpa using given
  rw [read_object, entries]
  simp only [bind, Except.bind, complete, folded, pure, Except.pure]

end Shape

end ObservedConfig
