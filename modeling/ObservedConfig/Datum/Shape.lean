import ObservedConfig.Datum.Mismatch

/-! Reading typed values out of a datum. A record is read field by field in the order in which its
entries stand, so of several faults the first entry's counts, and absent required fields are
reported last. Unknown fields are ignored. -/
namespace ObservedConfig

abbrev Read (α : Type) := Datum → Except Mismatch α

namespace Read

def text : Read String := fun d =>
  match d.untag with
  | .text s => .ok s
  | d => .error (.wrongType d "a string")

def bool : Read Bool := fun d =>
  match d.untag with
  | .bool b => .ok b
  | d => .error (.wrongType d "a boolean")

def int64 : Read Int := fun d =>
  match d.untag with
  | .int i =>
    if Datum.fitsInt64 i then .ok i else .error (.wrongValue (.int i) "i64")
  | d => .error (.wrongType d "i64")

/-- Null stands for an absent value. -/
def option (read : Read α) : Read (Option α)
  | .null => .ok none
  | d => (read d).map some

/-- The items of a sequence. An empty YAML value is an empty sequence. -/
def items (format : Format) : Read (List Datum) := fun d =>
  match d.untag, format with
  | .seq items, _ => .ok items
  | .null, .yaml => .ok []
  | d, _ => .error (.wrongType d "a sequence")

def list (format : Format) (read : Read α) : Read (List α) := fun d => do
  (← items format d).mapM read

/-- The entries of a map. An empty YAML value is an empty map. -/
def entries (format : Format) (expected : String) : Read (List (Datum × Datum)) := fun d =>
  match d.untag, format with
  | .map entries, _ => .ok entries
  | .null, .yaml => .ok []
  | d, _ => .error (.wrongType d expected)

def textMap (format : Format) (read : Read α) : Read (List (String × α)) := fun d => do
  (← entries format "a map" d).mapM fun (key, value) => do
    let name ← text key
    return (name, ← read value)

def variant (format : Format) (known : List (String × α)) : Read α := fun d => do
  let pick (name : String) : Except Mismatch α :=
    match known.find? (·.1 == name) with
    | some (_, value) => .ok value
    | none => .error (.unknownVariant name (known.map (·.1)))
  let unit (content : Datum) : Except Mismatch Unit :=
    match content with
    | .null => .ok ()
    | d => .error (.wrongType d "unit")
  match d, format with
  | .text name, _ => pick name
  | .map [(.text name, content)], .json =>
    let value ← pick name
    unit content
    return value
  | .map entries, .json => .error (.wrongValue (.map entries) "map with a single key")
  | .tagged tag content, .yaml =>
    let value ← pick tag
    unit content
    return value
  | d, .json => .error (.wrongType d "string or map")
  | d, .yaml => .error (.wrongType d "a Value::Tagged enum")

end Read

/-- A field of a record `ρ`: reading it yields how the record changes. -/
structure Field (ρ : Type) where
  name : String
  mandatory : Bool
  read : Read (ρ → ρ)

namespace Field

def required (name : String) (read : Read α) (set : α → ρ → ρ) : Field ρ :=
  ⟨name, true, fun d => (read d).map set⟩

/-- A field that keeps the record's own value when it is absent. -/
def optional (name : String) (read : Read α) (set : α → ρ → ρ) : Field ρ :=
  ⟨name, false, fun d => (read d).map set⟩

end Field

/-- A record type: how messages name it, its fields in order, and its value while none is set. -/
structure Shape (ρ : Type) where
  name : String
  fields : List (Field ρ)
  blank : ρ
  /-- Whether a JSON array may give the fields in order. -/
  positional : Bool := true
  /-- Whether naming a field twice is a fault; else its last value counts. -/
  unique : Bool := true

namespace Shape

variable {ρ : Type}

def readEntries (shape : Shape ρ) :
    List (Datum × Datum) → List String → ρ → Except Mismatch (ρ × List String)
  | [], seen, record => .ok (record, seen)
  | (key, value) :: rest, seen, record =>
    match key.untag with
    | .text name =>
      match shape.fields.find? (·.name == name) with
      | none => shape.readEntries rest seen record
      | some field =>
        if shape.unique && seen.contains name then .error (.duplicateField name)
        else do
          let change ← field.read value
          shape.readEntries rest (name :: seen) (change record)
    | d => .error (.wrongType d "field identifier")

def missing? (shape : Shape ρ) (seen : List String) : Option (Field ρ) :=
  shape.fields.find? fun field => field.mandatory && !seen.contains field.name

def arrayName (shape : Shape ρ) : String :=
  let total := shape.fields.length
  shape.name ++ " with " ++ toString total ++ (if total == 1 then " element" else " elements")

/-- Applies the items of an array of `count` items to the fields in order, of which `index` have
had theirs. -/
def readItems (shape : Shape ρ) (count index : Nat) :
    List (Field ρ) → List Datum → ρ → Except Mismatch ρ
  | [], [], record => .ok record
  | [], _ :: _, _ => .error (.wrongLength count "fewer elements in array")
  | field :: fields, item :: items, record => do
    let change ← field.read item
    shape.readItems count (index + 1) fields items (change record)
  | field :: fields, [], record =>
    if field.mandatory then .error (.wrongLength index shape.arrayName)
    else shape.readItems count (index + 1) fields [] record

def read (shape : Shape ρ) (format : Format) : Read ρ := fun d =>
  match d.untag, format with
  | .seq items, .json =>
    if shape.positional then shape.readItems items.length 0 shape.fields items shape.blank
    else .error (.wrongType (.seq items) shape.name)
  | d, _ => do
    let (record, seen) ← shape.readEntries (← Read.entries format shape.name d) [] shape.blank
    match shape.missing? seen with
    | some field => .error (.missingField field.name)
    | none => return record

end Shape

end ObservedConfig
