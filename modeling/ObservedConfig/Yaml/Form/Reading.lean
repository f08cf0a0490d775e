import ObservedConfig.Yaml.Fault
import ObservedConfig.Yaml.Form
import ObservedConfig.Yaml.Plain

/-! What the nodes of a YAML document stand for. References are replaced by the nodes they refer to,
and the number of replacements is bounded by the size of the document, as is the depth of what
comes out. A node can be read in three ways: as any value, where a tag of one's own stays as a
tag; as plain content, where such tags are faults; and by an outline of records with texts in
them. -/
namespace ObservedConfig.Yaml

def maxDepth : Nat := 128

/-- References that may be replaced for each node of a document. -/
def jumpsPerNode : Nat := 100

/-- A step of reading that counts the references replaced so far. -/
abbrev Reading (α : Type) := Nat → Except Fault (α × Nat)

namespace Form

def localTag? (tag : Option String) : Option String :=
  tag.bind fun t => if t.startsWith "!" then some (t.drop 1).toString else none

def standardTag (name : String) : String := "tag:yaml.org,2002:" ++ name

def ofPlain (text : String) : Plain → Except Fault Datum
  | .null => .ok .null
  | .bool b => .ok (.bool b)
  | .int n => .ok (.int n)
  | .float x => .ok (.float x)
  | .text => .ok (.text text)

/-- What a scalar stands for. Standard tags decide its kind; of other scalars, only plain ones may
be anything but texts. -/
def scalarValue (tag : Option String) (isPlain : Bool) (text : String) : Except Fault Datum :=
  let orFault (value : Option Datum) : Except Fault Datum :=
    match value with
    | some d => .ok d
    | none => .error .positioned
  if tag = some (standardTag "bool") then orFault ((Plain.boolWord? text).map .bool)
  else if tag = some (standardTag "int") then
    match Plain.boundedInteger? text with
    | some n => ofPlain text n
    | none => .error .positioned
  else if tag = some (standardTag "float") then orFault ((Plain.float? text).map .float)
  else if tag = some (standardTag "null") then
    orFault (if Plain.isNullWord text then some .null else none)
  else if isPlain && (tag.isNone || (localTag? tag).isSome) then ofPlain text (Plain.ofString text)
  else .ok (.text text)

def target (document : Form) : Form → Reading Form
  | reference anchor, jumps =>
    if jumps + 1 > document.size * jumpsPerNode then .error .repetition
    else match document.anchor? anchor with
      | some (anchored _ form) => .ok (form, jumps + 1)
      | some form => .ok (form, jumps + 1)
      | none => .error .positioned
  | anchored _ form, jumps => .ok (form, jumps)
  | form, jumps => .ok (form, jumps)

def readEach (read : Form → Reading α) : List Form → Reading (List α)
  | [], jumps => .ok ([], jumps)
  | form :: rest, jumps => do
    let (a, jumps) ← read form jumps
    let (later, jumps) ← readEach read rest jumps
    return (a :: later, jumps)

def readEntries (read : Form → Reading Datum) :
    List (Form × Form) → Reading (List (Datum × Datum))
  | [], jumps => .ok ([], jumps)
  | (key, value) :: rest, jumps => do
    let (k, jumps) ← read key jumps
    let (v, jumps) ← read value jumps
    let (later, jumps) ← readEntries read rest jumps
    return ((k, v) :: later, jumps)

end Form

/-! ## Keys -/

mutual

/-- Equality of keys: no order among the entries of maps, and a NaN equals a NaN. -/
def sameKey : Datum → Datum → Bool
  | .null, .null => true
  | .bool a, .bool b => a == b
  | .int a, .int b => a == b
  | .float x, .float y => x.same y || (x.isNaN && y.isNaN)
  | .text a, .text b => a == b
  | .seq a, .seq b => sameItems a b
  | .map a, .map b => a.length == b.length && entriesIn a b
  | .tagged s a, .tagged t b => s == t && sameKey a b
  | _, _ => false

def sameItems : List Datum → List Datum → Bool
  | [], [] => true
  | a :: s, b :: t => sameKey a b && sameItems s t
  | _, _ => false

def entriesIn : List (Datum × Datum) → List (Datum × Datum) → Bool
  | [], _ => true
  | (k, v) :: rest, entries =>
    entries.any (fun entry => sameKey k entry.1 && sameKey v entry.2) && entriesIn rest entries

end

def hasRepeatedKey : List (Datum × Datum) → Bool
  | [] => false
  | (key, _) :: rest => rest.any (fun entry => sameKey key entry.1) || hasRepeatedKey rest

namespace Form

def withTag (tag : Option String) (value : Datum) : Except Fault Datum :=
  match localTag? tag with
  | none => .ok value
  | some name => if name.isEmpty then .error .positioned else .ok (.tagged name value)

def heldInteger : Datum → Bool
  | .int n => Datum.fits64 n
  | _ => true

/-- Any value, with containers at most `depth` deep. -/
def value (document : Form) (depth : Nat) (form : Form) : Reading Datum := fun jumps => do
  let (form, jumps) ← target document form jumps
  match form, depth with
  | scalar tag isPlain text, _ =>
    let d ← scalarValue tag isPlain text
    if !heldInteger d then throw .positioned
    return (← withTag tag d, jumps)
  | seq tag items, depth + 1 =>
    let (items, jumps) ← readEach (value document depth) items jumps
    return (← withTag tag (.seq items), jumps)
  | map tag entries, depth + 1 =>
    let (entries, jumps) ← readEntries (value document depth) entries jumps
    if hasRepeatedKey entries then throw .positioned
    return (← withTag tag (.map entries), jumps)
  | _, _ => throw .positioned

def content (document : Form) (depth : Nat) (form : Form) : Reading Datum := fun jumps => do
  let (form, jumps) ← target document form jumps
  match form, depth with
  | scalar tag isPlain text, _ =>
    if (localTag? tag).isSome then throw .positioned
    return (← scalarValue tag isPlain text, jumps)
  | seq tag items, depth + 1 =>
    if (localTag? tag).isSome then throw .positioned
    let (items, jumps) ← readEach (content document depth) items jumps
    return (.seq items, jumps)
  | map tag entries, depth + 1 =>
    if (localTag? tag).isSome then throw .positioned
    let (entries, jumps) ← readEntries (content document depth) entries jumps
    return (.map entries, jumps)
  | _, _ => throw .positioned

def rawText (document : Form) (form : Form) : Reading String := fun jumps => do
  let (form, jumps) ← target document form jumps
  match form with
  | scalar _ _ text => return (text, jumps)
  | _ => throw .positioned

/-- The entries of a map. A plain scalar that is empty is an empty map. -/
def mapEntries (document : Form) (form : Form) : Reading (List (Form × Form)) := fun jumps => do
  let (form, jumps) ← target document form jumps
  match form with
  | map _ entries => return (entries, jumps)
  | scalar _ true "" => return ([], jumps)
  | _ => throw .positioned

def textKeyed (document : Form) : List (Form × Form) → Reading (List (Datum × Datum))
  | [], jumps => .ok ([], jumps)
  | (key, value) :: rest, jumps => do
    let (name, jumps) ← rawText document key jumps
    let (d, jumps) ← content document (maxDepth - 1) value jumps
    let (later, jumps) ← textKeyed document rest jumps
    return ((.text name, d) :: later, jumps)

end Form

/-- What is asked of a node: a text, or a record with fields. -/
inductive Outline where
  | text
  | record (fields : List (String × Outline))

namespace Form

/-- Reads a node by an outline. Fields that the outline does not name are passed over. -/
def outlined (document : Form) : Nat → Outline → Form → Reading Datum
  | 0, _, _, _ => .error .positioned
  | depth + 1, outline, form, jumps => do
    match outline with
    | .text =>
      let (text, jumps) ← rawText document form jumps
      return (.text text, jumps)
    | .record fields =>
      let (entries, jumps) ← mapEntries document form jumps
      let readField (entry : Form × Form) : Reading (Option (Datum × Datum)) := fun jumps => do
        let (name, jumps) ← rawText document entry.1 jumps
        match fields.find? fun field => field.1 == name with
        | none => return (none, jumps)
        | some (_, outline) =>
          let (d, jumps) ← outlined document depth outline entry.2 jumps
          return (some (.text name, d), jumps)
      let step (state : List (Datum × Datum) × Nat) (entry : Form × Form) :
          Except Fault (List (Datum × Datum) × Nat) := do
        let (read?, jumps) ← readField entry state.2
        return (state.1 ++ read?.toList, jumps)
      let (entries, jumps) ← entries.foldlM step ([], jumps)
      return (.map entries, jumps)

end Form

end ObservedConfig.Yaml
