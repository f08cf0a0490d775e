import ObservedConfig.Datum.Shape
import ObservedConfig.Yaml.Form.Composition
import ObservedConfig.Yaml.Form.Reading

/-! Reading whole YAML texts: one document as a record or as content, or a stream of documents as
values. A text that must hold one document is empty content when it holds none. -/
namespace ObservedConfig.Yaml

def readSole (read : Form → Except Fault α) (text : String) : Except Fault α :=
  match documents text with
  | [] => read .absent
  | none :: _ => .error .positioned
  | some form :: others => do
    let a ← read form
    if others.isEmpty then return a else throw .moreDocuments

def readMap (text : String) : Except Fault (List (Datum × Datum)) :=
  readSole (fun form => do
    let (entries, jumps) ← form.mapEntries form 0
    return (← form.textKeyed entries jumps).1) text

def readRecord (outline : Outline) (shape : Shape α) (text : String) : Except Fault α :=
  readSole (fun form => do
    let (d, _) ← form.outlined 4 outline form 0
    (shape.read .yaml d).mapError fun _ => .positioned) text

/-- The values of all documents of a stream, each of which may be at fault. -/
def readAll (text : String) : List (Except Fault Datum) :=
  (documents text).map fun
    | none => .error .positioned
    | some form => (form.value maxDepth form 0).map (·.1)

end ObservedConfig.Yaml
