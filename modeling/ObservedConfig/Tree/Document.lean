import ObservedConfig.Datum.Shape
import ObservedConfig.Tree
import ObservedConfig.Yaml.Document
import ObservedConfig.Yaml.Printer

/-! Trees as documents. A node is written as a sequence of texts, a boolean, a number, a text or a
map, without a mark of its kind. When it is read the kinds of nodes are tried one after the other:
sequences, then the kinds of scalars, with integers before floating point values, and then trees. -/
namespace ObservedConfig

def Scalar.toDatum : Scalar → Datum
  | .bool b => .bool b
  | .int i => .int i.toInt
  | .float x => .float x
  | .text s => .text s

mutual

def Node.toDatum : Node → Datum
  | .list values => .texts values
  | .scalar value => value.toDatum
  | .tree entries => .map (Tree.toEntries entries)

def Tree.toEntries : List (String × Node) → List (Datum × Datum)
  | [] => []
  | (name, node) :: rest => (.text name, node.toDatum) :: Tree.toEntries rest

end

def Tree.toDatum (t : Tree) : Datum := .map (Tree.toEntries t)

/-- The scalar a datum describes: the first kind of scalar that accepts it. -/
def Scalar.ofDatum? (d : Datum) : Option Scalar :=
  (d.bool?.map .bool).or <| (d.int64?.map .int).or <| (d.float?.map .float).or (d.text?.map .text)

/-- The leaf a datum describes: a sequence of texts, or else a scalar. -/
def Node.leaf? (d : Datum) : Option Node :=
  (d.texts?.map .list).or ((Scalar.ofDatum? d).map .scalar)

mutual

def Node.ofDatum? : Datum → Option Node
  | .map entries => (Node.leaf? (.map entries)).or ((Tree.ofEntries? entries []).map .tree)
  | d => Node.leaf? d

/-- Adds the entries of a map to a tree; of two entries with one key the later counts. -/
def Tree.ofEntries? : List (Datum × Datum) → List (String × Node) → Option (List (String × Node))
  | [], t => some t
  | (.text name, value) :: rest, t =>
    match Node.ofDatum? value with
    | some node => Tree.ofEntries? rest (Entries.insert name node t)
    | none => none
  | _ :: _, _ => none

end

def Node.choiceName : String := "Node"

def Node.read : Read Node := fun d =>
  match Node.ofDatum? d with
  | some node => .ok node
  | none => .error (.noAlternative Node.choiceName)

def Tree.read : Read Tree
  | .map entries =>
    match Tree.ofEntries? entries [] with
    | some t => .ok t
    | none => .error (.noAlternative Node.choiceName)
  | d => .error (.wrongType d "a map")

/-- Reads a tree from YAML text. An empty text is the empty tree. -/
def Tree.ofYaml (text : String) : Except Yaml.Fault Tree := do
  match Tree.ofEntries? (← Yaml.readMap text) [] with
  | some t => return t
  | none => throw .positioned

def Tree.display (t : Tree) : String := Yaml.print t.toDatum

end ObservedConfig
