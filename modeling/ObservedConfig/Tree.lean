import ObservedConfig.Entries
import ObservedConfig.Binary64

/-! Nested configuration documents. A tree maps names to nodes, and a node is a sequence of texts, a
scalar or a tree again. Sequences keep their order, since each element becomes one repeated
argument. The entries of every tree stand in the order of their keys, so that trees with the same
content are equal; `Sorted` says so, and `Pruned` says that no sequence and no inner tree is
empty. -/
namespace ObservedConfig

inductive Scalar where
  | bool (value : Bool)
  | int (value : Int64)
  | float (value : Binary64)
  | text (value : String)
  deriving DecidableEq, Inhabited

namespace Scalar

/-- Numeric equality on floating point values and identity on all others. -/
def same : Scalar → Scalar → Bool
  | .float x, .float y => x.same y
  | .bool a, .bool b => a == b
  | .int a, .int b => a == b
  | .text a, .text b => a == b
  | _, _ => false

end Scalar

inductive Node where
  | list (values : List String)
  | scalar (value : Scalar)
  | tree (entries : List (String × Node))
  deriving Inhabited

abbrev Tree := List (String × Node)

abbrev Path := List String

def Path.display (path : Path) : String := ".".intercalate path

namespace Node

def list? : Node → Option (List String)
  | .list values => some values
  | _ => none

def isLeaf : Node → Bool
  | .tree _ => false
  | _ => true

def isEmptyContainer : Node → Bool
  | .list values => values.isEmpty
  | .tree entries => entries.isEmpty
  | .scalar _ => false

end Node

mutual

def Node.same : Node → Node → Bool
  | .list a, .list b => a == b
  | .scalar a, .scalar b => a.same b
  | .tree a, .tree b => Tree.same a b
  | _, _ => false

def Tree.same : List (String × Node) → List (String × Node) → Bool
  | [], [] => true
  | (k, a) :: s, (l, b) :: t => k == l && a.same b && Tree.same s t
  | _, _ => false

end

namespace Tree

/-- Why a tree cannot be read or changed at a path. -/
inductive Fault where
  | emptyPath
  /-- The node at this path is no tree, and the path goes on. -/
  | notMap (place : Path)
  /-- The node at this path is no sequence. -/
  | notList (place : Path)
  deriving DecidableEq, Inhabited

def Fault.under (name : String) : Fault → Fault
  | .emptyPath => .emptyPath
  | .notMap path => .notMap (name :: path)
  | .notList path => .notList (name :: path)

def keys (t : Tree) : List String := t.map (·.1)

/-- The node at a path. There is none at the empty path, nor below a node that is no tree. -/
def get? (t : Tree) : Path → Option Node
  | [] => none
  | [name] => Entries.find? name t
  | name :: rest =>
    match Entries.find? name t with
    | some (.tree child) => get? child rest
    | _ => none

/-- The sequence at a path, if there is a node; every other node at the path or on the way to it is
a fault. -/
def getList (t : Tree) : Path → Except Fault (Option (List String))
  | [] => .ok none
  | [name] =>
    match Entries.find? name t with
    | none => .ok none
    | some (.list values) => .ok (some values)
    | some _ => .error (.notList [name])
  | name :: rest =>
    match Entries.find? name t with
    | none => .ok none
    | some (.tree child) => (getList child rest).mapError (Fault.under name)
    | some _ => .error (.notMap [name])

/-- Puts a node at a path, creating the trees on the way. -/
def set (t : Tree) : Path → Node → Except Fault Tree
  | [], _ => .error .emptyPath
  | [name], node => .ok (Entries.insert name node t)
  | name :: rest, node =>
    match Entries.find? name t with
    | none => (set [] rest node).map fun child => Entries.insert name (.tree child) t
    | some (.tree child) =>
      ((set child rest node).mapError (Fault.under name)).map fun child =>
        Entries.insert name (.tree child) t
    | some _ => .error (.notMap [name])

def setList (t : Tree) (path : Path) (values : List String) : Except Fault Tree :=
  t.set path (.list values)

/-- Puts a node at a path in place, and gives what the tree is afterwards whether it could or not. A
tree that is missing on the way is put in before the path goes on behind it. -/
def assign (t : Tree) : Path → Node → Tree × Except Fault Unit
  | [], _ => (t, .error .emptyPath)
  | [name], node => (Entries.insert name node t, .ok ())
  | name :: rest, node =>
    match (Entries.find? name t).getD (.tree []) with
    | .tree child =>
      let (child, result) := assign child rest node
      (Entries.insert name (.tree child) t, result.mapError (Fault.under name))
    | _ => (t, .error (.notMap [name]))

/-- Takes the node at a path out, with every tree on the way that becomes empty by it. -/
def take? (t : Tree) : Path → Option (Node × Tree)
  | [] => none
  | [name] => (Entries.find? name t).map fun node => (node, Entries.erase name t)
  | name :: rest =>
    match Entries.find? name t with
    | some (.tree child) =>
      (take? child rest).map fun (node, child) =>
        (node, if child.isEmpty then Entries.erase name t else Entries.insert name (.tree child) t)
    | _ => none

def remove (t : Tree) (path : Path) : Tree :=
  match t.take? path with
  | some (_, rest) => rest
  | none => t

/-- Takes the node at a path out in place, and gives what the tree is afterwards whether there was
one or not. A tree on the way that a node was taken from goes as well when it is empty then. -/
def extract (t : Tree) : Path → Tree × Option Node
  | [] => (t, none)
  | [name] => (Entries.erase name t, Entries.find? name t)
  | name :: rest =>
    match Entries.find? name t with
    | some (.tree child) =>
      match extract child rest with
      | (child, none) => (Entries.insert name (.tree child) t, none)
      | (child, some node) =>
        (if child.isEmpty then Entries.erase name t else Entries.insert name (.tree child) t,
          some node)
    | _ => (t, none)

end Tree

mutual

def Node.pruned : Node → Node
  | .tree entries => .tree (Tree.pruned entries)
  | .list values => .list values
  | .scalar value => .scalar value

/-- The tree without empty sequences and empty trees at any depth. -/
def Tree.pruned : List (String × Node) → List (String × Node)
  | [] => []
  | (name, node) :: rest =>
    let node := node.pruned
    if node.isEmptyContainer then Tree.pruned rest else (name, node) :: Tree.pruned rest

end

mutual

/-- What stands where a node is merged over another: two trees are merged, else the new node
counts. -/
def Node.over (mine : Option Node) : Node → Node
  | .tree theirs =>
    match mine with
    | some (.tree entries) => .tree (Tree.mergeFrom entries theirs)
    | _ => .tree theirs
  | .list values => .list values
  | .scalar value => .scalar value

/-- Merges another tree into this one; its leaves win. -/
def Tree.mergeFrom (mine : List (String × Node)) : List (String × Node) → List (String × Node)
  | [] => mine
  | (name, node) :: rest =>
    Tree.mergeFrom (Entries.insert name (Node.over (Entries.find? name mine) node) mine) rest

end

namespace Tree

def copyTo (t : Tree) : List Path → Tree → Except Fault Tree
  | [], copied => .ok copied
  | path :: rest, copied =>
    match t.get? path with
    | none => t.copyTo rest copied
    | some node => do t.copyTo rest (← Tree.set copied path node)

/-- The nodes at the listed paths, in a tree of their own and pruned. -/
def prunedTo (t : Tree) (paths : List Path) : Except Fault Tree :=
  (t.copyTo paths []).map pruned

/-- Whether a sequence stands at one of the paths; they are looked up in order up to the first. -/
def containsAnyList (t : Tree) : List Path → Except Fault Bool
  | [] => .ok false
  | path :: rest => do
    if (← t.getList path).isSome then return true
    t.containsAnyList rest

end Tree

mutual

/-- Keys increase in every tree of the node. -/
def Node.Sorted : Node → Prop
  | .tree entries => Tree.Sorted entries
  | _ => True

def Tree.Sorted : List (String × Node) → Prop
  | [] => True
  | (name, node) :: rest => (∀ entry ∈ rest, name < entry.1) ∧ node.Sorted ∧ Tree.Sorted rest

end

mutual

/-- No sequence and no tree is empty below the node. -/
def Node.Pruned : Node → Prop
  | .tree entries => Tree.Pruned entries
  | _ => True

def Tree.Pruned : List (String × Node) → Prop
  | [] => True
  | (_, node) :: rest => node.isEmptyContainer = false ∧ node.Pruned ∧ Tree.Pruned rest

end

end ObservedConfig
