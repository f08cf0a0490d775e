import ObservedConfig.Yaml.Token

/-! The nodes of a YAML document as they are written: scalars with their tags, sequences, maps,
anchors and references to anchors. -/
namespace ObservedConfig.Yaml

inductive Form where
  | scalar (tag : Option String) (isPlain : Bool) (text : String)
  | seq (tag : Option String) (items : List Form)
  | map (tag : Option String) (entries : List (Form × Form))
  /-- A reference to the node with an anchor. -/
  | reference (anchor : Nat)
  | anchored (anchor : Nat) (form : Form)
  deriving Inhabited

namespace Form

def absent : Form := .scalar none true ""

mutual

/-- The anchored nodes in the order in which they start. -/
def anchors : Form → List (Nat × Form)
  | scalar _ _ _ => []
  | seq _ items => itemAnchors items
  | map _ entries => entryAnchors entries
  | reference _ => []
  | anchored anchor form => (anchor, form) :: form.anchors

def itemAnchors : List Form → List (Nat × Form)
  | [] => []
  | item :: rest => item.anchors ++ itemAnchors rest

def entryAnchors : List (Form × Form) → List (Nat × Form)
  | [] => []
  | (key, value) :: rest => key.anchors ++ value.anchors ++ entryAnchors rest

end

mutual

/-- The size of a document: one for each scalar and reference, two for each container. -/
def size : Form → Nat
  | scalar _ _ _ => 1
  | seq _ items => 2 + itemSizes items
  | map _ entries => 2 + entrySizes entries
  | reference _ => 1
  | anchored _ form => form.size

def itemSizes : List Form → Nat
  | [] => 0
  | item :: rest => item.size + itemSizes rest

def entrySizes : List (Form × Form) → Nat
  | [] => 0
  | (key, value) :: rest => key.size + value.size + entrySizes rest

end

/-- The node with an anchor. When an anchor is given twice, the later node counts, also for
references before it. -/
def anchor? (form : Form) (anchor : Nat) : Option Form :=
  (form.anchors.reverse.find? fun entry => entry.1 == anchor).map (·.2)

end Form

end ObservedConfig.Yaml
