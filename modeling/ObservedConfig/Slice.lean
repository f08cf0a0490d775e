import ObservedConfig.Tree

/-! Owned slices of a configuration. Whoever derives a part of a configuration owns a list of paths.
`diff` takes the owned paths out of a candidate and says whether they differ from the committed
configuration; `mergeOwned` puts such fragments into the committed configuration in place of what
stood at their paths. -/
namespace ObservedConfig

/-- The top-level key that holds the command-line arguments of the workload. -/
def argumentsKey : String := "apiServerArguments"

namespace Slice

/-- The owned part of a candidate, and whether it differs from what is committed. -/
structure Outcome where
  fragment : Tree
  changed : Bool
  deriving Inhabited

/-- An empty sequence counts as an absent one. -/
def present (values : Option (List String)) : Option (List String) :=
  values.filter fun values => !values.isEmpty

/-- Whether the sequence at one of the paths differs; they are compared in order up to the first
that does. -/
def differs (existing fragment : Tree) : List Path → Except Tree.Fault Bool
  | [] => .ok false
  | path :: rest => do
    let current ← existing.getList path
    let desired ← fragment.getList path
    if present current != desired then return true
    differs existing fragment rest

def diff (existing candidate : Tree) (owned : List Path) : Except Tree.Fault Outcome := do
  let fragment ← candidate.prunedTo owned
  return ⟨fragment, ← differs existing fragment owned⟩

/-- Fragments with the paths that each of them owns. -/
abbrev Contributions := List (List Path × Tree)

def clear (t : Tree) (paths : List Path) : Tree := paths.foldl Tree.remove t

/-- Merges each fragment, cut down to its owned paths, into a tree. -/
def mergeAll (t : Tree) : Contributions → Except Tree.Fault Tree
  | [] => .ok t
  | (owned, fragment) :: rest => do
    mergeAll (Tree.mergeFrom t (← fragment.prunedTo owned)) rest

/-- The committed configuration with every owned path taken from its owner's fragment. -/
def mergeOwned (existing : Tree) (contributions : Contributions) : Except Tree.Fault Tree :=
  (mergeAll (contributions.foldl (fun t c => clear t c.1) existing) contributions).map Tree.pruned

end Slice

/-- The distinct members of two lists in increasing order. -/
def unionSorted (existing own : List String) : List String :=
  Entries.distinct (existing ++ own)

def retract (existing own : List String) : List String :=
  existing.filter fun s => !own.contains s

end ObservedConfig
