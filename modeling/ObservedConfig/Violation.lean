/-! Violations of a schema: where in a value something is wrong, and what. A report has one line for
each place, in the order of the lines. -/
namespace ObservedConfig

/-- The end of a run at a condition that it does not handle. -/
structure Crash where
  message : String
  deriving DecidableEq, Inhabited

structure Violation where
  place : String
  problem : String
  deriving DecidableEq, Inhabited

namespace Violation

def line (v : Violation) : String := v.place ++ ": " ++ v.problem

def field (name : String) : Option String → List Violation
  | none => []
  | some problem => [⟨name, problem⟩]

def under (name : String) (violations : List Violation) : List Violation :=
  violations.map fun v => { v with place := name ++ "." ++ v.place }

/-- Violations of the items of a list field, of which the first has the given index. -/
def eachFrom (name : String) (violations : α → List Violation) : Nat → List α → List Violation
  | _, [] => []
  | index, item :: rest =>
    under (name ++ "[" ++ toString index ++ "]") (violations item) ++
      eachFrom name violations (index + 1) rest

def each (name : String) (violations : α → List Violation) (items : List α) : List Violation :=
  eachFrom name violations 0 items

def report (violations : List Violation) : String :=
  "\n".intercalate ((violations.map line).mergeSort fun a b => decide (a ≤ b))

end Violation

end ObservedConfig
