/-! Where a namespaced resource lives. A location without a name stands for no resource at all. -/
namespace ObservedConfig

structure Location where
  namespaceName : String
  name : String
  deriving DecidableEq, Inhabited

namespace Location

/-- No resource. -/
def empty : Location := ⟨"", ""⟩

def isEmpty (l : Location) : Bool := l.name.isEmpty

def display (l : Location) : String :=
  if l.isEmpty then "<none>" else l.namespaceName ++ "/" ++ l.name

/-- By namespace, then by name. -/
instance : LT Location where
  lt a b :=
    a.namespaceName < b.namespaceName ∨ (a.namespaceName = b.namespaceName ∧ a.name < b.name)

instance : DecidableLT Location := fun _ _ =>
  inferInstanceAs (Decidable (_ ∨ (_ ∧ _)))

def order (a b : Location) : Ordering :=
  if a < b then .lt else if a = b then .eq else .gt

end Location

end ObservedConfig
