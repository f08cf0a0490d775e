import ObservedConfig.Url.Character
import ObservedConfig.Url.Direction
import ObservedConfig.Url.Punycode

/-! Domain names, whose labels stand between full stops. A label beyond ASCII has a second form,
which begins with `xn--` and spells the label in Punycode. -/
namespace ObservedConfig.Url.Domain

/-- The form in which a label is shown. A spelled label has to be stable, and beyond ASCII. -/
def shown? : List Char → Option (List Char)
  | 'x' :: 'n' :: '-' :: '-' :: spelled =>
    (Punycode.decode? spelled).filter fun label =>
      label.all Character.isStable && label.any (0x7f < ·.toNat)
  | label => some label

def isLabel (label : List Char) : Bool :=
  !label.any Character.isForbidden && !label.head?.any Text.isMark && Joining.allAllowed [] label

def labels? (name : List Char) : Option (List (List Char)) := do
  let folded ← name.mapM Character.fold?
  let labels := Text.splitOn '.' folded.flatten
  let shown ← labels.mapM shown?
  if shown.all isLabel && Direction.isOrdered shown then some labels else none

end ObservedConfig.Url.Domain
