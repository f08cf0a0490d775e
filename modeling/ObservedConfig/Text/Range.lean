/-! Sets of characters given by ranges of code points. -/
namespace ObservedConfig.Text

/-- Whether a character is in one of the ranges, whose ends belong to them. -/
def among (ranges : List (Nat × Nat)) (c : Char) : Bool :=
  ranges.any fun (low, high) => low ≤ c.toNat && c.toNat ≤ high

end ObservedConfig.Text
