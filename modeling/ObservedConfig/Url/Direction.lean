import ObservedConfig.Text.Mark
import ObservedConfig.Text.Visible

/-! The direction of writing in a domain name. A label that begins with a character written from
the right holds no character written from the left, and each label ends in the direction it began,
so that a name with both directions is shown in one way only. -/
namespace ObservedConfig.Url

inductive Direction where
  | left
  | right
  | digit
  | arabicDigit
  | mark
  | neutral
  deriving DecidableEq, Inhabited

namespace Direction

def rightRanges : List (Nat × Nat) := [
  (0x5be, 0x5f4), (0x608, 0x608), (0x60b, 0x60b), (0x60d, 0x60d), (0x61b, 0x64a),
  (0x66d, 0x6d5), (0x6e5, 0x6e6), (0x6ee, 0x6ef), (0x6fa, 0x7f5), (0x7fa, 0x8c9),
  (0xfb1d, 0xfb28), (0xfb2a, 0xfd3d), (0xfd50, 0xfdc7), (0xfdf0, 0xfdfc), (0xfe70, 0xfefc),
  (0x10800, 0x1091b), (0x10920, 0x10b35), (0x10b40, 0x10d23), (0x10e80, 0x10ff6),
  (0x1e800, 0x1eebb)]

def arabicDigitRanges : List (Nat × Nat) := [
  (0x660, 0x669), (0x66b, 0x66c), (0x10d30, 0x10d39), (0x10e60, 0x10e7e)]

def digitRanges : List (Nat × Nat) := [(0x30, 0x39), (0x6f0, 0x6f9), (0x102e1, 0x102fb)]

def neutralRanges : List (Nat × Nat) := [
  (0x0, 0x2f), (0x3a, 0x40), (0x5b, 0x60), (0x7b, 0x7f), (0xa1, 0xa9), (0xab, 0xb4),
  (0xb6, 0xb9), (0xbb, 0xbf), (0xd7, 0xd7), (0xf7, 0xf7), (0x2b9, 0x2ba), (0x2c2, 0x2cf),
  (0x2d2, 0x2df), (0x2e5, 0x2ed), (0x2ef, 0x2ff), (0x374, 0x375), (0x3f6, 0x3f6),
  (0x58a, 0x58f), (0x606, 0x60f), (0x66a, 0x66a), (0x6de, 0x6de), (0x6e9, 0x6e9),
  (0x7f6, 0x7f9), (0x200c, 0x200d), (0x2010, 0x2064), (0x20a0, 0x20cf), (0x2140, 0x2144),
  (0x214a, 0x214d),
  (0x2150, 0x215f), (0x2189, 0x2335), (0x237b, 0x2394), (0x2396, 0x249b), (0x24ea, 0x26ab),
  (0x26ad, 0x27ff), (0x2900, 0x2bff), (0x2ce5, 0x2cea), (0x2cf9, 0x2cff), (0x2e00, 0x2ffb),
  (0x3001, 0x3004), (0x3008, 0x3020), (0x3030, 0x3030), (0x3036, 0x3037), (0x303d, 0x303f),
  (0x30a0, 0x30a0), (0x30fb, 0x30fb), (0x31c0, 0x31e3), (0x4dc0, 0x4dff), (0xa490, 0xa4c6),
  (0xa700, 0xa721), (0xfd3e, 0xfd4f), (0xfdcf, 0xfdcf), (0xfdfd, 0xfe6b), (0x1eef0, 0x1f10f),
  (0x1f260, 0x1fbca)]

def ofChar (c : Char) : Direction :=
  if Text.isMark c && !Text.isVisible c then mark
  else if Text.among digitRanges c then digit
  else if Text.among arabicDigitRanges c then arabicDigit
  else if Text.among rightRanges c then right
  else if Text.among neutralRanges c then neutral
  else left

def agree (directions : List Direction) : Bool :=
  let last? := (directions.reverse.dropWhile (· == mark)).head?
  match directions.head? with
  | some right =>
    !directions.contains left && !(directions.contains digit && directions.contains arabicDigit) &&
      last?.any fun d => d == right || d == digit || d == arabicDigit
  | some left =>
    !directions.contains right && !directions.contains arabicDigit &&
      last?.any fun d => d == left || d == digit
  | _ => false

/-- Without a character written from the right, nothing is asked of a name's labels. -/
def isOrdered (labels : List (List Char)) : Bool :=
  let directions := labels.map (·.map ofChar)
  let isMixed := directions.any fun ds => ds.contains right || ds.contains arabicDigit
  !isMixed || directions.all fun ds => ds.isEmpty || agree ds

end Direction
end ObservedConfig.Url
