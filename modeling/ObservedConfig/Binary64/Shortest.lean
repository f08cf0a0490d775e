import ObservedConfig.Binary64

/-! The fewest decimal digits that read back as a given finite value, and of those the digits
nearest to it. A value `m · 2 ^ q` is decoded together with the interval of reals that round to it,
and the two neighbours of the value on the decimal grids of 1, 2, …, 17 digits are tested against
that interval in exact arithmetic. -/
namespace ObservedConfig.Binary64

/-- A decimal number `digits · 10 ^ exponent`. -/
structure Decimal where
  digits : Nat
  exponent : Int
  deriving DecidableEq, Inhabited

/-- Integer significand and exponent of two of a finite value, without its sign. -/
def significand (x : Binary64) : Nat × Int :=
  if x.exponentField == 0 then (x.fractionField, -1074)
  else (x.fractionField + 0x10000000000000, (x.exponentField : Int) - 1075)

/-- The reals rounding to a value, scaled to integers: the value is `value / unit`, and a real `r`
rounds to it when `low ≤ r · unit ≤ high`, without the ends unless `closed`. -/
structure Interval where
  low : Nat
  value : Nat
  high : Nat
  unit : Nat
  closed : Bool

/-- Below a power of two the values lie twice as close, so the interval is shorter there. -/
def interval (x : Binary64) : Interval :=
  let (m, q) := x.significand
  let narrow := x.fractionField == 0 && x.exponentField > 1
  let scale := Nat.pow 2 q.toNat
  { low := (if narrow then 4 * m - 1 else 4 * m - 2) * scale
    value := 4 * m * scale
    high := (4 * m + 2) * scale
    unit := 4 * Nat.pow 2 (-q).toNat
    closed := m % 2 == 0 }

def Decimal.fraction (d : Decimal) : Nat × Nat :=
  (d.digits * Nat.pow 10 d.exponent.toNat, Nat.pow 10 (-d.exponent).toNat)

def Interval.contains (i : Interval) (d : Decimal) : Bool :=
  let (num, den) := d.fraction
  if i.closed then i.low * den ≤ num * i.unit && num * i.unit ≤ i.high * den
  else i.low * den < num * i.unit && num * i.unit < i.high * den

/-- Distance to the value, scaled by `unit` and by the denominator of `d`. -/
def Interval.distance (i : Interval) (d : Decimal) : Nat :=
  let (num, den) := d.fraction
  let a := num * i.unit
  let b := i.value * den
  (a - b) + (b - a)

/-- The neighbours of the value among the multiples of `10 ^ exponent`: the one at or below it and
the one above. -/
def Interval.neighbours (i : Interval) (exponent : Int) : Decimal × Decimal :=
  let below := i.value * Nat.pow 10 (-exponent).toNat / (i.unit * Nat.pow 10 exponent.toNat)
  (⟨below, exponent⟩, ⟨below + 1, exponent⟩)

/-- The nearest neighbour that reads back, if one does; of two equally near ones the even one. -/
def Interval.nearest? (i : Interval) (exponent : Int) : Option Decimal :=
  let (a, b) := i.neighbours exponent
  match i.contains a, i.contains b with
  | true, true =>
    let da := i.distance a
    let db := i.distance b
    if da < db then some a else if db < da then some b
    else if a.digits % 2 == 0 then some a else some b
  | true, false => some a
  | false, true => some b
  | false, false => none

/-- How often a numerator can be multiplied by ten and stay below a denominator. -/
def zerosAfterPoint (unit : Nat) : Nat → Nat → Nat
  | 0, _ => 0
  | fuel + 1, n => if n * 10 < unit then zerosAfterPoint unit fuel (n * 10) + 1 else 0

/-- The decimal exponent of the leading digit: the greatest `e` with `10 ^ e ≤ value / unit`. No
finite value has more than 400 zeros after the point. -/
def Interval.leading (i : Interval) : Int :=
  let whole := i.value / i.unit
  if whole > 0 then ((Nat.toDigits 10 whole).length : Int) - 1
  else -(zerosAfterPoint i.unit 400 i.value : Int) - 1

def Decimal.strip (fuel : Nat) (d : Decimal) : Decimal :=
  match fuel with
  | 0 => d
  | fuel + 1 =>
    if d.digits != 0 && d.digits % 10 == 0 then strip fuel ⟨d.digits / 10, d.exponent + 1⟩ else d

/-- The shortest decimal that reads back as the magnitude of a finite value. -/
def shortest (x : Binary64) : Decimal :=
  if x.isZero then ⟨0, 0⟩
  else
    let i := x.interval
    let lead := i.leading
    let grids := (List.range 17).map fun (n : Nat) => lead - (n : Int)
    match grids.findSome? i.nearest? with
    | some d => d.strip 17
    | none => (i.neighbours (lead - 16)).1

end ObservedConfig.Binary64
