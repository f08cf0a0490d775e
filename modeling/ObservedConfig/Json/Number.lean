import ObservedConfig.Datum

/-! Numbers in JSON text. An integer that fits 64 bits stays one; every other number is a
floating point value, namely the digits as a value, scaled by one power of ten. Digits that no
longer fit an unsigned 64-bit integer only count towards the scale. -/
namespace ObservedConfig.Json

/-- The digits read so far: `significand · 10 ^ exponent`. -/
structure Magnitude where
  significand : Nat
  exponent : Int
  deriving Inhabited

def maxSignificand : Nat := 0xffffffffffffffff

def digitValue (c : Char) : Nat := c.toNat - '0'.toNat

/-- The digits before the point, and whether one of them was dropped. -/
def integerDigits : List Char → Magnitude → Bool → Magnitude × Bool
  | [], m, dropped => (m, dropped)
  | c :: rest, m, dropped =>
    let next := m.significand * 10 + digitValue c
    if dropped || next > maxSignificand then
      integerDigits rest { m with exponent := m.exponent + 1 } true
    else integerDigits rest { m with significand := next } false

/-- The digits after the point; the first that does not fit ends them. -/
def fractionDigits : List Char → Magnitude → Magnitude
  | [], m => m
  | c :: rest, m =>
    let next := m.significand * 10 + digitValue c
    if next > maxSignificand then m
    else fractionDigits rest ⟨next, m.exponent - 1⟩

def largestPower : Nat := 308

/-- Scales a value by a power of ten; dividing goes in steps of the largest power. -/
def scale (fuel : Nat) (x : Float) (exponent : Int) : Option Float :=
  if exponent.natAbs ≤ largestPower then
    let power := Float.ofScientific 1 false exponent.natAbs
    let scaled := if exponent < 0 then x / power else x * power
    if scaled.isInf then none else some scaled
  else if x == 0.0 then some x
  else if exponent > 0 then none
  else match fuel with
    | 0 => some 0.0
    | fuel + 1 => scale fuel (x / Float.ofScientific 1 false largestPower) (exponent + largestPower)

def Magnitude.toFloat? (m : Magnitude) : Option Float :=
  scale 4 (Float.ofNat m.significand) m.exponent

def number? (negative : Bool) (whole : List Char) (fraction exponent : Option (List Char))
    (negativeExponent : Bool) : Option Datum :=
  let (m, dropped) := integerDigits whole ⟨0, 0⟩ false
  let floating (m : Magnitude) : Option Datum :=
    m.toFloat?.map fun x => .float (.ofFloat (if negative then -x else x))
  match fraction, exponent with
  | none, none =>
    if dropped then floating m
    else if !negative then some (.int m.significand)
    else if 0 < m.significand && m.significand ≤ 0x8000000000000000 then
      some (.int (-(m.significand : Int)))
    else floating m
  | _, _ =>
    let m := fractionDigits (fraction.getD []) m
    let (shift, _) := integerDigits (exponent.getD []) ⟨0, 0⟩ false
    let shift : Int := shift.significand
    floating { m with exponent := m.exponent + (if negativeExponent then -shift else shift) }

end ObservedConfig.Json
