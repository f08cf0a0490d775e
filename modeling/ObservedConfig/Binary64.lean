/-! Binary floating point values of 64 bits, given by their bit patterns. Numeric equality is said
on the bits: a NaN equals nothing, and the two zeros equal each other. -/
namespace ObservedConfig

structure Binary64 where
  bits : UInt64
  deriving DecidableEq, Inhabited

namespace Binary64

def signBit (x : Binary64) : Bool := x.bits >>> 63 == 1

def exponentField (x : Binary64) : Nat := ((x.bits >>> 52) &&& 0x7ff).toNat

def fractionField (x : Binary64) : Nat := (x.bits &&& 0xfffffffffffff).toNat

def isNaN (x : Binary64) : Bool := x.exponentField == 0x7ff && x.fractionField != 0

def isInfinite (x : Binary64) : Bool := x.exponentField == 0x7ff && x.fractionField == 0

def isFinite (x : Binary64) : Bool := x.exponentField != 0x7ff

def isZero (x : Binary64) : Bool := x.exponentField == 0 && x.fractionField == 0

/-- Numeric equality. -/
def same (x y : Binary64) : Bool :=
  !x.isNaN && !y.isNaN && (x == y || (x.isZero && y.isZero))

theorem same_self {x : Binary64} (h : x.isNaN = false) : x.same x = true := by simp [same, h]

theorem not_same_of_isNaN {x : Binary64} (h : x.isNaN = true) (y : Binary64) :
    x.same y = false := by simp [same, h]

def zero : Binary64 := ⟨0⟩
def infinity : Binary64 := ⟨0x7ff0000000000000⟩
def nan : Binary64 := ⟨0x7ff8000000000000⟩

def negate (x : Binary64) : Binary64 := ⟨x.bits ^^^ 0x8000000000000000⟩

def ofFloat (x : Float) : Binary64 := ⟨x.toBits⟩

/-- The nearest value to a natural number, ties to the even one. -/
def ofNat (n : Nat) : Binary64 := ofFloat (Float.ofNat n)

def ofInt (n : Int) : Binary64 := if n < 0 then (ofNat n.natAbs).negate else ofNat n.natAbs

/-- The nearest value to `digits · 10 ^ exponent`, ties to the even one. Outside the range of finite
values the power of ten is not computed: from `10 ^ 310` on the value is infinite, and below
`10 ^ -400` it is zero. -/
def ofDecimal (digits : Nat) (exponent : Int) : Binary64 :=
  let magnitude : Int := (Nat.toDigits 10 digits).length + exponent
  if digits == 0 then zero
  else if magnitude > 310 then infinity
  else if magnitude < -400 then zero
  else ofFloat (Float.ofScientific digits (decide (exponent < 0)) exponent.natAbs)

end Binary64

end ObservedConfig
