import ObservedConfig.Binary64.Shortest
import ObservedConfig.Text.Digit

/-! The written forms of a floating point value. All of them use the shortest digits that read
back; they differ in where positional notation ends and in the texts of the other values. -/
namespace ObservedConfig.Binary64

/-- Digits with `point` of them before the decimal point, which may lie outside the digits. -/
def positional (digits : String) (point : Int) : String :=
  if point ≤ 0 then "0." ++ "".pushn '0' (-point).toNat ++ digits
  else if digits.length ≤ point.toNat then
    digits ++ "".pushn '0' (point.toNat - digits.length)
  else (digits.take point.toNat).toString ++ "." ++ (digits.drop point.toNat).toString

def withPoint (text : String) : String := if text.contains '.' then text else text ++ ".0"

def scientific (digits : String) (point : Int) : String :=
  let head := (digits.take 1).toString
  let tail := (digits.drop 1).toString
  head ++ (if tail.isEmpty then "" else "." ++ tail) ++ "e" ++ toString (point - 1)

def sign (x : Binary64) : String := if x.signBit then "-" else ""

/-- A finite value as documents hold it: positional from `10 ^ -5` up to below `10 ^ 16` and with a
point in it, and scientific otherwise. -/
def documentText (x : Binary64) : String :=
  if x.isZero then x.sign ++ "0.0"
  else
    let d := x.shortest
    let digits := toString d.digits
    let point : Int := digits.length + d.exponent
    x.sign ++
      if -5 < point && point ≤ 16 then withPoint (positional digits point)
      else scientific digits point

/-- A value as messages show it: positional whatever its size, and with a point in it. -/
def plainText (x : Binary64) : String :=
  if x.isNaN then "NaN"
  else if x.isInfinite then x.sign ++ "inf"
  else
    let d := x.shortest
    let digits := toString d.digits
    x.sign ++ withPoint (if x.isZero then "0" else positional digits (digits.length + d.exponent))

def hex (x : Binary64) : String := Text.hex x.bits.toNat 16

end ObservedConfig.Binary64
