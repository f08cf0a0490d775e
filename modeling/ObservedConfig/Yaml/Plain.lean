import ObservedConfig.Binary64
import ObservedConfig.Text.Digit

/-! What a plain scalar stands for. Words for null and for booleans are closed lists; an integer may
have a sign and a base; a decimal integer with a leading zero is a text; what is left is a floating
point value if it is a finite decimal number, and a text otherwise. -/
namespace ObservedConfig.Yaml

/-- The meaning of a plain scalar. An integer has at most 128 bits. -/
inductive Plain where
  | null
  | bool (value : Bool)
  | int (value : Int)
  | float (value : Binary64)
  | text
  deriving DecidableEq

namespace Plain

def isNullWord (s : String) : Bool := ["null", "Null", "NULL", "~"].contains s

def boolWord? (s : String) : Option Bool :=
  if ["true", "True", "TRUE"].contains s then some true
  else if ["false", "False", "FALSE"].contains s then some false
  else none

def isSign (c : Char) : Bool := c == '+' || c == '-'

/-- A leading zero before further digits, after an optional sign: digits that are no number. -/
def isPaddedDigits (cs : List Char) : Bool :=
  let cs := match cs with
    | c :: rest => if isSign c then rest else cs
    | [] => []
  match cs with
  | '0' :: rest => !rest.isEmpty && rest.all Char.isDigit
  | _ => false

def radixMark? : List Char → Option (Nat × List Char)
  | '0' :: 'x' :: rest => some (16, rest)
  | '0' :: 'o' :: rest => some (8, rest)
  | '0' :: 'b' :: rest => some (2, rest)
  | _ => none

def magnitude? (cs : List Char) : Option Nat :=
  let marked? := (radixMark? cs).bind fun (radix, digits) => Text.natural? radix digits
  marked?.orElse fun _ => if isPaddedDigits cs then none else Text.natural? 10 cs

def integer? : List Char → Option Int
  | '-' :: cs => (magnitude? cs).map fun n => -(n : Int)
  | '+' :: cs => (magnitude? cs).map Int.ofNat
  | cs => (magnitude? cs).map Int.ofNat

/-- An unsigned decimal number with optional fraction and exponent: its digits as one number and
the power of ten that scales it. -/
def decimal? (cs : List Char) : Option (Nat × Int) := do
  let whole := cs.takeWhile Char.isDigit
  let cs := cs.dropWhile Char.isDigit
  let (fraction, cs) := match cs with
    | '.' :: rest => (rest.takeWhile Char.isDigit, rest.dropWhile Char.isDigit)
    | _ => ([], cs)
  let digits ← Text.natural? 10 (whole ++ fraction)
  let exponent ← match cs with
    | [] => some 0
    | c :: rest =>
      if c != 'e' && c != 'E' then none
      else match rest with
        | '-' :: rest => (Text.natural? 10 rest).map fun n => -(n : Int)
        | '+' :: rest => (Text.natural? 10 rest).map Int.ofNat
        | rest => (Text.natural? 10 rest).map Int.ofNat
  return (digits, exponent - fraction.length)

/-- A floating point value: a word for infinity or for no number, or a decimal number whose value
is finite. -/
def float? (s : String) : Option Binary64 :=
  let unsigned := if s.startsWith "+" then (s.drop 1).toString else s
  if s.startsWith "+" && (unsigned.startsWith "+" || unsigned.startsWith "-") then none
  else if [".inf", ".Inf", ".INF"].contains unsigned then some .infinity
  else if ["-.inf", "-.Inf", "-.INF"].contains s then some Binary64.infinity.negate
  else if [".nan", ".NaN", ".NAN"].contains s then some .nan
  else do
    let (negative, cs) := match unsigned.toList with
      | '-' :: rest => (true, rest)
      | cs => (false, cs)
    let (digits, exponent) ← decimal? cs
    let x := Binary64.ofDecimal digits exponent
    if x.isFinite then some (if negative then x.negate else x) else none

def fits128 (n : Int) : Bool :=
  -0x80000000000000000000000000000000 ≤ n && n < 0x100000000000000000000000000000000

def boundedInteger? (s : String) : Option Plain :=
  (integer? s.toList).bind fun n => if fits128 n then some (.int n) else none

def ofString (s : String) : Plain :=
  if s.isEmpty || isNullWord s then .null
  else match boolWord? s with
    | some b => .bool b
    | none =>
      match boundedInteger? s with
      | some n => n
      | none =>
        if isPaddedDigits s.toList then .text
        else match float? s with
          | some x => .float x
          | none => .text

end Plain

end ObservedConfig.Yaml
