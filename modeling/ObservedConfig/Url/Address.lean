import ObservedConfig.Text.Digit
import ObservedConfig.Text.Part

/-! Hosts that are addresses. An IPv4 address has up to four numbers, in any of three bases, and
the last of them fills the bytes that are left; an IPv6 address has eight groups of sixteen bits,
of which one run may be elided. -/
namespace ObservedConfig.Url.Address

/-- A number in base 16 after `0x`, in base 8 after another zero, and in base 10 otherwise. -/
def number? : List Char → Option Nat
  | [] => none
  | ['0', 'x'] | ['0', 'X'] => some 0
  | '0' :: 'x' :: digits | '0' :: 'X' :: digits => Text.natural? 16 digits
  | '0' :: digit :: digits => Text.natural? 8 (digit :: digits)
  | digits => Text.natural? 10 digits

/-- Digits alone count as a number even where their base does not admit them. -/
def isNumeric (label : List Char) : Bool :=
  (!label.isEmpty && label.all Char.isDigit) || (number? label).isSome

/-- A name that ends in a number has to be an address. One empty label may follow the number. -/
def endsInNumber (labels : List (List Char)) : Bool :=
  match labels.reverse with
  | [] :: last :: _ => isNumeric last
  | last :: _ => isNumeric last
  | [] => false

def isIpv4 (labels : List (List Char)) : Bool :=
  let labels := if labels.getLast? = some [] then labels.dropLast else labels
  match (labels.mapM number?).map List.reverse with
  | some (last :: front) =>
    front.length ≤ 3 && front.all (· < 256) && last < Nat.pow 256 (4 - front.length)
  | _ => false

def isByte (cs : List Char) : Bool :=
  (Text.natural? 10 cs).any (· < 256) && (cs.length == 1 || cs.head? != some '0')

/-- Four bytes separated by full stops, as they may stand for the last two groups. -/
def isQuad (cs : List Char) : Bool :=
  let bytes := Text.splitOn '.' cs
  bytes.length == 4 && bytes.all isByte

def isGroup (cs : List Char) : Bool := cs.length ≤ 4 && (Text.natural? 16 cs).isSome

def groupCount? : List (List Char) → Option Nat
  | [] => some 0
  | [last] => if isGroup last then some 1 else if isQuad last then some 2 else none
  | piece :: pieces => if isGroup piece then (groupCount? pieces).map (· + 1) else none

def elision? : List Char → Option (List Char × List Char)
  | ':' :: ':' :: rest => some ([], rest)
  | c :: rest => (elision? rest).map fun (before, behind) => (c :: before, behind)
  | [] => none

def pieces (cs : List Char) : List (List Char) := if cs.isEmpty then [] else Text.splitOn ':' cs

def isIpv6 (cs : List Char) : Bool :=
  match elision? cs with
  | none => groupCount? (pieces cs) == some 8
  | some (before, behind) =>
    (pieces before).all isGroup &&
      (groupCount? (pieces behind)).any fun count => (pieces before).length + count ≤ 7

end ObservedConfig.Url.Address
