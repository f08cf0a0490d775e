/-! Bytes as text in base 64. Each symbol stands for six bits; the last group of four symbols may
be padded, and is canonical: padded to four symbols, with no bit set beyond the last byte. -/
namespace ObservedConfig.Base64

abbrev Bytes := List UInt8

def symbol (n : Nat) : Char :=
  if n < 26 then Char.ofNat ('A'.toNat + n)
  else if n < 52 then Char.ofNat ('a'.toNat + (n - 26))
  else if n < 62 then Char.ofNat ('0'.toNat + (n - 52))
  else if n = 62 then '+' else '/'

def padding : UInt8 := 61

def value? (byte : UInt8) : Option Nat :=
  let n := byte.toNat
  if 65 ≤ n ∧ n ≤ 90 then some (n - 65)
  else if 97 ≤ n ∧ n ≤ 122 then some (n - 97 + 26)
  else if 48 ≤ n ∧ n ≤ 57 then some (n - 48 + 52)
  else if n = 43 then some 62
  else if n = 47 then some 63
  else none

def encodeChars : Bytes → List Char
  | [] => []
  | [a] =>
    let n := a.toNat * 16
    [symbol (n / 64), symbol (n % 64), '=', '=']
  | [a, b] =>
    let n := (a.toNat * 256 + b.toNat) * 4
    [symbol (n / 4096), symbol (n / 64 % 64), symbol (n % 64), '=']
  | a :: b :: c :: rest =>
    let n := (a.toNat * 256 + b.toNat) * 256 + c.toNat
    symbol (n / 262144) :: symbol (n / 4096 % 64) :: symbol (n / 64 % 64) :: symbol (n % 64)
      :: encodeChars rest

def encode (bytes : Bytes) : String := String.ofList (encodeChars bytes)

inductive Fault where
  | symbol (byte : UInt8) (offset : Nat)
  /-- One symbol is left over. -/
  | length (count : Nat)
  /-- The last symbol holds bits of no byte. -/
  | lastSymbol (byte : UInt8) (offset : Nat)
  | padding
  deriving DecidableEq, Inhabited

def Fault.message : Fault → String
  | .symbol byte offset =>
    "Invalid symbol " ++ toString byte ++ ", offset " ++ toString offset ++ "."
  | .length count => "Invalid input length: " ++ toString count
  | .lastSymbol byte offset =>
    "Invalid last symbol " ++ toString byte ++ ", offset " ++ toString offset ++ "."
  | .padding => "Invalid padding"

def bits (byte : UInt8) (offset : Nat) : Except Fault Nat :=
  match value? byte with
  | some n => .ok n
  | none => .error (.symbol byte offset)

/-- The symbols of the last group, and how many paddings follow them. `offset` is that of the next
byte, and `first` that of the first padding. -/
def lastGroup (start : Nat) : Nat → List (UInt8 × Nat) → Nat → Bytes →
    Except Fault (List (UInt8 × Nat) × Nat)
  | _, symbols, paddings, [] => .ok (symbols, paddings)
  | index, symbols, paddings, byte :: rest =>
    if byte = padding then
      if index < 2 then .error (.symbol byte (start + index))
      else lastGroup start (index + 1) symbols (paddings + 1) rest
    else if paddings > 0 then .error (.symbol padding (start + symbols.length))
    else do
      let n ← bits byte (start + index)
      lastGroup start (index + 1) (symbols ++ [(byte, n)]) 0 rest

def decodeLast (start : Nat) (bytes : Bytes) : Except Fault Bytes := do
  let (symbols, paddings) ← lastGroup start 0 [] 0 bytes
  if symbols.length < 2 then
    if start == 0 && bytes.isEmpty then return [] else .error (.length (start + symbols.length))
  else if (symbols.length + paddings) % 4 != 0 then .error .padding
  else
    let n := symbols.foldl (fun n (_, b) => n * 64 + b) 0
    let last := (symbols.getLast?.map (·.1)).getD 0
    let unused := .error (.lastSymbol last (start + symbols.length - 1))
    match symbols.length with
    | 2 => if n % 16 = 0 then .ok [(n / 16).toUInt8] else unused
    | 3 => if n % 4 = 0 then .ok [(n / 1024).toUInt8, (n / 4 % 256).toUInt8] else unused
    | _ => .ok [(n / 65536).toUInt8, (n / 256 % 256).toUInt8, (n % 256).toUInt8]

def decodeFrom (offset : Nat) : Bytes → Except Fault Bytes
  | a :: b :: c :: d :: next :: rest => do
    let n := (((← bits a offset) * 64 + (← bits b (offset + 1))) * 64 +
      (← bits c (offset + 2))) * 64 + (← bits d (offset + 3))
    return (n / 65536).toUInt8 :: (n / 256 % 256).toUInt8 :: (n % 256).toUInt8
      :: (← decodeFrom (offset + 4) (next :: rest))
  | bytes => decodeLast offset bytes

/-- A stray symbol behind complete groups is reported before all else. -/
def strayEnd (bytes : Bytes) : Except Fault Unit :=
  match bytes.getLast? with
  | some last =>
    if bytes.length % 4 = 1 ∧ last ≠ padding ∧ value? last = none then
      .error (.symbol last (bytes.length - 1))
    else .ok ()
  | none => .ok ()

def decode (s : String) : Except Fault Bytes := do
  let bytes := s.toUTF8.data.toList
  strayEnd bytes
  decodeFrom 0 bytes

end ObservedConfig.Base64
