import ObservedConfig.Entries
import ObservedConfig.Json.Number
import ObservedConfig.Text.Digit

/-! Reading JSON text. Objects come out with their keys in increasing order, and of several values
of one key the last counts. -/
namespace ObservedConfig.Json

def isSpace (c : Char) : Bool := c == ' ' || c == '\t' || c == '\n' || c == '\r'

def skipSpace (cs : List Char) : List Char := cs.dropWhile isSpace

def hexUnit? : List Char → Option (Nat × List Char)
  | a :: b :: c :: d :: rest => (Text.natural? 16 [a, b, c, d]).map fun n => (n, rest)
  | _ => none

def isHighSurrogate (n : Nat) : Bool := 0xd800 ≤ n && n < 0xdc00
def isLowSurrogate (n : Nat) : Bool := 0xdc00 ≤ n && n < 0xe000

/-- The character after `\u`; outside the basic plane it is written as two units. -/
def unicodeEscape? (cs : List Char) : Option (Char × List Char) := do
  let (unit, rest) ← hexUnit? cs
  if isHighSurrogate unit then
    match rest with
    | '\\' :: 'u' :: rest =>
      let (low, rest) ← hexUnit? rest
      if isLowSurrogate low then
        some (Char.ofNat (0x10000 + (unit - 0xd800) * 0x400 + (low - 0xdc00)), rest)
      else none
    | _ => none
  else if isLowSurrogate unit then none
  else some (Char.ofNat unit, rest)

/-- The rest of a string behind its opening quote, with the characters before it in reverse. -/
def string? (fuel : Nat) (cs : List Char) (done : List Char) : Option (String × List Char) :=
  match fuel with
  | 0 => none
  | fuel + 1 =>
    match cs with
    | '"' :: rest => some (String.ofList done.reverse, rest)
    | '\\' :: 'u' :: rest => do
      let (c, rest) ← unicodeEscape? rest
      string? fuel rest (c :: done)
    | '\\' :: c :: rest =>
      match c with
      | '"' | '\\' | '/' => string? fuel rest (c :: done)
      | 'b' => string? fuel rest ('\x08' :: done)
      | 'f' => string? fuel rest ('\x0c' :: done)
      | 'n' => string? fuel rest ('\n' :: done)
      | 'r' => string? fuel rest ('\r' :: done)
      | 't' => string? fuel rest ('\t' :: done)
      | _ => none
    | c :: rest => if c.toNat < 0x20 then none else string? fuel rest (c :: done)
    | [] => none

def digits? (cs : List Char) : Option (List Char × List Char) :=
  let digits := cs.takeWhile Char.isDigit
  if digits.isEmpty then none else some (digits, cs.dropWhile Char.isDigit)

def sign : List Char → Bool × List Char
  | '-' :: rest => (true, rest)
  | cs => (false, cs)

def fraction? : List Char → Option (Option (List Char) × List Char)
  | '.' :: rest => (digits? rest).map fun (digits, rest) => (some digits, rest)
  | cs => some (none, cs)

def exponent? (cs : List Char) : Option (Option (List Char) × Bool × List Char) :=
  let behind (rest : List Char) :=
    let (negative, rest) := match rest with
      | '+' :: rest => (false, rest)
      | rest => sign rest
    (digits? rest).map fun (digits, rest) => (some digits, negative, rest)
  match cs with
  | 'e' :: rest => behind rest
  | 'E' :: rest => behind rest
  | cs => some (none, false, cs)

def numeral? (cs : List Char) : Option (Datum × List Char) := do
  let (negative, cs) := sign cs
  let (whole, cs) ← digits? cs
  if whole.length > 1 && whole.head? == some '0' then none
  else
    let (fraction, cs) ← fraction? cs
    let (exponent, negativeExponent, cs) ← exponent? cs
    return (← number? negative whole fraction exponent negativeExponent, cs)

mutual

def value? (fuel : Nat) (cs : List Char) : Option (Datum × List Char) :=
  match fuel with
  | 0 => none
  | fuel + 1 =>
    match skipSpace cs with
    | 'n' :: 'u' :: 'l' :: 'l' :: rest => some (.null, rest)
    | 't' :: 'r' :: 'u' :: 'e' :: rest => some (.bool true, rest)
    | 'f' :: 'a' :: 'l' :: 's' :: 'e' :: rest => some (.bool false, rest)
    | '"' :: rest => (string? rest.length rest []).map fun (s, rest) => (.text s, rest)
    | '[' :: rest =>
      match skipSpace rest with
      | ']' :: rest => some (.seq [], rest)
      | rest => (items? fuel rest).map fun (items, rest) => (.seq items, rest)
    | '\x7b' :: rest =>
      match skipSpace rest with
      | '\x7d' :: rest => some (.map [], rest)
      | rest => (members? fuel rest).map fun (members, rest) =>
        (.object (Entries.ofList members), rest)
    | cs => numeral? cs

def items? (fuel : Nat) (cs : List Char) : Option (List Datum × List Char) :=
  match fuel with
  | 0 => none
  | fuel + 1 => do
    let (item, rest) ← value? fuel cs
    match skipSpace rest with
    | ',' :: rest => (items? fuel rest).map fun (items, rest) => (item :: items, rest)
    | ']' :: rest => some ([item], rest)
    | _ => none

def members? (fuel : Nat) (cs : List Char) : Option (List (String × Datum) × List Char) :=
  match fuel with
  | 0 => none
  | fuel + 1 =>
    match skipSpace cs with
    | '"' :: rest => do
      let (name, rest) ← string? rest.length rest []
      match skipSpace rest with
      | ':' :: rest =>
        let (value, rest) ← value? fuel rest
        match skipSpace rest with
        | ',' :: rest =>
          (members? fuel rest).map fun (members, rest) => ((name, value) :: members, rest)
        | '\x7d' :: rest => some ([(name, value)], rest)
        | _ => none
      | _ => none
    | _ => none

end

/-- The value a whole text holds. Every step consumes a character, so the length of the text bounds
the nesting. -/
def read? (text : String) : Option Datum :=
  let cs := text.toList
  match value? (cs.length + 1) cs with
  | some (value, rest) => if (skipSpace rest).isEmpty then some value else none
  | none => none

end ObservedConfig.Json
