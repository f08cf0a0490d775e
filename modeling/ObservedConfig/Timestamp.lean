import ObservedConfig.Datum.Shape
import ObservedConfig.Text.Digit
import ObservedConfig.Text.Space

/-! Points in time to the second, written `2024-05-01T12:30:00Z`. A fraction of a second is read
over, and a time with an offset is moved to the time zone without one. -/
namespace ObservedConfig

structure Timestamp where
  year : Nat
  month : Nat
  day : Nat
  hour : Nat
  minute : Nat
  second : Nat
  deriving DecidableEq, Inhabited

namespace Timestamp

inductive Fault where
  | tooShort
  | tooLong
  | invalid
  | outOfRange
  deriving DecidableEq, Inhabited

def Fault.message : Fault → String
  | tooShort => "premature end of input"
  | tooLong => "trailing input"
  | invalid => "input contains invalid characters"
  | outOfRange => "input is out of range"

/-! ## Dates -/

def isLeapYear (year : Nat) : Bool := year % 4 == 0 && (year % 100 != 0 || year % 400 == 0)

def daysIn (year month : Nat) : Nat :=
  if month == 2 then if isLeapYear year then 29 else 28
  else if [4, 6, 9, 11].contains month then 30
  else 31

def isDate (t : Timestamp) : Bool :=
  1 ≤ t.month && t.month ≤ 12 && 1 ≤ t.day && t.day ≤ daysIn t.year t.month

def dayAfter (t : Timestamp) : Timestamp :=
  if t.day < daysIn t.year t.month then { t with day := t.day + 1 }
  else if t.month < 12 then { t with month := t.month + 1, day := 1 }
  else { t with year := t.year + 1, month := 1, day := 1 }

def dayBefore (t : Timestamp) : Timestamp :=
  if 1 < t.day then { t with day := t.day - 1 }
  else if 1 < t.month then { t with month := t.month - 1, day := daysIn t.year (t.month - 1) }
  else { t with year := t.year - 1, month := 12, day := 31 }

/-- Moves a time by fewer minutes than a day has. -/
def move (t : Timestamp) (minutes : Int) : Timestamp :=
  let total := (t.hour * 60 + t.minute : Int) + minutes
  let (t, total) :=
    if total < 0 then (t.dayBefore, total + 1440)
    else if 1440 ≤ total then (t.dayAfter, total - 1440)
    else (t, total)
  { t with hour := total.toNat / 60, minute := total.toNat % 60 }

/-! ## The written form -/

def padded (width n : Nat) : String :=
  let digits := toString n
  "".pushn '0' (width - digits.length) ++ digits

def toText (t : Timestamp) : String :=
  padded 4 t.year ++ "-" ++ padded 2 t.month ++ "-" ++ padded 2 t.day ++ "T" ++
    padded 2 t.hour ++ ":" ++ padded 2 t.minute ++ ":" ++ padded 2 t.second ++ "Z"

/-- A number of up to `width` digits, not above `most`. Spaces before it do not count. -/
def number (width most : Nat) (cs : List Char) : Except Fault (Nat × List Char) :=
  let cs := cs.dropWhile Text.isWhiteSpace
  let digits := (cs.take width).takeWhile Char.isDigit
  match Text.natural? 10 digits with
  | none => .error (if cs.isEmpty then .tooShort else .invalid)
  | some n => if n ≤ most then .ok (n, cs.drop digits.length) else .error .outOfRange

def mark (marks : List Char) : List Char → Except Fault (List Char)
  | [] => .error .tooShort
  | c :: cs => if marks.contains c then .ok cs else .error .invalid

def skipFraction : List Char → Except Fault (List Char)
  | '.' :: [] => .error .tooShort
  | '.' :: c :: cs => if c.isDigit then .ok (cs.dropWhile Char.isDigit) else .error .invalid
  | cs => .ok cs

def offset : List Char → Except Fault (Int × List Char)
  | [] => .error .tooShort
  | sign :: cs => do
    if sign == 'Z' || sign == 'z' then return (0, cs)
    if sign != '+' && sign != '-' then throw .invalid
    let pair : List Char → Except Fault (Nat × List Char)
      | a :: b :: rest =>
        match Text.natural? 10 [a, b] with
        | some n => .ok (n, rest)
        | none => .error .invalid
      | _ => .error .tooShort
    let (hours, cs) ← pair cs
    let (minutes, cs) ← pair (cs.dropWhile fun c => c == ':' || Text.isWhiteSpace c)
    if 59 < minutes || 23 < hours then throw .outOfRange
    let total : Int := hours * 60 + minutes
    return (if sign == '-' then -total else total, cs)

def read (text : String) : Except Fault Timestamp := do
  let (year, cs) ← number 4 9999 text.toList
  let (month, cs) ← number 2 12 (← mark ['-'] cs)
  let (day, cs) ← number 2 31 (← mark ['-'] cs)
  let (hour, cs) ← number 2 23 (← mark ['T', 't', ' '] cs)
  let (minute, cs) ← number 2 59 (← mark [':'] cs)
  let (second, cs) ← number 2 60 (← mark [':'] cs)
  let (minutes, cs) ← offset ((← skipFraction cs).dropWhile Text.isWhiteSpace)
  if !(cs.all Text.isWhiteSpace) then throw .tooLong
  let t : Timestamp := ⟨year, month, day, hour, minute, second⟩
  if t.isDate then return t.move (-minutes) else throw .outOfRange

def ofDatum : Read Timestamp := fun d =>
  match d.untag with
  | .text s => (read s).mapError fun fault => .malformed fault.message
  | d => .error (.wrongType d "an RFC 3339 formatted date and time string")

def toDatum (t : Timestamp) : Datum := .text t.toText

end Timestamp

end ObservedConfig
