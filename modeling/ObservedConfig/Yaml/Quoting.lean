import ObservedConfig.Yaml.Character
import ObservedConfig.Yaml.Plain

/-! The written form of a text in YAML. A text with a line feed is a literal block; a text that a
plain scalar would turn into another value is put in single quotes; every other text is plain where
its characters allow it. Characters that cannot stand for themselves, and spaces at the ends of
lines, force double quotes. -/
namespace ObservedConfig.Yaml

inductive Style where
  | plain
  | single
  | double
  | literal
  deriving DecidableEq

/-- What the characters of a text rule out. -/
structure Traits where
  /-- Indicators that a plain scalar of a block cannot hold. -/
  indicator : Bool
  /-- Characters that only escapes can show. -/
  special : Bool
  /-- Any line break. -/
  multiline : Bool
  /-- A space or break at an end. -/
  ragged : Bool
  trailingSpace : Bool
  /-- A space right after a break. -/
  breakSpace : Bool
  /-- A space right before a break. -/
  spaceBreak : Bool

def startsLikeMarker (cs : List Char) : Bool :=
  cs.take 3 == ['-', '-', '-'] || cs.take 3 == ['.', '.', '.']

/-- Characters that end a plain scalar's claim when they come first. -/
def isLeadingIndicator (c : Char) : Bool :=
  ['#', ',', '[', ']', '\x7b', '\x7d', '&', '*', '!', '|', '>', '\'', '"', '%', '@', '`'].contains c

def firstIndicator (c : Char) (next : Option Char) : Bool :=
  isLeadingIndicator c || ((c == '?' || c == ':' || c == '-') && endsWord next)

/-- A colon before, or a comment sign after, a blank. -/
def innerIndicator : Char → List Char → Bool
  | _, [] => false
  | previous, c :: rest =>
    (c == ':' && endsWord rest.head?) || (c == '#' && endsWord (some previous)) ||
      innerIndicator c rest

def hasIndicator (cs : List Char) : Bool :=
  match cs with
  | [] => false
  | c :: rest => startsLikeMarker cs || firstIndicator c rest.head? || innerIndicator c rest

def hasNeighbours (p q : Char → Bool) : List Char → Bool
  | a :: b :: rest => (p a && q b) || hasNeighbours p q (b :: rest)
  | _ => false

def isSpaceChar (c : Char) : Bool := c == ' '

def Traits.of (cs : List Char) : Traits where
  indicator := hasIndicator cs
  special := cs.any fun c => !isPrintable c
  multiline := cs.any isBreak
  ragged := (cs.head?.any fun c => c == ' ' || isBreak c) ||
    (cs.getLast?.any fun c => c == ' ' || isBreak c)
  trailingSpace := cs.getLast?.any isSpaceChar
  breakSpace := hasNeighbours isBreak isSpaceChar cs
  spaceBreak := hasNeighbours isSpaceChar isBreak cs

def readsAsText (s : String) : Bool := Plain.ofString s == .text && !Plain.isPaddedDigits s.toList

/-- The style of a text; a text on one line stands as a simple key as well. -/
def Style.of (s : String) : Style :=
  let traits := Traits.of s.toList
  if s.contains '\n' then
    if traits.trailingSpace || traits.spaceBreak || traits.special then .double else .literal
  else
    let plainAllowed := !traits.ragged && !traits.breakSpace && !traits.spaceBreak &&
      !traits.special && !traits.multiline && !traits.indicator
    let singleAllowed := !traits.breakSpace && !traits.spaceBreak && !traits.special
    if readsAsText s && plainAllowed then .plain
    else if singleAllowed then .single
    else .double

def spaces (n : Nat) : String := "".pushn ' ' n

def upperHex (n width : Nat) : String := (Text.hex n width).toUpper

def escapeChar (c : Char) : String :=
  match c.toNat with
  | 0x00 => "\\0"
  | 0x07 => "\\a"
  | 0x08 => "\\b"
  | 0x09 => "\\t"
  | 0x0a => "\\n"
  | 0x0b => "\\v"
  | 0x0c => "\\f"
  | 0x0d => "\\r"
  | 0x1b => "\\e"
  | 0x22 => "\\\""
  | 0x5c => "\\\\"
  | 0x85 => "\\N"
  | 0xa0 => "\\_"
  | 0x2028 => "\\L"
  | 0x2029 => "\\P"
  | n =>
    if n ≤ 0xff then "\\x" ++ upperHex n 2
    else if n ≤ 0xffff then "\\u" ++ upperHex n 4
    else "\\U" ++ upperHex n 8

def needsEscape (c : Char) : Bool := !isPrintable c || isBreak c || c == '"' || c == '\\'

def doubleQuoted (s : String) : String :=
  "\"" ++ String.join (s.toList.map fun c => if needsEscape c then escapeChar c else c.toString)
    ++ "\""

/-- Lines between single quotes: after a break the next line starts at `indent`. -/
def singleLines (indent : Nat) : List Char → Bool → String
  | [], afterBreak => if afterBreak then spaces indent else ""
  | c :: rest, afterBreak =>
    if isBreak c then c.toString ++ singleLines indent rest true
    else if c == ' ' then " " ++ singleLines indent rest afterBreak
    else
      (if afterBreak then spaces indent else "") ++ (if c == '\'' then "''" else c.toString)
        ++ singleLines indent rest false

def singleQuoted (indent : Nat) (s : String) : String :=
  "'" ++ singleLines indent s.toList false ++ "'"

def chomping (cs : List Char) : String :=
  match cs.reverse with
  | [] => "-"
  | last :: before =>
    if !isBreak last then "-"
    else match before with
      | [] => "+"
      | c :: _ => if isBreak c then "+" else ""

def literalLines (indent : Nat) : List Char → Bool → String
  | [], _ => ""
  | c :: rest, fresh =>
    if isBreak c then c.toString ++ literalLines indent rest true
    else (if fresh then spaces indent else "") ++ c.toString ++ literalLines indent rest false

/-- A literal block; its indentation is announced where its first line does not show it. -/
def literalBlock (indent : Nat) (s : String) : String :=
  let cs := s.toList
  let announced := cs.head?.any fun c => c == ' ' || isBreak c
  "|" ++ (if announced then "2" else "") ++ chomping cs ++ "\n" ++ literalLines indent cs true

def writeText (indent : Nat) (s : String) : String :=
  match Style.of s with
  | .plain => s
  | .single => singleQuoted indent s
  | .double => doubleQuoted s
  | .literal => literalBlock indent s

/-- Keys of one line and at most 128 bytes stand before a colon; others need a mark of their own. -/
def isSimpleKey (s : String) : Bool := !s.toList.any isBreak && s.utf8ByteSize ≤ 128

end ObservedConfig.Yaml
