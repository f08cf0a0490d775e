import ObservedConfig.Yaml.Character

/-! A place in a YAML text: what is left of the text, and the line and column it starts at. Lines
and columns decide how a YAML text is read, so every step keeps count of them. -/
namespace ObservedConfig.Yaml

structure Cursor where
  rest : List Char
  /-- Characters before this place. -/
  index : Nat
  line : Nat
  column : Nat
  deriving Inhabited

namespace Cursor

def start (cs : List Char) : Cursor := ⟨cs, 0, 0, 0⟩

def next? (c : Cursor) : Option Char := c.rest.head?

def at? (c : Cursor) (n : Nat) : Option Char := c.rest[n]?

def isAtEnd (c : Cursor) : Bool := c.rest.isEmpty

def sees (c : Cursor) (p : Char → Bool) : Bool := c.next?.any p

def endsWordAt (c : Cursor) (n : Nat) : Bool := endsWord (c.at? n)

def seesBreak (c : Cursor) : Bool := c.sees isBreak

def endsLine (c : Cursor) : Bool := c.isAtEnd || c.seesBreak

def skip (c : Cursor) : Cursor :=
  match c.rest with
  | [] => c
  | _ :: rest => { c with rest, index := c.index + 1, column := c.column + 1 }

def skipMany (c : Cursor) : Nat → Cursor
  | 0 => c
  | n + 1 => c.skip.skipMany n

/-- The characters of a class that come next, and the place behind them. The class holds no
break. -/
def span (c : Cursor) (p : Char → Bool) : List Char × Cursor :=
  let taken := c.rest.takeWhile p
  (taken, { c with
    rest := c.rest.dropWhile p
    index := c.index + taken.length
    column := c.column + taken.length })

def skipWhile (c : Cursor) (p : Char → Bool) : Cursor := (c.span p).2

def newLine (c : Cursor) (rest : List Char) (n : Nat) : Cursor :=
  ⟨rest, c.index + n, c.line + 1, 0⟩

/-- A line break as texts hold it, and the place behind it. The separators keep their form, and
every other break is a line feed. Nothing is read where there is no break. -/
def readBreak (c : Cursor) : List Char × Cursor :=
  match c.rest with
  | '\r' :: '\n' :: rest => (['\n'], c.newLine rest 2)
  | b :: rest =>
    if b == '\u2028' || b == '\u2029' then ([b], c.newLine rest 1)
    else if isBreak b then (['\n'], c.newLine rest 1)
    else ([], c)
  | [] => ([], c)

def skipBreak (c : Cursor) : Cursor := c.readBreak.2

def skipBlanks (c : Cursor) : Cursor := c.skipWhile isBlank

def skipComment (c : Cursor) : Cursor :=
  if c.next? == some '#' then c.skipWhile fun ch => !isBreak ch else c

/-- Behind blanks, a comment and the break that must follow; nothing when something else does. -/
def finishLine? (c : Cursor) : Option Cursor :=
  let c := c.skipBlanks.skipComment
  if c.endsLine then some c.skipBreak else none

/-- Whether a mark of three characters stands alone at the start of a line. -/
def seesMarker (c : Cursor) (mark : Char) : Bool :=
  c.column == 0 && c.rest.take 3 == [mark, mark, mark] && c.endsWordAt 3

def seesDocumentMarker (c : Cursor) : Bool := c.seesMarker '-' || c.seesMarker '.'

end Cursor

end ObservedConfig.Yaml
