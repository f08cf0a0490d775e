import ObservedConfig.Yaml.Token.Sign

/-! Splitting a YAML text into tokens. A key on a single line is only known as one when its colon
comes, so every token that may start such a key is held back until that is settled; a text that
turns out malformed gives the tokens that were settled before. -/
namespace ObservedConfig.Yaml

/-- A token that may start a key whose colon is still to come. -/
structure KeyStart where
  /-- Where the token stands in the order of all tokens. -/
  number : Nat
  /-- The token stands at the column of the block, where nothing but a key may stand. -/
  isRequired : Bool
  place : Cursor

structure Lexer where
  cursor : Cursor
  /-- The columns of the open blocks, innermost first. -/
  indents : List Nat
  /-- The possible key of each open level of brackets, innermost first, with one for no brackets. -/
  keys : List (Option KeyStart)
  /-- Whether a key may start here. -/
  keyAllowed : Bool
  /-- How many tokens were settled. -/
  settled : Nat
  /-- The tokens that are not settled. -/
  held : List Token

namespace Lexer

def start (cs : List Char) : Lexer := ⟨.start cs, [], [none], true, 0, []⟩

def inFlow (s : Lexer) : Bool := s.keys.length > 1

def push (s : Lexer) (t : Token) : Lexer := { s with held := s.held ++ [t] }

/-- Puts a token where the token with a given number stands. -/
def insert (s : Lexer) (number : Nat) (t : Token) : Lexer :=
  let before := number - s.settled
  { s with held := s.held.take before ++ t :: s.held.drop before }

def isAtIndent (s : Lexer) (column : Nat) : Bool := s.indents.head? == some column

/-- A key that was required but did not come is a fault. -/
def dropKey? (s : Lexer) : Option Lexer :=
  match s.keys with
  | some key :: rest => if key.isRequired then none else some { s with keys := none :: rest }
  | _ => some s

def noteKey? (s : Lexer) : Option Lexer :=
  if s.keyAllowed then do
    let s ← s.dropKey?
    let isRequired := !s.inFlow && s.isAtIndent s.cursor.column
    let key : KeyStart := ⟨s.settled + s.held.length, isRequired, s.cursor⟩
    return { s with keys := some key :: s.keys.drop 1 }
  else some s

/-- A key lies on one line and has at most 1024 characters. -/
def isStale (c : Cursor) (key : KeyStart) : Bool :=
  key.place.line < c.line || key.place.index + 1024 < c.index

def dropStale? (s : Lexer) : Option Lexer := do
  let keys ← s.keys.mapM fun
    | some key =>
      if isStale s.cursor key then if key.isRequired then none else some none else some (some key)
    | none => some none
  return { s with keys }

/-- Opens a block at a column, unless one is open there or further in. The block starts before the
token with the given number, if one is given. -/
def openBlock (s : Lexer) (column : Nat) (number : Option Nat) (t : Token) : Lexer :=
  if !s.inFlow && s.indents.head?.all (· < column) then
    let s := { s with indents := column :: s.indents }
    match number with
    | some number => s.insert number t
    | none => s.push t
  else s

/-- Closes the blocks that are open further in than a column; without a column, all of them. -/
def closeBlocks (s : Lexer) (column : Option Nat) : Lexer :=
  if s.inFlow then s
  else
    let closed := s.indents.takeWhile fun indent => column.all (· < indent)
    { s with
      indents := s.indents.drop closed.length
      held := s.held ++ closed.map fun _ => .blockEnd }

/-- Behind a byte order mark at the start of a line, where it counts as a column. -/
def skipMark (c : Cursor) : Cursor :=
  if c.column == 0 && c.next? == some '\ufeff' then c.skip else c

/-- Skips blanks, comments and line breaks before a token. Tabs are skipped where no key may
start. -/
def skipToToken : Nat → Lexer → Lexer
  | 0, s => s
  | fuel + 1, s =>
    let tabs := s.inFlow || !s.keyAllowed
    let c := (skipMark s.cursor).skipWhile fun ch => ch == ' ' || (tabs && ch == '\t')
    let c := c.skipComment
    if c.seesBreak then
      skipToToken fuel { s with cursor := c.skipBreak, keyAllowed := s.keyAllowed || !s.inFlow }
    else { s with cursor := c }

def take (s : Lexer) (n : Nat) (keyAllowed : Bool) (t : Token) : Lexer :=
  { s.push t with cursor := s.cursor.skipMany n, keyAllowed }

def endBlocks? (s : Lexer) (read? : Cursor → Read?) : Option Lexer := do
  let s ← (s.closeBlocks none).dropKey?
  let (t, cursor) ← read? s.cursor
  return { s.push t with cursor, keyAllowed := false }

/-- The end of the text, which ends its last line. -/
def endStream? (s : Lexer) : Option Lexer := do
  let c := s.cursor
  let s ← (s.closeBlocks none).dropKey?
  return { s.push .streamEnd with
    cursor := if c.column == 0 then c else { c with line := c.line + 1, column := 0 }
    keyAllowed := false }

def openFlow? (s : Lexer) (t : Token) : Option Lexer := do
  let s ← s.noteKey?
  return { s.take 1 true t with keys := none :: s.keys }

def closeFlow? (s : Lexer) (t : Token) : Option Lexer := do
  let s ← s.dropKey?
  return { s.take 1 false t with keys := if s.inFlow then s.keys.drop 1 else s.keys }

def flowEntry? (s : Lexer) : Option Lexer := do
  return (← s.dropKey?).take 1 true .flowEntry

def blockSign? (s : Lexer) (opening t : Token) (keyAllowed : Bool) : Option Lexer :=
  if s.inFlow then some (s.take 1 keyAllowed t)
  else if s.keyAllowed then some ((s.openBlock s.cursor.column none opening).take 1 keyAllowed t)
  else none

def blockEntry? (s : Lexer) : Option Lexer := do
  if !s.inFlow && !s.keyAllowed then none
  (← (s.openBlock s.cursor.column none .blockSequenceStart).dropKey?).take 1 true .blockEntry

def key? (s : Lexer) : Option Lexer := do
  if !s.inFlow && !s.keyAllowed then none
  (← (s.openBlock s.cursor.column none .blockMappingStart).dropKey?).take 1 (!s.inFlow) .key

def value? (s : Lexer) : Option Lexer :=
  match s.keys with
  | some key :: rest =>
    let s := { s with keys := none :: rest }
    let s := s.insert key.number .key
    let s := s.openBlock key.place.column (some key.number) .blockMappingStart
    some (s.take 1 false .value)
  | _ => s.blockSign? .blockMappingStart .value (!s.inFlow)

/-- A token that may start a key and is read from its own first character. -/
def keyed? (s : Lexer) (read? : Cursor → Read?) : Option Lexer := do
  let s ← s.noteKey?
  let (t, cursor) ← read? s.cursor
  return { s.push t with cursor, keyAllowed := false }

def quoted? (s : Lexer) (quote : Char) : Option Lexer :=
  s.keyed? fun c => do
    let scanned ← quotedScalar? quote c
    return (.scalar (String.ofList scanned.text) false, scanned.cursor)

def block? (s : Lexer) (isLiteral : Bool) : Option Lexer := do
  let s ← s.dropKey?
  let scanned ← blockScalar? isLiteral s.indents.head? s.cursor.skip
  return { s.push (.scalar (String.ofList scanned.text) false) with
    cursor := scanned.cursor, keyAllowed := true }

def plain? (s : Lexer) : Option Lexer := do
  let s ← s.noteKey?
  let indent := match s.indents with
    | column :: _ => column + 1
    | [] => 0
  let scanned ← plainScalar? s.inFlow indent s.cursor
  return { s.push (.scalar (String.ofList scanned.text) true) with
    cursor := scanned.cursor, keyAllowed := scanned.brokenOff }

def marker? (t : Token) (c : Cursor) : Read? := some (t, c.skipMany 3)

def isSign (c : Char) : Bool :=
  ['-', '?', ':', ',', '[', ']', '\x7b', '\x7d', '#', '&', '*', '!', '|', '>', '\'', '"', '%', '@',
    '`'].contains c

def startsPlain (s : Lexer) (ch : Char) : Bool :=
  let next := s.cursor.at? 1
  !(isBlank ch || isBreak ch || isSign ch) ||
    (ch == '-' && !next.any isBlank) ||
    (!s.inFlow && (ch == '?' || ch == ':') && !endsWord next)

/-- The next token, with tokens for the blocks that end before it or start with it. -/
def next? (s : Lexer) : Option Lexer := do
  let s ← (skipToToken (s.cursor.rest.length + 1) s).dropStale?
  let s := s.closeBlocks (some s.cursor.column)
  let c := s.cursor
  match c.next? with
  | none => s.endStream?
  | some ch =>
    if c.column == 0 && ch == '%' then s.endBlocks? directive?
    else if c.seesMarker '-' then s.endBlocks? (marker? .documentStart)
    else if c.seesMarker '.' then s.endBlocks? (marker? .documentEnd)
    else if ch == '[' then s.openFlow? .flowSequenceStart
    else if ch == '\x7b' then s.openFlow? .flowMappingStart
    else if ch == ']' then s.closeFlow? .flowSequenceEnd
    else if ch == '\x7d' then s.closeFlow? .flowMappingEnd
    else if ch == ',' then s.flowEntry?
    else if ch == '-' && c.endsWordAt 1 then s.blockEntry?
    else if ch == '?' && (s.inFlow || c.endsWordAt 1) then s.key?
    else if ch == ':' && (s.inFlow || c.endsWordAt 1) then s.value?
    else if ch == '*' then s.keyed? (anchor? .reference)
    else if ch == '&' then s.keyed? (anchor? .anchor)
    else if ch == '!' then s.keyed? (tag? s.inFlow)
    else if ch == '|' && !s.inFlow then s.block? true
    else if ch == '>' && !s.inFlow then s.block? false
    else if ch == '\'' || ch == '"' then s.quoted? ch
    else if s.startsPlain ch then s.plain?
    else none

/-- Whether the first token that is not settled may turn out to start a key. -/
def isHeadOpen (s : Lexer) : Bool :=
  s.keys.any fun key => key.any (·.number == s.settled)

def tokens : Nat → Lexer → List Token
  | 0, _ => []
  | fuel + 1, s =>
    match s.held with
    | [] =>
      match s.next? with
      | none => []
      | some s => tokens fuel s
    | t :: rest =>
      match s.dropStale? with
      | none => []
      | some s =>
        if s.isHeadOpen then
          match s.next? with
          | none => []
          | some s => tokens fuel s
        else if t == .streamEnd then [t]
        else t :: tokens fuel { s with held := rest, settled := s.settled + 1 }

end Lexer

/-- The tokens of a text. They end with the end of the stream, unless the text is malformed. -/
def Token.ofString (text : String) : List Token :=
  let cs := text.toList
  if cs.all isAllowed then Lexer.tokens (8 * cs.length + 16) (Lexer.start cs) else []

end ObservedConfig.Yaml
