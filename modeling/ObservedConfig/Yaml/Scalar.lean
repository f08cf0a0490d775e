import ObservedConfig.Text.Digit
import ObservedConfig.Yaml.Cursor

/-! The three forms of scalars in a YAML text. In plain and quoted scalars, lines are folded: a
single break between two lines is a space, and of several breaks all but the first count. Block
scalars keep their lines, or fold those that are not indented further. -/
namespace ObservedConfig.Yaml

inductive Gap where
  | blanks (cs : List Char)
  /-- At least one break: the first, which may be escaped, and the others. -/
  | lines (first : List Char) (others : List Char)
  deriving Inhabited

namespace Gap

def fold : Gap → List Char
  | blanks cs => cs
  | lines ['\n'] [] => [' ']
  | lines ['\n'] others => others
  | lines first others => first ++ others

def hasBreak : Gap → Bool
  | blanks _ => false
  | lines _ _ => true

/-- Extends a gap by the blanks and breaks that come next. A tab on a further line before the column
`indent` is a fault. -/
def read? (indent : Nat) : Nat → Gap → Cursor → Option (Gap × Cursor)
  | 0, _, _ => none
  | fuel + 1, gap, c =>
    match c.next? with
    | none => some (gap, c)
    | some ch =>
      if isBlank ch then
        match gap with
        | blanks cs => read? indent fuel (blanks (cs ++ [ch])) c.skip
        | lines first others =>
          if ch == '\t' && c.column < indent then none
          else read? indent fuel (lines first others) c.skip
      else if isBreak ch then
        let (b, c) := c.readBreak
        match gap with
        | blanks _ => read? indent fuel (lines b []) c
        | lines first others => read? indent fuel (lines first (others ++ b)) c
      else some (gap, c)

end Gap

structure Scanned where
  text : List Char
  cursor : Cursor
  /-- Whether the text is followed by a break that belongs to its end. -/
  brokenOff : Bool := false

/-! ## Plain scalars -/

def isFlowIndicator (c : Char) : Bool := [',', '[', ']', '\x7b', '\x7d'].contains c

/-- A word of a plain scalar. Inside brackets a colon before an indicator is a fault. -/
def plainWord? (flow : Bool) : List Char → Option (List Char)
  | [] => some []
  | c :: rest =>
    if isBlank c || isBreak c then some []
    else if flow && c == ':' && rest.head?.any (fun d => isFlowIndicator d || d == '?') then none
    else if (c == ':' && endsWord rest.head?) || (flow && isFlowIndicator c) then some []
    else (plainWord? flow rest).map (c :: ·)

/-- The words of a plain scalar, joined by what their gaps stand for. On further lines they stand at
the column `indent` or behind it, except inside brackets. -/
def plainWords? (flow : Bool) (indent : Nat) : Nat → List Char → Gap → Cursor → Option Scanned
  | 0, _, _, _ => none
  | fuel + 1, done, gap, c =>
    if c.seesDocumentMarker || c.next? == some '#' then some ⟨done, c, gap.hasBreak⟩
    else do
      let word ← plainWord? flow c.rest
      let after := c.skipMany word.length
      let (done, gap) :=
        if word.isEmpty then (done, gap) else (done ++ gap.fold ++ word, .blanks [])
      if after.sees (fun ch => isBlank ch || isBreak ch) then
        let (gap, next) ← Gap.read? indent (after.rest.length + 1) gap after
        if !flow && next.column < indent then some ⟨done, next, gap.hasBreak⟩
        else plainWords? flow indent fuel done gap next
      else some ⟨done, after, gap.hasBreak⟩

def plainScalar? (flow : Bool) (indent : Nat) (c : Cursor) : Option Scanned :=
  plainWords? flow indent (c.rest.length + 1) [] (.blanks []) c

/-! ## Quoted scalars -/

def charOfCode? (n : Nat) : Option Char :=
  if (0xd800 ≤ n && n ≤ 0xdfff) || n > 0x10ffff then none else some (Char.ofNat n)

def coded? (count : Nat) (cs : List Char) : Option (Char × Nat) := do
  let digits := cs.take count
  if digits.length < count then none
  let n ← Text.natural? 16 digits
  return (← charOfCode? n, count + 2)

/-- The character that an escape stands for, given what follows its backslash, and the number of
characters it takes with its backslash. -/
def escape? : List Char → Option (Char × Nat)
  | [] => none
  | c :: rest =>
    match c with
    | '0' => some ('\x00', 2)
    | 'a' => some ('\x07', 2)
    | 'b' => some ('\x08', 2)
    | 't' | '\t' => some ('\t', 2)
    | 'n' => some ('\n', 2)
    | 'v' => some ('\x0b', 2)
    | 'f' => some ('\x0c', 2)
    | 'r' => some ('\r', 2)
    | 'e' => some ('\x1b', 2)
    | ' ' | '"' | '/' | '\\' => some (c, 2)
    | 'N' => some ('\u0085', 2)
    | '_' => some ('\u00a0', 2)
    | 'L' => some ('\u2028', 2)
    | 'P' => some ('\u2029', 2)
    | 'x' => coded? 2 rest
    | 'u' => coded? 4 rest
    | 'U' => coded? 8 rest
    | _ => none

inductive WordEnd where
  | plain
  /-- A backslash before a break. -/
  | escapedBreak

/-- A word of a quoted scalar: everything up to a blank, a break or the closing quote. -/
def quotedWord? (quote : Char) : Nat → List Char → Cursor → Option (List Char × WordEnd × Cursor)
  | 0, _, _ => none
  | fuel + 1, done, c =>
    match c.rest with
    | [] => some (done, .plain, c)
    | ch :: rest =>
      if isBlank ch || isBreak ch then some (done, .plain, c)
      else if ch == quote then
        if quote == '\'' && rest.head? == some '\'' then
          quotedWord? quote fuel (done ++ ['\'']) (c.skipMany 2)
        else some (done, .plain, c)
      else if quote == '"' && ch == '\\' then
        if rest.head?.any isBreak then some (done, .escapedBreak, c.skip.skipBreak)
        else do
          let (value, width) ← escape? rest
          quotedWord? quote fuel (done ++ [value]) (c.skipMany width)
      else quotedWord? quote fuel (done ++ [ch]) c.skip

def quotedWords? (quote : Char) : Nat → List Char → Cursor → Option Scanned
  | 0, _, _ => none
  | fuel + 1, done, c =>
    if c.seesDocumentMarker || c.isAtEnd then none
    else do
      let (word, wordEnd, c) ← quotedWord? quote (c.rest.length + 1) [] c
      let done := done ++ word
      if c.next? == some quote then return ⟨done, c.skip, false⟩
      let gap := match wordEnd with
        | .plain => Gap.blanks []
        | .escapedBreak => .lines [] []
      let (gap, c) ← Gap.read? 0 (c.rest.length + 1) gap c
      quotedWords? quote fuel (done ++ gap.fold) c

def quotedScalar? (quote : Char) (c : Cursor) : Option Scanned :=
  quotedWords? quote (c.rest.length + 1) [] c.skip

/-! ## Block scalars -/

inductive Chomping where
  | strip
  | clip
  | keep
  deriving DecidableEq

structure BlockHeader where
  chomping : Chomping
  /-- The announced indentation. -/
  increment : Option Nat

def chomping? : Char → Option Chomping
  | '+' => some .keep
  | '-' => some .strip
  | _ => none

/-- A digit that announces the indentation. Zero is a fault. -/
def increment? (c : Cursor) : Option (Option Nat × Cursor) :=
  match c.next? with
  | some d =>
    if d == '0' then none
    else if d.isDigit then some (some (d.toNat - '0'.toNat), c.skip)
    else some (none, c)
  | none => some (none, c)

/-- The signs behind the sign of a block scalar, in either order. -/
def blockHeader? (c : Cursor) : Option (BlockHeader × Cursor) := do
  match c.next?.bind chomping? with
  | some chomping =>
    let (increment, c) ← increment? c.skip
    return (⟨chomping, increment⟩, c)
  | none =>
    let (increment, c) ← increment? c
    match increment, c.next?.bind chomping? with
    | some _, some chomping => return (⟨chomping, increment⟩, c.skip)
    | _, _ => return (⟨.clip, increment⟩, c)

/-- Indentation and empty lines. With no column given, all leading spaces are indentation, and the
deepest column is noted; a tab there is a fault. -/
def blockBreaks? (indent : Option Nat) : Nat → List Char → Nat → Cursor →
    Option (List Char × Nat × Cursor)
  | 0, _, _, _ => none
  | fuel + 1, breaks, deepest, c =>
    let within (c : Cursor) : Bool := indent.all (c.column < ·)
    let c := match indent with
      | none => c.skipWhile (· == ' ')
      | some column =>
        c.skipMany (min (c.rest.takeWhile (· == ' ')).length (column - c.column))
    let deepest := max deepest c.column
    if within c && c.next? == some '\t' then none
    else if c.seesBreak then
      let (b, c) := c.readBreak
      blockBreaks? indent fuel (breaks ++ b) deepest c
    else some (breaks, deepest, c)

/-- The lines of a block scalar at the column `indent`. `pending` is the break before the line at
hand, `breaks` are empty lines before it, and `blank` tells whether the line before started with a
blank. The result is the text with what is left of both at its end. -/
def blockLines? (isLiteral : Bool) (indent : Nat) : Nat → List Char → List Char → List Char → Bool →
    Cursor → Option (List Char × List Char × List Char × Cursor)
  | 0, _, _, _, _, _ => none
  | fuel + 1, done, pending, breaks, blank, c =>
    if c.column == indent && !c.isAtEnd then do
      let startsBlank := c.sees isBlank
      let joint :=
        if !isLiteral && pending == ['\n'] && !blank && !startsBlank then
          if breaks.isEmpty then [' '] else breaks
        else pending ++ breaks
      let (line, c) := c.span fun ch => !isBreak ch
      let (pending, c) := c.readBreak
      let (breaks, _, c) ← blockBreaks? (some indent) (c.rest.length + 1) [] 0 c
      blockLines? isLiteral indent fuel (done ++ joint ++ line) pending breaks startsBlank c
    else some (done, pending, breaks, c)

/-- A block scalar behind its sign, in a block at the column `parent`; a text that is in no block
has none. -/
def blockScalar? (isLiteral : Bool) (parent : Option Nat) (c : Cursor) : Option Scanned := do
  let (header, c) ← blockHeader? c
  let c ← c.finishLine?
  let announced := header.increment.map fun n => parent.getD 0 + n
  let (breaks, deepest, c) ← blockBreaks? announced (c.rest.length + 1) [] 0 c
  let least := match parent with
    | some column => column + 1
    | none => 1
  let indent := announced.getD (max deepest least)
  let (text, pending, breaks, c) ←
    blockLines? isLiteral indent (c.rest.length + 1) [] [] breaks false c
  let text := if header.chomping == .strip then text else text ++ pending
  return ⟨if header.chomping == .keep then text ++ breaks else text, c, false⟩

end ObservedConfig.Yaml
