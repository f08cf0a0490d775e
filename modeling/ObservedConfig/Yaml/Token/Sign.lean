import ObservedConfig.Yaml.Scalar
import ObservedConfig.Yaml.Token

/-! The tokens that begin with a sign and have a name: directives, anchors, references to anchors,
and tags. -/
namespace ObservedConfig.Yaml

abbrev Read? := Option (Token × Cursor)

/-! ## Anchors -/

def endsAnchor (c : Cursor) : Bool :=
  c.endsWordAt 0 || c.sees fun ch => ['?', ':', ',', ']', '\x7d', '%', '@', '`'].contains ch

def anchor? (make : String → Token) (c : Cursor) : Read? :=
  let (name, c) := c.skip.span isWordChar
  if name.isEmpty || !endsAnchor c then none else some (make (String.ofList name), c)

/-! ## Tags -/

def isUriChar (c : Char) : Bool :=
  isWordChar c ||
    [';', '/', '?', ':', '@', '&', '=', '+', '$', '.', '!', '~', '*', '\'', '(', ')'].contains c

/-- In a tag between angle brackets, some indicators stand for themselves. -/
def isVerbatimChar (c : Char) : Bool := isUriChar c || c == ',' || c == '[' || c == ']'

def escapedByte? : List Char → Option (Nat × List Char)
  | '%' :: a :: b :: rest => (Text.natural? 16 [a, b]).map fun n => (n, rest)
  | _ => none

def trailingBytes? : Nat → Nat → List Char → Option (Nat × List Char)
  | 0, n, cs => some (n, cs)
  | count + 1, n, cs => do
    let (byte, cs) ← escapedByte? cs
    if byte / 64 != 2 then none
    trailingBytes? count (n * 64 + byte % 64) cs

def escapedChar? (cs : List Char) : Option (Char × List Char) := do
  let (byte, cs) ← escapedByte? cs
  let (count, n) ←
    if byte < 0x80 then some (0, byte)
    else if byte / 32 == 6 then some (1, byte % 32)
    else if byte / 16 == 14 then some (2, byte % 16)
    else if byte / 8 == 30 then some (3, byte % 8)
    else none
  let (n, cs) ← trailingBytes? count n cs
  return (Char.ofNat n, cs)

def uri? (p : Char → Bool) : Nat → List Char → Cursor → Option (List Char × Cursor)
  | 0, _, _ => none
  | fuel + 1, done, c =>
    match c.next? with
    | some '%' => do
      let (ch, rest) ← escapedChar? c.rest
      uri? p fuel (done ++ [ch]) (c.skipMany (c.rest.length - rest.length))
    | some ch => if p ch then uri? p fuel (done ++ [ch]) c.skip else some (done, c)
    | none => some (done, c)

def readUri? (p : Char → Bool) (c : Cursor) : Option (List Char × Cursor) :=
  uri? p (c.rest.length + 1) [] c

/-- A handle at its sign: two signs with a name between them, or one sign and what follows it. -/
def handle (c : Cursor) : List Char × Cursor :=
  let (name, after) := c.skip.span isWordChar
  if after.next? == some '!' then ('!' :: name ++ ['!'], after.skip) else ('!' :: name, after)

def verbatimTag? (c : Cursor) : Read? := do
  let (suffix, c) ← readUri? isVerbatimChar (c.skipMany 2)
  if suffix.isEmpty || c.next? != some '>' then none
  return (.tag "" (String.ofList suffix), c.skip)

/-- A tag with a handle, or without one. A sign alone is a tag as well. -/
def shorthandTag? (c : Cursor) : Read? := do
  let (name, c) := handle c
  if name.length > 1 && name.getLast? == some '!' then
    let (suffix, c) ← readUri? isUriChar c
    if suffix.isEmpty then none
    return (.tag (String.ofList name) (String.ofList suffix), c)
  else
    let (suffix, c) ← readUri? isUriChar c
    let suffix := name.drop 1 ++ suffix
    if suffix.isEmpty then return (.tag "" "!", c)
    return (.tag "!" (String.ofList suffix), c)

def tag? (flow : Bool) (c : Cursor) : Read? := do
  let (token, c) ← if c.at? 1 == some '<' then verbatimTag? c else shorthandTag? c
  if c.endsWordAt 0 || (flow && c.next? == some ',') then return (token, c) else none

/-! ## Directives -/

def versionNumber? (c : Cursor) : Option (Nat × Cursor) :=
  let (digits, c) := c.span Char.isDigit
  if digits.isEmpty || digits.length > 9 then none
  else some (digits.foldl (fun n d => n * 10 + (d.toNat - '0'.toNat)) 0, c)

def versionDirective? (c : Cursor) : Read? := do
  let (major, c) ← versionNumber? c.skipBlanks
  if c.next? != some '.' then none
  let (minor, c) ← versionNumber? c.skip
  return (.version major minor, c)

def handleDirective? (c : Cursor) : Read? := do
  let c := c.skipBlanks
  if c.next? != some '!' then none
  let (name, c) := handle c
  if name != ['!'] && name.getLast? != some '!' then none
  if !c.sees isBlank then none
  let (lead, c) ← readUri? isVerbatimChar c.skipBlanks
  if lead.isEmpty || !c.endsWordAt 0 then none
  return (.tagHandle (String.ofList name) (String.ofList lead), c)

def directive? (c : Cursor) : Read? := do
  let (name, c) := c.skip.span isWordChar
  if !c.endsWordAt 0 then none
  let (token, c) ←
    if name == "YAML".toList then versionDirective? c
    else if name == "TAG".toList then handleDirective? c
    else none
  return (token, ← c.finishLine?)

end ObservedConfig.Yaml
