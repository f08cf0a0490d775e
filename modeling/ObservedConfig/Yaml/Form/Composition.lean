import ObservedConfig.Yaml.Form
import ObservedConfig.Yaml.Token.Lexer

/-! Composing documents from tokens. The tokens end early where the text is malformed, so running
out of tokens is a fault like a token out of place. -/
namespace ObservedConfig.Yaml

structure Composer where
  tokens : List Token
  /-- What the handles of tags stand for. -/
  handles : List (String × String)
  /-- The numbers of the anchors by name. -/
  anchors : List (String × Nat)

namespace Composer

abbrev Step (α : Type) := Composer → Option (α × Composer)

def next? (s : Composer) : Option Token := s.tokens.head?

def skip (s : Composer) : Composer := { s with tokens := s.tokens.drop 1 }

/-- Gives a name an anchor number: as many as there are names before it. -/
def nameAnchor (s : Composer) (name : String) : Nat × Composer :=
  let number := s.anchors.length
  (number, { s with anchors := (name, number) :: s.anchors.filter fun a => a.1 != name })

def resolveTag? (s : Composer) (handle suffix : String) : Option String :=
  if handle.isEmpty then some suffix
  else (s.handles.find? fun h => h.1 == handle).map fun h => h.2 ++ suffix

/-- The properties of a node: the name of its anchor and its tag, in either order. -/
structure Properties where
  anchor : Option String
  tag : Option (String × String)

def anchorOf? (s : Composer) : Option String × Composer :=
  match s.next? with
  | some (.anchor name) => (some name, s.skip)
  | _ => (none, s)

def tagOf? (s : Composer) : Option (String × String) × Composer :=
  match s.next? with
  | some (.tag handle suffix) => (some (handle, suffix), s.skip)
  | _ => (none, s)

def properties (s : Composer) : Properties × Composer :=
  match s.anchorOf? with
  | (some name, s) =>
    let (tag, s) := s.tagOf?
    (⟨some name, tag⟩, s)
  | (none, s) =>
    let (tag, s) := s.tagOf?
    match tag with
    | some tag =>
      let (anchor, s) := s.anchorOf?
      (⟨anchor, some tag⟩, s)
    | none => (⟨none, none⟩, s)

def withAnchor (number : Option Nat) (form : Form) : Form :=
  match number with
  | some n => .anchored n form
  | none => form

/-- On a scalar that is written out, the sign of a tag alone says nothing. -/
def scalarTag (tag : Option String) : Option String := tag.filter (· != "!")

mutual

/-- A node. Blocks may stand outside brackets only, and a sequence without indentation only below a
key. -/
def node? (fuel : Nat) (block indentless : Bool) : Step Form := fun s =>
  match fuel with
  | 0 => none
  | fuel + 1 =>
    match s.next? with
    | none => none
    | some (.reference name) =>
      (s.anchors.find? fun a => a.1 == name).map fun a => (.reference a.2, s.skip)
    | some _ => do
      let (props, s) := s.properties
      let tag ← match props.tag with
        | some (handle, suffix) => (s.resolveTag? handle suffix).map some
        | none => some none
      let (number, s) := match props.anchor with
        | some name =>
          let (n, s) := s.nameAnchor name
          (some n, s)
        | none => (none, s)
      let (form, s) ← content? fuel block indentless (tag.isSome || number.isSome) tag s
      return (withAnchor number form, s)

def content? (fuel : Nat) (block indentless hasProperties : Bool) (tag : Option String) :
    Step Form := fun s =>
  match fuel with
  | 0 => none
  | fuel + 1 =>
    match s.next? with
    | none => none
    | some .blockEntry =>
      if indentless then
        (indentlessItems? fuel s).map fun (items, s) => (.seq tag items, s)
      else if hasProperties then some (.scalar tag true "", s)
      else none
    | some (.scalar text isPlain) => some (.scalar (scalarTag tag) isPlain text, s.skip)
    | some .flowSequenceStart =>
      (flowItems? fuel true s.skip).map fun (items, s) => (.seq tag items, s)
    | some .flowMappingStart =>
      (flowEntries? fuel true s.skip).map fun (entries, s) => (.map tag entries, s)
    | some .blockSequenceStart =>
      if block then (blockItems? fuel s.skip).map fun (items, s) => (.seq tag items, s)
      else if hasProperties then some (.scalar tag true "", s)
      else none
    | some .blockMappingStart =>
      if block then (blockEntries? fuel s.skip).map fun (entries, s) => (.map tag entries, s)
      else if hasProperties then some (.scalar tag true "", s)
      else none
    | some _ => if hasProperties then some (.scalar tag true "", s) else none

/-- A node, unless the next token is one of those that show that it is left out. -/
def optionalNode? (fuel : Nat) (block indentless : Bool) (absentAt : List Token) : Step Form :=
  fun s =>
  match fuel with
  | 0 => none
  | fuel + 1 =>
    match s.next? with
    | none => none
    | some t => if absentAt.contains t then some (.absent, s) else node? fuel block indentless s

def blockItems? (fuel : Nat) : Step (List Form) := fun s =>
  match fuel with
  | 0 => none
  | fuel + 1 =>
    match s.next? with
    | some .blockEntry => do
      let (item, s) ← optionalNode? fuel true false [.blockEntry, .blockEnd] s.skip
      let (items, s) ← blockItems? fuel s
      return (item :: items, s)
    | some .blockEnd => some ([], s.skip)
    | _ => none

def indentlessItems? (fuel : Nat) : Step (List Form) := fun s =>
  match fuel with
  | 0 => none
  | fuel + 1 =>
    match s.next? with
    | some .blockEntry => do
      let (item, s) ← optionalNode? fuel true false [.blockEntry, .key, .value, .blockEnd] s.skip
      let (items, s) ← indentlessItems? fuel s
      return (item :: items, s)
    | some _ => some ([], s)
    | none => none

def blockEntries? (fuel : Nat) : Step (List (Form × Form)) := fun s =>
  match fuel with
  | 0 => none
  | fuel + 1 =>
    match s.next? with
    | some .key => do
      let (key, s) ← optionalNode? fuel true true [.key, .value, .blockEnd] s.skip
      let (value, s) ← match s.next? with
        | some .value => optionalNode? fuel true true [.key, .value, .blockEnd] s.skip
        | some _ => some (.absent, s)
        | none => none
      let (entries, s) ← blockEntries? fuel s
      return ((key, value) :: entries, s)
    | some .blockEnd => some ([], s.skip)
    | _ => none

def flowItems? (fuel : Nat) (isFirst : Bool) : Step (List Form) := fun s =>
  match fuel with
  | 0 => none
  | fuel + 1 =>
    match s.next? with
    | none => none
    | some .flowSequenceEnd => some ([], s.skip)
    | some t => do
      let s ← if isFirst then some s else if t == .flowEntry then some s.skip else none
      match s.next? with
      | none => none
      | some .flowSequenceEnd => return ([], s.skip)
      | some .key =>
        let (entry, s) ← flowPair? fuel s.skip
        let (items, s) ← flowItems? fuel false s
        return (.map none [entry] :: items, s)
      | some _ =>
        let (item, s) ← node? fuel false false s
        let (items, s) ← flowItems? fuel false s
        return (item :: items, s)

/-- A single entry of a map, standing as an item of a sequence. -/
def flowPair? (fuel : Nat) : Step (Form × Form) := fun s =>
  match fuel with
  | 0 => none
  | fuel + 1 =>
    match s.next? with
    | none => none
    | some t => do
      let (key, s) ←
        if t == .value || t == .flowEntry || t == .flowSequenceEnd then some (.absent, s.skip)
        else node? fuel false false s
      let (value, s) ← match s.next? with
        | some .value => optionalNode? fuel false false [.flowEntry, .flowSequenceEnd] s.skip
        | some _ => some (.absent, s)
        | none => none
      if s.tokens.isEmpty then none
      return ((key, value), s)

def flowEntries? (fuel : Nat) (isFirst : Bool) : Step (List (Form × Form)) := fun s =>
  match fuel with
  | 0 => none
  | fuel + 1 =>
    match s.next? with
    | none => none
    | some .flowMappingEnd => some ([], s.skip)
    | some t => do
      let s ← if isFirst then some s else if t == .flowEntry then some s.skip else none
      match s.next? with
      | none => none
      | some .flowMappingEnd => return ([], s.skip)
      | some .key =>
        let (key, s) ← optionalNode? fuel false false [.value, .flowEntry, .flowMappingEnd] s.skip
        let (value, s) ← match s.next? with
          | some .value => optionalNode? fuel false false [.flowEntry, .flowMappingEnd] s.skip
          | some _ => some (.absent, s)
          | none => none
        let (entries, s) ← flowEntries? fuel false s
        return ((key, value) :: entries, s)
      | some _ =>
        let (key, s) ← node? fuel false false s
        if s.tokens.isEmpty then none
        let (entries, s) ← flowEntries? fuel false s
        return ((key, .absent) :: entries, s)

end

/-- Each step takes a token or goes down a level that the next token asks for. -/
def fuelFor (tokens : List Token) : Nat := 4 * tokens.length + 16

/-! ## Documents -/

def standardHandles : List (String × String) := [("!", "!"), ("!!", "tag:yaml.org,2002:")]

def directives? : List Token → Bool → List (String × String) →
    Option (List (String × String) × List Token)
  | .version major minor :: rest, versioned, handles =>
    if versioned || major != 1 || (minor != 1 && minor != 2) then none
    else directives? rest true handles
  | .tagHandle handle lead :: rest, versioned, handles =>
    if handles.any fun h => h.1 == handle then none
    else directives? rest versioned (handles ++ [(handle, lead)])
  | tokens, _, handles => some (handles ++ standardHandles, tokens)

def isDirective : Token → Bool
  | .version _ _ | .tagHandle _ _ => true
  | _ => false

def endsContent (t : Token) : Bool :=
  isDirective t || t == .documentStart || t == .documentEnd || t == .streamEnd

/-- The node of a document, with the tokens behind it. A document that has been started may be
empty. -/
def root? (tokens : List Token) : Option (Form × List Token) := do
  let compose (handles : List (String × String)) (tokens : List Token) :
      Option (Form × List Token) :=
    (node? (fuelFor tokens) true false ⟨tokens, handles, []⟩).map fun (form, s) => (form, s.tokens)
  let first ← tokens.head?
  if isDirective first || first == .documentStart then
    let (handles, tokens) ← directives? tokens false []
    match tokens with
    | .documentStart :: t :: rest =>
      if endsContent t then return (.absent, t :: rest) else compose handles (t :: rest)
    | _ => none
  else compose standardHandles tokens

/-- Only the first document may start without a mark. -/
def mayStart (isFirst : Bool) (tokens : List Token) : Bool :=
  isFirst || tokens.head?.any fun t => isDirective t || t == .documentStart

/-- The documents of a stream. The last one is `none` when the text is malformed from there on. -/
def documents (fuel : Nat) (isFirst : Bool) (tokens : List Token) : List (Option Form) :=
  match fuel with
  | 0 => []
  | fuel + 1 =>
    let tokens := if isFirst then tokens else tokens.dropWhile (· == .documentEnd)
    if tokens.head? == some .streamEnd then []
    else if !mayStart isFirst tokens then [none]
    else
      match root? tokens with
      | none | some (_, []) => [none]
      | some (form, .documentEnd :: rest) => some form :: documents fuel false rest
      | some (form, rest) => some form :: documents fuel false rest

end Composer

def documents (text : String) : List (Option Form) :=
  let tokens := Token.ofString text
  Composer.documents (tokens.length + 1) true tokens

end ObservedConfig.Yaml
