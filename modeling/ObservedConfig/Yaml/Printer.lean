import ObservedConfig.Datum
import ObservedConfig.Yaml.Quoting

/-! YAML text of a datum, in block style. Maps are indented by two spaces, a sequence stands at the
column of the key that holds it, and empty containers are written as brackets. -/
namespace ObservedConfig.Yaml

def endsLine (out : String) : Bool :=
  match out.toList.getLast? with
  | none => true
  | some c => isBreak c

def startLine (out : String) (column : Nat) : String :=
  (if endsLine out then out else out ++ "\n") ++ spaces column

/-- Goes to a column, on the line of a sign just written or on a line of its own. -/
def goTo (out : String) (column : Nat) (sameLine : Bool) : String :=
  if sameLine then out ++ " " else startLine out column

def writeLeaf (indent : Nat) : Datum → String
  | .bool b => toString b
  | .int i => toString i
  | .float x =>
    if x.isNaN then ".nan" else if x.isInfinite then x.sign ++ ".inf" else x.documentText
  | .text s => writeText indent s
  | .seq _ => "[]"
  | .map _ => "\x7b\x7d"
  | _ => "null"

mutual

/-- A value behind the colon of a simple key at `column`. -/
def writeValue (out : String) (column : Nat) : Datum → String
  | .seq (item :: items) => writeItems out column false (item :: items)
  | .map (entry :: entries) => writeEntries out (column + 2) false (entry :: entries)
  | .tagged _ content => writeValue out column content
  | d => out ++ " " ++ writeLeaf (column + 2) d

/-- A value behind a sign at `column` that opens a level of its own. -/
def writeNested (out : String) (column : Nat) : Datum → String
  | .seq (item :: items) => writeItems out (column + 2) true (item :: items)
  | .map (entry :: entries) => writeEntries out (column + 2) true (entry :: entries)
  | .tagged _ content => writeNested out column content
  | d => out ++ " " ++ writeLeaf (column + 2) d

def writeItems (out : String) (column : Nat) (sameLine : Bool) : List Datum → String
  | [] => out
  | item :: items =>
    let out := writeNested (goTo out column sameLine ++ "-") column item
    writeItems out column false items

def writeEntries (out : String) (column : Nat) (sameLine : Bool) : List (Datum × Datum) → String
  | [] => out
  | (.text key, value) :: entries =>
    let out := goTo out column sameLine
    let out :=
      if isSimpleKey key then writeValue (out ++ writeText (column + 2) key ++ ":") column value
      else
        let out := out ++ "? " ++ writeText (column + 2) key
        writeNested (startLine out column ++ ":") column value
    writeEntries out column false entries
  | (key, value) :: entries =>
    let out := goTo out column sameLine ++ writeLeaf (column + 2) key ++ ":"
    writeEntries (writeValue out column value) column false entries

end

def print (d : Datum) : String :=
  let out := match d with
    | .seq (item :: items) => writeItems "" 0 false (item :: items)
    | .map (entry :: entries) => writeEntries "" 0 false (entry :: entries)
    | d => writeLeaf 2 d
  startLine out 0

end ObservedConfig.Yaml
