import ObservedConfig.Datum
import ObservedConfig.Text.Digit

/-! JSON text of a datum, on one line or indented by two spaces a level. Values that JSON cannot
hold are null. -/
namespace ObservedConfig.Json

def escapeChar (c : Char) : String :=
  match c with
  | '"' => "\\\""
  | '\\' => "\\\\"
  | '\n' => "\\n"
  | '\r' => "\\r"
  | '\t' => "\\t"
  | '\x08' => "\\b"
  | '\x0c' => "\\f"
  | c => if c.toNat < 0x20 then "\\u" ++ Text.hex c.toNat 4 else c.toString

def quote (s : String) : String := "\"" ++ String.join (s.toList.map escapeChar) ++ "\""

def leaf : Datum → String
  | .bool b => toString b
  | .int i => toString i
  | .float x => if x.isFinite then x.documentText else "null"
  | .text s => quote s
  | _ => "null"

mutual

def compact : Datum → String
  | .seq items => "[" ++ ",".intercalate (compactItems items) ++ "]"
  | .map entries => "\x7b" ++ ",".intercalate (compactEntries entries) ++ "\x7d"
  | .tagged _ content => compact content
  | d => leaf d

def compactItems : List Datum → List String
  | [] => []
  | item :: rest => compact item :: compactItems rest

def compactEntries : List (Datum × Datum) → List String
  | [] => []
  | (.text name, value) :: rest => (quote name ++ ":" ++ compact value) :: compactEntries rest
  | (_, _) :: rest => compactEntries rest

end

def newline (depth : Nat) : String := "\n".pushn ' ' (2 * depth)

def block (opening closing : String) (depth : Nat) (parts : List String) : String :=
  if parts.isEmpty then opening ++ closing
  else opening ++ newline (depth + 1) ++ ("," ++ newline (depth + 1)).intercalate parts
    ++ newline depth ++ closing

mutual

def pretty (depth : Nat) : Datum → String
  | .seq items => block "[" "]" depth (prettyItems (depth + 1) items)
  | .map entries => block "\x7b" "\x7d" depth (prettyEntries (depth + 1) entries)
  | .tagged _ content => pretty depth content
  | d => leaf d

def prettyItems (depth : Nat) : List Datum → List String
  | [] => []
  | item :: rest => pretty depth item :: prettyItems depth rest

def prettyEntries (depth : Nat) : List (Datum × Datum) → List String
  | [] => []
  | (.text name, value) :: rest =>
    (quote name ++ ": " ++ pretty depth value) :: prettyEntries depth rest
  | (_, _) :: rest => prettyEntries depth rest

end

end ObservedConfig.Json
