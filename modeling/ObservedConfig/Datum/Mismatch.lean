import ObservedConfig.Datum
import ObservedConfig.Text.Escaped

/-! Why a value does not have the shape that is asked for. The wording depends on the format the
value was read from only in how the value found is named. -/
namespace ObservedConfig

inductive Format where
  | json
  | yaml
  deriving DecidableEq

inductive Mismatch where
  | wrongType (found : Datum) (expected : String)
  | wrongValue (found : Datum) (expected : String)
  | wrongLength (length : Nat) (expected : String)
  | missingField (name : String)
  | duplicateField (name : String)
  | unknownVariant (name : String) (known : List String)
  /-- No alternative of a choice fits; `choice` names it. -/
  | noAlternative (choice : String)
  /-- A text that is not in the notation its field asks for. -/
  | malformed (reason : String)
  deriving Inhabited

namespace Format

def floatText : Format → Binary64 → String
  | .json, x => x.documentText
  | .yaml, x => x.plainText

def describe (format : Format) : Datum → String
  | .null => match format with
    | .json => "null"
    | .yaml => "unit value"
  | .bool b => "boolean `" ++ toString b ++ "`"
  | .int i => "integer `" ++ toString i ++ "`"
  | .float x => "floating point `" ++ format.floatText x ++ "`"
  | .text s => "string " ++ Text.escaped s
  | .seq _ => "sequence"
  | .map _ => "map"
  | .tagged _ _ => "enum"

end Format

namespace Mismatch

def quoted (name : String) : String := "`" ++ name ++ "`"

def oneOf : List String → String
  | [] => "there are no variants"
  | [a] => "expected " ++ quoted a
  | [a, b] => "expected " ++ quoted a ++ " or " ++ quoted b
  | known => "expected one of " ++ ", ".intercalate (known.map quoted)

def message (format : Format) : Mismatch → String
  | wrongType found expected =>
    "invalid type: " ++ format.describe found ++ ", expected " ++ expected
  | wrongValue found expected =>
    "invalid value: " ++ format.describe found ++ ", expected " ++ expected
  | wrongLength length expected =>
    "invalid length " ++ toString length ++ ", expected " ++ expected
  | missingField name => "missing field " ++ quoted name
  | duplicateField name => "duplicate field " ++ quoted name
  | unknownVariant name known => "unknown variant " ++ quoted name ++ ", " ++ oneOf known
  | noAlternative choice => "data did not match any variant of untagged enum " ++ choice
  | malformed reason => reason

end Mismatch

end ObservedConfig
